import Tollgate.Proofs.Vault.Reading

/-!
Writing to the store. Whatever is done to it, its tables come about by single changes, one after
another, so that a law which every one of these keeps is kept by all that is ever done.
-/

namespace Tollgate.Vault

/-- A single change of what the store keeps. -/
inductive Write where
  /-- An account is opened. -/
  | openAccount (account : Account)
  /-- An account is disabled or enabled. -/
  | setDisabled (account : AccountId) (disabled : Bool)
  /-- A key is stored for a token. -/
  | issueKey (token : String) (key : AccessKey)
  /-- A key is withdrawn for good. -/
  | revoke (key : KeyId)
  /-- A key is switched off. -/
  | deactivate (key : KeyId)
  /-- The use of a key is recorded. -/
  | touch (key : KeyId) (instant : Instant)
  /-- An account gets a bill. -/
  | addBill (account : AccountId) (bill : Bill)
  /-- An account gets a prepaid card. -/
  | addCard (account : AccountId) (card : Card)
  /-- A use is recorded. -/
  | addUse (use : Use)
  /-- A mapping is added. -/
  | addMapping (mapping : Mapping)
  deriving DecidableEq

/-- The change is one that calls to the store make. All others are made by those who run it. -/
def Write.IsRoutine : Write → Prop
  | .touch _ _ | .addMapping _ => True
  | _ => False

namespace Tables

/-- Makes a change. -/
def write (tables : Tables) : Write → Tables
  | .openAccount account => tables.addAccount account
  | .setDisabled account disabled => tables.setDisabled account disabled
  | .issueKey token key => tables.addKey token key
  | .revoke key => tables.revoke key
  | .deactivate key => tables.deactivate key
  | .touch key instant => tables.touch key instant
  | .addBill account bill => tables.addBill account bill
  | .addCard account card => tables.addCard account card
  | .addUse use => tables.addUse use
  | .addMapping mapping => tables.addMapping mapping

/-- The second tables come about from the first by changes of a kind. -/
def Becomes (allowed : Write → Prop) (before after : Tables) : Prop :=
  ∃ writes : List Write, (∀ write ∈ writes, allowed write) ∧ after = writes.foldl write before

namespace Becomes

variable {allowed : Write → Prop} {first second third : Tables}

/-- Tables that are left alone come about by no change at all. -/
theorem refl (allowed : Write → Prop) (tables : Tables) : Becomes allowed tables tables :=
  ⟨[], by simp, rfl⟩

/-- A change of the kind brings about what it makes. -/
theorem one (allowed : Write → Prop) (change : Write) (permitted : allowed change)
    (tables : Tables) : Becomes allowed tables (tables.write change) :=
  ⟨[change], by simpa using permitted, rfl⟩

/-- Changes after changes are changes. -/
theorem trans (former : Becomes allowed first second) (latter : Becomes allowed second third) :
    Becomes allowed first third := by
  -- What leads to the second tables is done first, and then what leads on to the third.
  obtain ⟨writes, permitted, rfl⟩ := former
  obtain ⟨more, permitted', rfl⟩ := latter
  refine ⟨writes ++ more, ?_, by rw [List.foldl_append]⟩
  intro change member
  rcases List.mem_append.mp member with before | after
  · exact permitted change before
  · exact permitted' change after

/-- What every change of the kind keeps, tables that come about by such changes keep. -/
theorem keeps (Law : Tables → Prop)
    (step : ∀ tables change, allowed change → Law tables → Law (tables.write change))
    (becomes : Becomes allowed first second) (law : Law first) : Law second := by
  obtain ⟨writes, permitted, rfl⟩ := becomes
  -- The law is handed on from each change to the next.
  induction writes generalizing first with
  | nil => exact law
  | cons change rest ih =>
    have next := step first change (permitted change (by simp)) law
    exact ih next fun later member => permitted later (by simp [member])

end Becomes

end Tables

/-- A call in itself makes no change but a routine one, if it makes any. -/
theorem respond_becomes (tables : Tables) (staleMappings : Bool) (call : Call) :
    tables.Becomes Write.IsRoutine (respond tables staleMappings call).2 := by
  -- All other calls only look something up.
  cases call with
  | touchKey key instant =>
    exact Tables.Becomes.one Write.IsRoutine (.touch key instant) trivial tables
  | insertMapping mapping =>
    -- The mapping is added only if its name has none.
    simp only [respond, Tables.insertMapping]
    split
    · exact Tables.Becomes.refl _ tables
    · exact Tables.Becomes.one Write.IsRoutine (.addMapping mapping) trivial tables
  | _ => exact Tables.Becomes.refl _ tables

/-- A store in order that is told to add a mapping does so unless its name has one. -/
theorem answer_insertMapping {vault : Vault} (inOrder : vault.failing = false)
    (mapping : Mapping) :
    Vault.answer (.insertMapping mapping) vault =
      (.ok (vault.tables.insertMapping mapping).1,
        { vault with tables := (vault.tables.insertMapping mapping).2 }) := by
  -- In order, the store refuses nothing, and answers as its tables do.
  simp [Vault.answer, refuses, respond, inOrder]

/-- A call that is refused changes nothing, and any other one makes routine changes. -/
theorem answer_becomes (call : Call) (vault : Vault) :
    vault.tables.Becomes Write.IsRoutine (Vault.answer call vault).2.tables := by
  -- Only the call that is answered can change anything.
  simp only [Vault.answer]
  split
  · exact Tables.Becomes.refl _ vault.tables
  · exact respond_becomes vault.tables vault.staleMappings call

/-- A call makes routine changes, whether or not it is let through. -/
theorem watched_answer_becomes (call : Call) (watched : Watched) :
    watched.vault.tables.Becomes Write.IsRoutine (watched.answer call).2.vault.tables := by
  -- A call that is not let through meets no store that could change.
  simp only [Watched.answer]
  split
  · exact Tables.Becomes.refl _ watched.vault.tables
  · exact answer_becomes call watched.vault

/-- A dialogue makes routine changes if every call does, whatever is said in it. -/
theorem run_becomes {Result State : Type} {answerer : Answerer State} (kept : State → Tables)
    (step : ∀ call state, (kept state).Becomes Write.IsRoutine (kept (answerer call state).2))
    (dialogue : Dialogue Result) (state : State) :
    (kept state).Becomes Write.IsRoutine (kept (dialogue.run answerer state).2) :=
  Dialogue.run_relates (fun before after => (kept before).Becomes Write.IsRoutine (kept after))
    (fun state => Tables.Becomes.refl _ (kept state))
    (fun _ _ _ former latter => former.trans latter)
    dialogue.asksOnly_any (fun call _ => step call) state

end Tollgate.Vault
