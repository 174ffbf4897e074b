import Tollgate.Proofs.Vault.Dialogue
import Tollgate.Vault.Basic

/-! Reading from the store: what a store in order answers, and that asking it changes nothing. -/

namespace Tollgate

/-- The call asks for something, and orders nothing. -/
def Call.isRead : Call → Bool
  | .touchKey _ _ | .insertMapping _ => false
  | _ => true

/-- The call asks for something that the store keeps of the account. -/
def Call.Concerns (account : AccountId) : Call → Prop
  | .findAccount other | .listBills other | .listCards other | .sumUsage other _ _ =>
    other = account
  | _ => False

/-- A call about an account asks for something. -/
theorem Call.Concerns.isRead {account : AccountId} {call : Call}
    (concerns : call.Concerns account) : call.isRead = true := by
  -- The four calls about an account are all questions.
  cases call <;> first | rfl | exact concerns.elim

namespace Dialogue

variable {First Second Result : Type}

/-- The dialogue asks for things, and orders nothing, whatever it is answered. -/
def OnlyReads (dialogue : Dialogue Result) : Prop :=
  dialogue.AsksOnly (·.isRead = true)

/-- Asking nothing is only reading. -/
theorem onlyReads_done (result : Result) : (done result).OnlyReads :=
  asksOnly_done result

/-- Demanding an answer to a question is only reading, if all that follows is. -/
theorem onlyReads_demand {call : Call} {failed : Outage → Result}
    {next : call.Answer → Dialogue Result} (isRead : call.isRead = true)
    (rest : ∀ answer, (next answer).OnlyReads) : (demand call failed next).OnlyReads :=
  asksOnly_demand isRead rest

/-- Two dialogues in a row only read if both do. -/
theorem onlyReads_andThen {next : First → Dialogue Second} {dialogue : Dialogue First}
    (first : dialogue.OnlyReads) (second : ∀ result, (next result).OnlyReads) :
    (dialogue.andThen next).OnlyReads :=
  asksOnly_andThen first second

end Dialogue

namespace Vault

/-- Calls change what the store keeps, and never whether it is in order. -/
theorem answer_eq (call : Call) (vault : Vault) :
    (Vault.answer call vault).2 = { vault with tables := (Vault.answer call vault).2.tables } := by
  -- A call that is refused changes nothing, and any other one only the tables.
  simp only [Vault.answer]
  split <;> rfl

/-- A store that fails goes on to, and one in order stays so. -/
theorem failing_answer (call : Call) (vault : Vault) :
    (Vault.answer call vault).2.failing = vault.failing := by
  rw [answer_eq]

/-- Calls do not change whether mappings are seen. -/
theorem staleMappings_answer (call : Call) (vault : Vault) :
    (Vault.answer call vault).2.staleMappings = vault.staleMappings := by
  rw [answer_eq]

/-- A store in order does not refuse to be read. -/
theorem refuses_of_isRead {vault : Vault} {call : Call} (inOrder : vault.failing = false)
    (isRead : call.isRead = true) : vault.refuses call = false := by
  -- Only the record of a key's use fails by itself, and that is no reading.
  cases call <;> simp_all [refuses, Call.isRead]

/-- Reading leaves the tables as they are. -/
theorem respond_of_isRead {call : Call} (isRead : call.isRead = true) (tables : Tables)
    (staleMappings : Bool) : (respond tables staleMappings call).2 = tables := by
  -- The two calls that give orders are the only ones to change anything.
  cases call <;> first | rfl | simp [Call.isRead] at isRead

/-- A store in order answers what its tables say when it is read. -/
theorem answer_of_isRead {vault : Vault} {call : Call} (inOrder : vault.failing = false)
    (isRead : call.isRead = true) :
    Vault.answer call vault = (.ok (respond vault.tables vault.staleMappings call).1, vault) := by
  have kept := respond_of_isRead isRead vault.tables vault.staleMappings
  simp only [Vault.answer, refuses_of_isRead inOrder isRead, Bool.false_eq_true, if_false, kept]

/-- Nothing else comes of reading from a store in order. -/
theorem eq_of_answer_isRead {vault after : Vault} {call : Call} {outcome : call.Outcome}
    (inOrder : vault.failing = false) (isRead : call.isRead = true)
    (answered : Vault.answer call vault = (outcome, after)) :
    outcome = .ok (respond vault.tables vault.staleMappings call).1 ∧ after = vault := by
  rw [answer_of_isRead inOrder isRead] at answered
  -- There is only one outcome, as the store is a function of the call.
  obtain ⟨same, kept⟩ := Prod.mk.inj answered
  exact ⟨same.symm, kept.symm⟩

/-- Reading from a store in order does not fail. -/
theorem answer_ne_error_of_isRead {vault after : Vault} {call : Call} {outage : Outage}
    (inOrder : vault.failing = false) (isRead : call.isRead = true) :
    Vault.answer call vault ≠ (.error outage, after) := by
  intro failed
  -- Any failure would be another outcome than the one there is.
  obtain ⟨impossible, -⟩ := eq_of_answer_isRead inOrder isRead failed
  cases impossible

/-- A store that fails answers no call, and stays as it is. -/
theorem answer_of_failing {vault : Vault} (failing : vault.failing = true) (call : Call) :
    Vault.answer call vault = (.error unresponsive, vault) := by
  simp [Vault.answer, refuses, failing]

/-- A store that answers a call is in order. -/
theorem inOrder_of_answer_ok {call : Call} {vault after : Vault} {answer : call.Answer}
    (answered : Vault.answer call vault = (.ok answer, after)) : vault.failing = false := by
  -- A store that fails would have refused the call.
  cases failing : vault.failing with
  | false => rfl
  | true => simp [Vault.answer, refuses, failing] at answered

/-- What the switch lets through is answered by the store behind it. -/
theorem answer_of_watched_answer_ok {call : Call} {watched after : Watched} {answer : call.Answer}
    (answered : watched.answer call = (.ok answer, after)) :
    Vault.answer call watched.vault = (.ok answer, after.vault) := by
  simp only [Watched.answer] at answered
  split at answered
  · -- A call that is not let through is not answered.
    cases answered
  · obtain ⟨outcome, rfl⟩ := Prod.mk.inj answered
    rw [← outcome]

/-- Reading leaves the store as it is, whether it is in order or not. -/
theorem answer_keeps {call : Call} (isRead : call.isRead = true) (vault : Vault) :
    (Vault.answer call vault).2 = vault := by
  -- A call that is refused does not get to the tables, and one that is answered only reads them.
  have kept := respond_of_isRead isRead vault.tables vault.staleMappings
  simp only [Vault.answer]
  split
  · rfl
  · simp only [kept]

/-- Reading leaves a watched store as it is, whether or not the call is let through. -/
theorem watched_answer_keeps {call : Call} (isRead : call.isRead = true) (watched : Watched) :
    (watched.answer call).2.vault = watched.vault := by
  -- The switch changes only what it notes and how many calls it lets through.
  simp only [Watched.answer]
  split
  · rfl
  · exact answer_keeps isRead watched.vault

/-- A watched store in order that lets the call through answers what its tables say. -/
theorem watched_answer_of_isRead {call : Call} {watched : Watched}
    (inOrder : watched.vault.failing = false) (through : watched.allowance ≠ some 0)
    (isRead : call.isRead = true) :
    watched.answer call =
      (.ok (respond watched.vault.tables watched.vault.staleMappings call).1,
        { watched with
          noted := call :: watched.noted, allowance := watched.allowance.map (· - 1) }) := by
  -- The switch hands the call on, and notes that it has let one more through.
  have answered := answer_of_isRead inOrder isRead
  simp only [Watched.answer, answered]

/-- What a watched store answers when it is read is what its tables say, and it stays as it is. -/
theorem watched_answer_ok {call : Call} {watched after : Watched} {answer : call.Answer}
    (isRead : call.isRead = true) (answered : watched.answer call = (.ok answer, after)) :
    answer = (respond watched.vault.tables watched.vault.staleMappings call).1 ∧
      after.vault = watched.vault := by
  -- That the store stays as it is holds whatever it answers.
  have kept := watched_answer_keeps isRead watched
  rw [answered] at kept
  refine ⟨?_, kept⟩
  -- The answer comes from the tables, for a call that is refused or kept back has none.
  simp only [Watched.answer, Vault.answer] at answered
  split at answered
  · cases answered
  · split at answered <;> cases answered
    rfl

/-- As long as their number is not limited, all calls of a dialogue get to the store behind the
switch. -/
theorem run_watched_of_unlimited {Result : Type} (dialogue : Dialogue Result) {watched : Watched}
    (unlimited : watched.allowance = none) :
    (dialogue.run Watched.answer watched).2.vault =
        (dialogue.run Vault.answer watched.vault).2 ∧
      (dialogue.run Watched.answer watched).2.allowance = none := by
  induction dialogue generalizing watched with
  | done result => exact ⟨rfl, unlimited⟩
  | ask call next ih =>
    -- Where nothing limits their number, the calls are handed on as they are.
    simp only [Dialogue.run, Watched.answer, unlimited, Option.map_none]
    exact ih _ rfl

/-- A dialogue that only reads leaves a watched store as it is. -/
theorem run_watched_keeps {Result : Type} {dialogue : Dialogue Result}
    (reads : dialogue.OnlyReads) (watched : Watched) :
    (dialogue.run Watched.answer watched).2.vault = watched.vault :=
  Dialogue.run_keeps Watched.vault reads (fun _ isRead => watched_answer_keeps isRead) watched

end Vault

end Tollgate
