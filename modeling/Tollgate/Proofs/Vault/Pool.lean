import Tollgate.Proofs.Vault.Reading

/-!
Several dialogues held at once with one store. Each call is a step of its own, those of different
dialogues follow one another in any order, and whoever asks for a mapping may get an answer from
before it was there.
-/

namespace Tollgate

variable {Result : Type}

/-- What a dialogue has led to, if it asks nothing more. -/
def Dialogue.result? : Dialogue Result → Option Result
  | .done result => some result
  | .ask _ _ => none

namespace Vault

/-- A moment at which one of several dialogues makes its next call. -/
structure Turn where
  /-- Which of the dialogues it is. -/
  place : Nat
  /-- Who asks for a mapping now is told that there is none. -/
  stale : Bool
  deriving DecidableEq

/-- A store and the dialogues that are held with it at once. -/
structure Pool (Result : Type) where
  /-- The store they share. -/
  vault : Vault
  /-- What is left of each of them. -/
  tasks : List (Dialogue Result)

namespace Pool

/-- Lets a dialogue make its next call; one that asks nothing more is left alone. -/
def step (pool : Pool Result) (turn : Turn) : Pool Result :=
  match pool.tasks[turn.place]? with
  | some (.ask call next) =>
    let (outcome, vault) := Vault.answer call { pool.vault with staleMappings := turn.stale }
    ⟨vault, pool.tasks.set turn.place (next outcome)⟩
  | _ => pool

/-- Lets the dialogues make their calls in the order of the turns. -/
def run (pool : Pool Result) (turns : List Turn) : Pool Result :=
  turns.foldl step pool

/-- All dialogues have come to their end, and this is what they have led to. -/
def LeadsTo (pool : Pool Result) (results : List Result) : Prop :=
  pool.tasks.map (·.result?) = results.map some

instance [DecidableEq Result] (pool : Pool Result) (results : List Result) :
    Decidable (pool.LeadsTo results) :=
  inferInstanceAs (Decidable (_ = _))

/-- A turn comes to nothing, or one dialogue goes on with the outcome of its next call while the
others stay where they are. -/
theorem step_cases (pool : Pool Result) (turn : Turn) :
    pool.step turn = pool ∨
      ∃ left call next right outcome after,
        pool.tasks = left ++ Dialogue.ask call next :: right ∧
          Vault.answer call { pool.vault with staleMappings := turn.stale } = (outcome, after) ∧
          pool.step turn = ⟨after, left ++ next outcome :: right⟩ := by
  unfold step
  -- A turn counts only for a dialogue that has a call to make.
  split
  · rename_i call next located
    rcases answered : Vault.answer call { pool.vault with staleMappings := turn.stale }
      with ⟨outcome, after⟩
    -- The list of dialogues falls apart at the place of the one that makes the call.
    obtain ⟨bound, found⟩ := List.getElem?_eq_some_iff.mp located
    have parted : pool.tasks =
        pool.tasks.take turn.place ++ .ask call next :: pool.tasks.drop (turn.place + 1) := by
      rw [← found, List.getElem_cons_drop, List.take_append_drop]
    refine Or.inr ⟨_, call, next, _, outcome, after, parted, answered, ?_⟩
    simp only [List.set_eq_take_append_cons_drop, if_pos bound]
  · exact Or.inl rfl

/-- Turns that come in two parts are taken one part after the other. -/
theorem run_append (pool : Pool Result) (turns more : List Turn) :
    pool.run (turns ++ more) = (pool.run turns).run more :=
  List.foldl_append

/-- A law that no turn breaks holds after any number of turns. -/
theorem run_keeps (Law : Pool Result → Prop)
    (step : ∀ pool turn, Law pool → Law (pool.step turn)) {pool : Pool Result} (law : Law pool)
    (turns : List Turn) : Law (pool.run turns) := by
  -- The law is handed on from each turn to the next.
  induction turns generalizing pool with
  | nil => exact law
  | cons turn rest ih => exact ih (step pool turn law)

/-- A dialogue that gets every turn from some moment on leads to what it leads to by itself. -/
theorem run_alone (left right : List (Dialogue Result)) (dialogue : Dialogue Result)
    (vault : Vault) :
    ∃ count, run ⟨vault, left ++ dialogue :: right⟩
        (List.replicate count ⟨left.length, vault.staleMappings⟩) =
      ⟨(dialogue.run Vault.answer vault).2,
        left ++ .done (dialogue.run Vault.answer vault).1 :: right⟩ := by
  -- Each turn is the next call of the dialogue, whose run goes on from its outcome.
  induction dialogue generalizing vault with
  | done result => exact ⟨0, rfl⟩
  | ask call next ih =>
    rcases answered : Vault.answer call vault with ⟨outcome, after⟩
    -- The turns are all given under the same condition, and no call changes it.
    have stale : after.staleMappings = vault.staleMappings := by
      have same := staleMappings_answer call vault
      rwa [answered] at same
    obtain ⟨count, led⟩ := ih outcome after
    refine ⟨count + 1, ?_⟩
    -- The dialogue stands behind those on its left, where its turns are given.
    have first : step ⟨vault, left ++ .ask call next :: right⟩
        ⟨left.length, vault.staleMappings⟩ = ⟨after, left ++ next outcome :: right⟩ := by
      simp [step, answered]
    simp only [Dialogue.run, answered, List.replicate_succ, run, List.foldl_cons, first]
    rw [← stale]
    exact led

end Pool

end Vault

end Tollgate
