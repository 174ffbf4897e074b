import Tollgate.Proofs.Vault.Reading

/-!
The switch that limits the calls to the store. A dialogue that ends with the first failure either
comes to what it would come to without a limit, or ends because there is one.
-/

namespace Tollgate

namespace Dialogue

variable {First Second Result : Type} {failed : Outage → Result}

/-- The failure of any call ends the dialogue with what the failure stands for. -/
def FailsWith (failed : Outage → Result) : Dialogue Result → Prop
  | .done _ => True
  | .ask _ next =>
    (∀ outage, next (.error outage) = .done (failed outage)) ∧
      ∀ answer, (next (.ok answer)).FailsWith failed

/-- Where nothing is asked, nothing can fail. -/
theorem failsWith_done (result : Result) : (done result).FailsWith failed := trivial

/-- Demanding an answer ends with the failure to get one. -/
theorem failsWith_demand {call : Call} {next : call.Answer → Dialogue Result}
    (rest : ∀ answer, (next answer).FailsWith failed) :
    (demand call failed next).FailsWith failed :=
  ⟨fun _ => rfl, rest⟩

/-- A dialogue that passes failures on ends with them. -/
theorem PassesOn.failsWith {dialogue : Dialogue (Except Outage Result)}
    (passes : dialogue.PassesOn) : dialogue.FailsWith .error := by
  -- The induction is over the calls, for which both conditions say the same.
  induction dialogue with
  | done result => exact failsWith_done result
  | ask call next ih =>
    obtain ⟨stops, goesOn⟩ := passes
    exact ⟨stops, fun answer => ih _ (goesOn answer)⟩

/-- A dialogue that passes failures on to one that knows what they stand for ends with them. -/
theorem failsWith_andThen {next : Except Outage First → Dialogue Second}
    {failed : Outage → Second} {dialogue : Dialogue (Except Outage First)}
    (passes : dialogue.PassesOn) (ends : ∀ outage, next (.error outage) = .done (failed outage))
    (rest : ∀ found, (next (.ok found)).FailsWith failed) :
    (dialogue.andThen next).FailsWith failed := by
  -- The failure is handed to what comes after, at each of the calls.
  induction dialogue with
  | done result =>
    -- The first dialogue has ended with what it found, and the other one goes on.
    obtain ⟨found, rfl⟩ := passes
    exact rest found
  | ask call later ih =>
    obtain ⟨stops, goesOn⟩ := passes
    refine ⟨fun outage => ?_, fun answer => ih _ (goesOn answer)⟩
    -- The failure is what the first dialogue comes to.
    show (later (.error outage)).andThen next = _
    rw [stops]
    exact ends outage

end Dialogue

namespace Vault

/-- The switch lets all calls through. -/
def Watched.unlimited (watched : Watched) : Watched := { watched with allowance := none }

/-- A dialogue that ends with the first failure comes to what it would come to if all calls were let
through, unless one is not let through. -/
theorem run_watched_or_unresponsive {Result : Type} {failed : Outage → Result}
    {dialogue : Dialogue Result} (fails : dialogue.FailsWith failed) (watched : Watched) :
    (dialogue.run Watched.answer watched).1 = failed unresponsive ∨
      (dialogue.run Watched.answer watched).1 =
        (dialogue.run Watched.answer watched.unlimited).1 := by
  induction dialogue generalizing watched with
  -- Nobody asks anything.
  | done result => exact Or.inr rfl
  | ask call next ih =>
    obtain ⟨ends, rest⟩ := fails
    by_cases spent : watched.allowance = some 0
    · -- The call is not let through, which ends the dialogue.
      have refused : (watched.answer call).1 = .error unresponsive := by
        simp only [Watched.answer, spent]
      left
      simp only [Dialogue.run, refused, ends]
    · -- The call is let through, and is answered as it would be without a limit.
      have same : (watched.answer call).1 = (watched.unlimited.answer call).1 := by
        simp only [Watched.answer, Watched.unlimited]
      have after : (watched.unlimited.answer call).2 = (watched.answer call).2.unlimited := by
        simp only [Watched.answer, Watched.unlimited, Option.map_none]
      simp only [Dialogue.run, after, ← same]
      -- What the store itself answers is the same in both, so the rest goes on alike.
      cases answered : (watched.answer call).1 with
      | error outage => exact Or.inr (by rw [ends, Dialogue.run_done, Dialogue.run_done])
      | ok answer => exact ih _ (rest answer) _

end Vault

end Tollgate
