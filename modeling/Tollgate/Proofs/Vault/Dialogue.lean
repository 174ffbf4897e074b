import Tollgate.Vault.Dialogue

/-!
Laws of dialogues: how one goes on after each outcome of a call, which calls it makes, whose failure
it ends with, and what it keeps if every call it may make keeps it.
-/

namespace Tollgate

/-- Someone who answers calls and may remember them. -/
abbrev Answerer (State : Type) := (call : Call) → State → call.Outcome × State

namespace Dialogue

variable {First Second Result State : Type} {answerer : Answerer State}

/-- The calls a dialogue makes with an answerer, the first one first. -/
def calls (answerer : Answerer State) : Dialogue Result → State → List Call
  | .done _, _ => []
  | .ask call next, state =>
    let (outcome, after) := answerer call state
    call :: (next outcome).calls answerer after

@[simp] theorem run_done (result : Result) (state : State) :
    (done result).run answerer state = (result, state) := rfl

/-- A call that fails ends a dialogue that demands an answer. -/
theorem run_demand_error {call : Call} {failed : Outage → Result}
    {next : call.Answer → Dialogue Result} {state after : State} {outage : Outage}
    (answered : answerer call state = (.error outage, after)) :
    (demand call failed next).run answerer state = (failed outage, after) := by
  simp only [demand, run, answered]

/-- A dialogue that demands an answer goes on with the answer. -/
theorem run_demand_ok {call : Call} {failed : Outage → Result}
    {next : call.Answer → Dialogue Result} {state after : State} {answer : call.Answer}
    (answered : answerer call state = (.ok answer, after)) :
    (demand call failed next).run answerer state = (next answer).run answerer after := by
  simp only [demand, run, answered]

/-- Held with an answerer, a dialogue leads to a result by way of these calls, and leaves the
answerer in this state. -/
def Leads (answerer : Answerer State) (dialogue : Dialogue Result) (state : State)
    (result : Result) (made : List Call) (after : State) : Prop :=
  dialogue.run answerer state = (result, after) ∧ dialogue.calls answerer state = made

/-- A dialogue always leads somewhere. -/
theorem leads_self (answerer : Answerer State) (dialogue : Dialogue Result) (state : State) :
    Leads answerer dialogue state (dialogue.run answerer state).1
      (dialogue.calls answerer state) (dialogue.run answerer state).2 :=
  ⟨rfl, rfl⟩

/-- A dialogue leads to one end only. -/
theorem leads_unique {dialogue : Dialogue Result} {state after other : State}
    {result found : Result} {made noted : List Call}
    (led : Leads answerer dialogue state result made after)
    (held : Leads answerer dialogue state found noted other) :
    result = found ∧ made = noted ∧ after = other := by
  obtain ⟨reached, rfl⟩ := led
  obtain ⟨same, rfl⟩ := held
  -- Both runs are the one that there is, so their ends are the same.
  rw [reached] at same
  cases same
  exact ⟨rfl, rfl, rfl⟩

/-- Where nothing more is asked, no call is made. -/
theorem leads_done (result : Result) (state : State) :
    Leads answerer (done result) state result [] state :=
  ⟨rfl, rfl⟩

/-- No call follows one that fails where an answer is demanded. -/
theorem leads_demand_error {call : Call} {failed : Outage → Result}
    {next : call.Answer → Dialogue Result} {state after : State} {outage : Outage}
    (answered : answerer call state = (.error outage, after)) :
    Leads answerer (demand call failed next) state (failed outage) [call] after := by
  refine ⟨run_demand_error answered, ?_⟩
  simp only [demand, calls, answered]

/-- The call for which an answer is demanded comes before those made with the answer. -/
theorem leads_demand_ok {call : Call} {failed : Outage → Result}
    {next : call.Answer → Dialogue Result} {state between after : State} {answer : call.Answer}
    {result : Result} {made : List Call}
    (answered : answerer call state = (.ok answer, between))
    (rest : Leads answerer (next answer) between result made after) :
    Leads answerer (demand call failed next) state result (call :: made) after := by
  refine ⟨(run_demand_ok answered).trans rest.1, ?_⟩
  simp only [demand, calls, answered, rest.2]

/-- Of two dialogues in a row, the second starts where the first has ended. -/
theorem leads_andThen {next : First → Dialogue Second} {dialogue : Dialogue First}
    {state between after : State} {first : First} {second : Second} {made more : List Call}
    (held : Leads answerer dialogue state first made between)
    (rest : Leads answerer (next first) between second more after) :
    Leads answerer (dialogue.andThen next) state second (made ++ more) after := by
  -- The first dialogue loses one call at a time until only its result is left.
  obtain ⟨reached, rfl⟩ := held
  induction dialogue generalizing state with
  | done found =>
    -- The first dialogue has come to its end, and the second begins.
    cases reached
    exact rest
  | ask call next ih =>
    -- The first call is made either way, and then the first dialogue has one call less to make.
    obtain ⟨led, listed⟩ := ih (answerer call state).1 reached
    exact ⟨led, congrArg (call :: ·) listed⟩

/-- Of two dialogues in a row, the second is held with what the first has left. -/
theorem run_andThen (next : First → Dialogue Second) (dialogue : Dialogue First) (state : State) :
    (dialogue.andThen next).run answerer state =
      (next (dialogue.run answerer state).1).run answerer (dialogue.run answerer state).2 := by
  -- Where the first leads, and where the second leads from there, is where both lead.
  have held := leads_self answerer dialogue state
  have rest := leads_self answerer (next (dialogue.run answerer state).1)
    (dialogue.run answerer state).2
  exact (leads_andThen held rest).1

/-- Every call that a dialogue makes is answered. -/
def allAnswered (answerer : Answerer State) : Dialogue Result → State → Bool
  | .done _, _ => true
  | .ask call next, state =>
    match answerer call state with
    | (.ok answer, after) => (next (.ok answer)).allAnswered answerer after
    | (.error _, _) => false

/-- Of the calls a dialogue makes, this is the first one to fail, and this is its failure. -/
inductive FailsAt (answerer : Answerer State) :
    Dialogue Result → State → Call → Outage → State → Prop
  /-- The next call fails. -/
  | first {call : Call} {next : call.Outcome → Dialogue Result} {state after : State}
      {outage : Outage} (failed : answerer call state = (.error outage, after)) :
      FailsAt answerer (.ask call next) state call outage after
  /-- The next call is answered, and one of those that follow fails. -/
  | later {call failing : Call} {next : call.Outcome → Dialogue Result}
      {state between after : State} {answer : call.Answer} {outage : Outage}
      (answered : answerer call state = (.ok answer, between))
      (rest : FailsAt answerer (next (.ok answer)) between failing outage after) :
      FailsAt answerer (.ask call next) state failing outage after

/-- The failure of a call ends the dialogue and is what comes of it, and nothing else fails. -/
def PassesOn : Dialogue (Except Outage Result) → Prop
  | .done result => ∃ found, result = .ok found
  | .ask _ next =>
    (∀ outage, next (.error outage) = .done (.error outage)) ∧
      ∀ answer, (next (.ok answer)).PassesOn

/-- Demanding an answer passes failures on. -/
theorem passesOn_demand {call : Call} {next : call.Answer → Dialogue (Except Outage Result)}
    (rest : ∀ answer, (next answer).PassesOn) : (demand call .error next).PassesOn :=
  ⟨fun _ => rfl, rest⟩

/-- A call that fails is the first one to do so. -/
theorem failsAt_ask_error {call failing : Call} {next : call.Outcome → Dialogue Result}
    {state between after : State} {failure outage : Outage}
    (asked : answerer call state = (.error failure, between)) :
    FailsAt answerer (ask call next) state failing outage after ↔
      failing = call ∧ outage = failure ∧ after = between := by
  constructor
  · intro fails
    -- The call cannot be answered as well, so the failure is its own.
    cases fails with
    | first failed =>
      cases asked.symm.trans failed
      exact ⟨rfl, rfl, rfl⟩
    | later answered rest => cases asked.symm.trans answered
  · rintro ⟨rfl, rfl, rfl⟩
    exact .first asked

/-- After a call that is answered, the first failure is that of the rest. -/
theorem failsAt_ask_ok {call failing : Call} {next : call.Outcome → Dialogue Result}
    {state between after : State} {answer : call.Answer} {outage : Outage}
    (asked : answerer call state = (.ok answer, between)) :
    FailsAt answerer (ask call next) state failing outage after ↔
      FailsAt answerer (next (.ok answer)) between failing outage after := by
  constructor
  · intro fails
    -- The call has not failed, so what fails comes later.
    cases fails with
    | first failed => cases asked.symm.trans failed
    | later answered rest =>
      cases asked.symm.trans answered
      exact rest
  · exact .later asked

/-- A dialogue that passes failures on fails exactly as the first of its calls to fail. -/
theorem run_eq_error_iff {dialogue : Dialogue (Except Outage Result)} (passes : dialogue.PassesOn)
    {state after : State} {outage : Outage} :
    dialogue.run answerer state = (.error outage, after) ↔
      ∃ call, dialogue.FailsAt answerer state call outage after := by
  -- The dialogue is followed for as long as its calls are answered.
  induction dialogue generalizing state with
  | done result =>
    -- A dialogue at its end has found something, and no call is left to fail.
    obtain ⟨found, rfl⟩ := passes
    constructor
    · intro failed
      cases failed
    · rintro ⟨call, failed⟩
      cases failed
  | ask call next ih =>
    obtain ⟨ends, goesOn⟩ := passes
    rcases asked : answerer call state with ⟨failure | answer, between⟩
    · -- The call fails, and nothing comes after it.
      simp only [run, asked, ends, failsAt_ask_error asked]
      constructor
      · intro same
        cases same
        exact ⟨call, rfl, rfl, rfl⟩
      · rintro ⟨failing, rfl, rfl, rfl⟩
        rfl
    · -- The call is answered, so the rest of the dialogue decides.
      simp only [run, asked, failsAt_ask_ok asked]
      exact ih _ (goesOn answer)

/-- Nothing is asked after the first failure where failures are passed on. -/
theorem FailsAt.calls_eq {dialogue : Dialogue (Except Outage Result)} {state after : State}
    {failing : Call} {outage : Outage} (passes : dialogue.PassesOn)
    (fails : dialogue.FailsAt answerer state failing outage after) :
    ∃ answered, dialogue.calls answerer state = answered ++ [failing] := by
  -- The induction is on the calls that are answered before the one that fails.
  induction fails with
  | @first call next _ _ outage failed =>
    -- The dialogue is at its end once the call has failed.
    obtain ⟨ends, -⟩ := passes
    refine ⟨[], ?_⟩
    simp only [calls, failed, ends, List.nil_append]
  | @later call failing next _ between _ answer _ answered rest ih =>
    -- The call is answered, and what follows passes failures on as well.
    obtain ⟨-, goesOn⟩ := passes
    obtain ⟨before, listed⟩ := ih (goesOn answer)
    refine ⟨call :: before, ?_⟩
    simp only [calls, answered, listed, List.cons_append]

/-- A dialogue leads to the same end with everyone who answers alike the calls it makes; what they
answer to other calls is of no account. -/
theorem leads_congr {other : Answerer State} {dialogue : Dialogue Result} {state after : State}
    {result : Result} {made : List Call} (led : Leads answerer dialogue state result made after)
    (agree : ∀ call ∈ made, ∀ met, other call met = answerer call met) :
    Leads other dialogue state result made after := by
  -- Each call is one of those made, so the rest starts from the same outcome and the same state.
  obtain ⟨reached, rfl⟩ := led
  induction dialogue generalizing state with
  | done found => exact ⟨reached, rfl⟩
  | ask call next ih =>
    -- The call itself is one of those made, so its outcome is the same.
    have same : other call state = answerer call state := agree call List.mem_cons_self state
    have agreeLater : ∀ later ∈ (next (answerer call state).1).calls answerer
        (answerer call state).2, ∀ met, other later met = answerer later met := by
      intro later member
      exact agree later (List.mem_cons_of_mem call member)
    obtain ⟨led, listed⟩ := ih (answerer call state).1 reached agreeLater
    refine ⟨?_, ?_⟩
    · simp only [run, same]
      exact led
    · simp only [calls, same]
      exact congrArg (call :: ·) listed

/-- Whatever comes of its calls, the dialogue makes none but calls of a kind. -/
def AsksOnly (allowed : Call → Prop) : Dialogue Result → Prop
  | .done _ => True
  | .ask call next => allowed call ∧ ∀ outcome, (next outcome).AsksOnly allowed

variable {allowed : Call → Prop}

@[simp] theorem asksOnly_done (result : Result) : (done result).AsksOnly allowed := trivial

/-- Demanding an answer is one more call. -/
theorem asksOnly_demand {call : Call} {failed : Outage → Result}
    {next : call.Answer → Dialogue Result} (permitted : allowed call)
    (rest : ∀ answer, (next answer).AsksOnly allowed) :
    (demand call failed next).AsksOnly allowed := by
  refine ⟨permitted, ?_⟩
  -- It ends with a failure, and goes on with an answer as the rest does.
  rintro (outage | answer)
  · exact trivial
  · exact rest answer

/-- Two dialogues in a row make no calls but those that either may make. -/
theorem asksOnly_andThen {next : First → Dialogue Second} {dialogue : Dialogue First}
    (first : dialogue.AsksOnly allowed) (second : ∀ result, (next result).AsksOnly allowed) :
    (dialogue.andThen next).AsksOnly allowed := by
  -- The calls of the first come first, and the second begins where it ends.
  induction dialogue with
  | done result => exact second result
  | ask call rest ih => exact ⟨first.1, fun outcome => ih outcome (first.2 outcome)⟩

/-- A dialogue that makes no calls but those of a kind makes none but those of any wider kind. -/
theorem AsksOnly.mono {wider : Call → Prop} {dialogue : Dialogue Result}
    (asks : dialogue.AsksOnly allowed) (widens : ∀ call, allowed call → wider call) :
    dialogue.AsksOnly wider := by
  induction dialogue with
  | done result => exact asksOnly_done result
  | ask call next ih => exact ⟨widens call asks.1, fun outcome => ih outcome (asks.2 outcome)⟩

/-- A dialogue leads to the same result with everyone who answers alike the calls it may make. -/
theorem run_alike {Other : Type} {other : Answerer Other} (Alike : State → Other → Prop)
    {dialogue : Dialogue Result} (asks : dialogue.AsksOnly allowed)
    (step : ∀ call, allowed call → ∀ state otherState, Alike state otherState →
      (answerer call state).1 = (other call otherState).1 ∧
        Alike (answerer call state).2 (other call otherState).2)
    {state : State} {otherState : Other} (alike : Alike state otherState) :
    (dialogue.run answerer state).1 = (dialogue.run other otherState).1 := by
  -- Both dialogues go on in the same way after each call.
  induction dialogue generalizing state otherState with
  | done result => rfl
  | ask call next ih =>
    obtain ⟨permitted, rest⟩ := asks
    obtain ⟨same, still⟩ := step call permitted state otherState alike
    simp only [run, same]
    exact ih _ (rest _) still

/-- What holds between the states before and after every call that a dialogue may make holds between
those before and after the whole dialogue, if it holds over any number of steps. -/
theorem run_relates (Related : State → State → Prop) (same : ∀ state, Related state state)
    (chain : ∀ first second third, Related first second → Related second third →
      Related first third)
    {dialogue : Dialogue Result} (asks : dialogue.AsksOnly allowed)
    (step : ∀ call, allowed call → ∀ state, Related state (answerer call state).2)
    (state : State) : Related state (dialogue.run answerer state).2 := by
  -- Each call hands on a state that is related to the one it was made in.
  induction dialogue generalizing state with
  | done result => exact same state
  | ask call next ih =>
    obtain ⟨permitted, rest⟩ := asks
    exact chain _ _ _ (step call permitted state) (ih _ (rest _) _)

/-- What every call keeps that a dialogue may make, the whole dialogue keeps. -/
theorem run_keeps {Kept : Type} (view : State → Kept) {dialogue : Dialogue Result}
    (asks : dialogue.AsksOnly allowed)
    (keeps : ∀ call, allowed call → ∀ state, view (answerer call state).2 = view state)
    (state : State) : view (dialogue.run answerer state).2 = view state :=
  run_relates (fun before after => view after = view before) (fun _ => rfl)
    (fun _ _ _ first second => second.trans first) asks keeps state

/-- No call is ruled out where all are allowed. -/
theorem asksOnly_any (dialogue : Dialogue Result) : dialogue.AsksOnly fun _ => True := by
  induction dialogue with
  | done result => exact asksOnly_done result
  | ask call next ih => exact ⟨trivial, ih⟩

/-- Whatever comes of its calls, the dialogue leads to nothing but results of a kind. -/
def EndsIn (wanted : Result → Prop) : Dialogue Result → Prop
  | .done result => wanted result
  | .ask _ next => ∀ outcome, (next outcome).EndsIn wanted

variable {wanted : Result → Prop}

/-- A dialogue that demands an answer leads to what its failure and what its answer lead to. -/
theorem endsIn_demand {call : Call} {failed : Outage → Result}
    {next : call.Answer → Dialogue Result} (failure : ∀ outage, wanted (failed outage))
    (rest : ∀ answer, (next answer).EndsIn wanted) :
    (demand call failed next).EndsIn wanted := by
  -- The outcome of the call is a failure or an answer, and both have been provided for.
  rintro (outage | answer)
  · exact failure outage
  · exact rest answer

/-- Whoever answers its calls, a dialogue leads to a result of the kind it ends in. -/
theorem run_endsIn {dialogue : Dialogue Result} (ends : dialogue.EndsIn wanted)
    (answerer : Answerer State) (state : State) : wanted (dialogue.run answerer state).1 := by
  -- Whatever the outcome, the rest ends in results of the kind as well.
  induction dialogue generalizing state with
  | done result => exact ends
  | ask call next ih => exact ih _ (ends _) _

end Dialogue

end Tollgate
