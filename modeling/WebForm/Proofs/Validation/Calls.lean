import WebForm.Proofs.Validation.Fault

/-!
# A validator under any sequence of calls

A validator can be asked for its pass, for the verdict, and for what is known so far: messages,
valid data, state and outcome. The first two run the pass when it has not completed. This file lets
it be asked anything, in any order and any number of times, and says what it answers.

* `Call.answerDone` is what a validator says whose pass has completed: parts of one outcome.
* `Call.answerFresh` is what it says before that: the result of the pass to the calls that run it,
  and to the others that nothing is known.

Results:
* `call_of_done`, `call_of_fault`, `call_of_runsPass`, `call_of_not_runsPass`: all that one call can
  do.
* `callAll_of_done`, `callAll_of_fault`, `callAll_of_ok`: what a sequence of calls does, from a
  validator that has run, from one that faults, and from one that has yet to run.
* `state_callAll_eq_done_iff`, `exists_completes_iff`: when the validator is done after that, and when
  a call has completed the pass.
* `outcome_of_calls`: a validator has the outcome of its pass once a call has completed it; it has
  nothing before, and never has anything when the pass faults; and any validator that is done, with
  whatever outcome, keeps it.
-/

namespace WebForm

/-- What a validator can be asked. -/
inductive Call where
  | validate
  | isValid
  | errors
  | validData
  | state
  | outcome
  deriving DecidableEq, Repr

/-- What a validator answers. -/
inductive Answer where
  | validated (result : Except UnknownRule Outcome)
  | verdict (result : Except UnknownRule Bool)
  | errors (messages : List String)
  | validData (values : Option (OrderedMap String))
  | state (state : ValidationState)
  | outcome (outcome : Option Outcome)

namespace Answer

/-- The answer is that of a call that ran or found a completed pass. -/
inductive Completes : Answer → Prop
  | validated (outcome : Outcome) : Completes (.validated (.ok outcome))
  | verdict (isValid : Bool) : Completes (.verdict (.ok isValid))

end Answer

namespace Call

/-- The call runs the pass when it has not completed. -/
def runsPass : Call → Bool
  | validate => true
  | isValid => true
  | _ => false

/-- What a validator answers whose pass has completed with an outcome. -/
def answerDone (outcome : Outcome) : Call → Answer
  | validate => .validated (.ok outcome)
  | isValid => .verdict (.ok outcome.isValid)
  | errors => .errors outcome.errors
  | validData => .validData (some outcome.validData)
  | state => .state (.done outcome)
  | .outcome => .outcome (some outcome)

/-- What a validator answers whose pass has not completed, and gives a result when it is run. -/
def answerFresh (result : Except UnknownRule Outcome) : Call → Answer
  | validate => .validated result
  | isValid => .verdict (result.map Outcome.isValid)
  | errors => .errors []
  | validData => .validData none
  | state => .state .notRun
  | .outcome => .outcome none

/-- Once a validator is done, exactly the calls that run the pass are answered as completed. -/
theorem completes_answerDone_iff {outcome : Outcome} {c : Call} :
    (c.answerDone outcome).Completes ↔ c.runsPass = true := by
  constructor
  · intro h
    cases c <;> first | rfl | exact nomatch h
  · intro h
    cases c with
    | validate => exact .validated outcome
    | isValid => exact .verdict outcome.isValid
    | _ => exact absurd h (by decide)

/-- Before that, they are when the pass has an outcome. -/
theorem completes_answerFresh_iff {result : Except UnknownRule Outcome} {c : Call} :
    (c.answerFresh result).Completes ↔ c.runsPass = true ∧ ∃ outcome, result = .ok outcome := by
  cases result with
  | ok outcome =>
    constructor
    · intro h
      cases c <;> first | exact ⟨rfl, outcome, rfl⟩ | exact nomatch h
    · rintro ⟨h, -⟩
      cases c with
      | validate => exact .validated outcome
      | isValid => exact .verdict outcome.isValid
      | _ => exact absurd h (by decide)
  | error e =>
    refine ⟨fun h => ?_, fun ⟨_, _, h⟩ => nomatch h⟩
    cases c <;> exact nomatch h

end Call

namespace Validator

/-- Make a call: the answer, and the validator after it. -/
def call (v : Validator) : Call → Answer × Validator
  | .validate => (.validated v.run.1, v.run.2)
  | .isValid => (.verdict v.isValid.1, v.isValid.2)
  | .errors => (.errors v.errors, v)
  | .validData => (.validData v.validData?, v)
  | .state => (.state v.state, v)
  | .outcome => (.outcome v.outcome?, v)

/-- Make calls one after another: the answers, and the validator after them. -/
def callAll : Validator → List Call → List Answer × Validator
  | v, [] => ([], v)
  | v, c :: calls =>
    let (answer, v) := v.call c
    let (answers, v) := v.callAll calls
    (answer :: answers, v)

/-- The validator once its pass has completed. -/
def complete (v : Validator) (outcome : Outcome) : Validator := { v with state := .done outcome }

variable {v : Validator} {outcome : Outcome} {e : UnknownRule} {c : Call}

/-! ## One call -/

/-- A validator that is done answers from its outcome and stays as it is. -/
theorem call_of_done (h : v.state = .done outcome) : v.call c = (c.answerDone outcome, v) := by
  have hrun : v.run = (.ok outcome, v) := by
    unfold run
    rw [h]
  have houtcome : v.outcome? = some outcome := by
    unfold outcome?
    rw [h]
    rfl
  cases c <;>
    simp [call, Call.answerDone, isValid, errors, validData?, hrun, houtcome, h, Except.map]

/-- A validator that has not run knows nothing. -/
theorem call_of_not_runsPass (h : v.state = .notRun) (hc : c.runsPass = false)
    (result : Except UnknownRule Outcome) : v.call c = (c.answerFresh result, v) := by
  have houtcome : v.outcome? = none := by
    unfold outcome?
    rw [h]
    rfl
  cases c with
  | errors => simp [call, Call.answerFresh, errors, houtcome]
  | validData => simp [call, Call.answerFresh, validData?, houtcome]
  | state => simp [call, Call.answerFresh, h]
  | outcome => simp [call, Call.answerFresh, houtcome]
  | _ => exact absurd hc (by decide)

/-- A call that runs a pass that completes leaves a validator that is done. -/
theorem call_of_runsPass (h : v.state = .notRun)
    (hpass : WebForm.validate v.form v.data v.registry = .ok outcome) (hc : c.runsPass = true) :
    v.call c = (c.answerDone outcome, v.complete outcome) := by
  have hrun : v.run = (.ok outcome, v.complete outcome) := by
    unfold run
    rw [h]
    simp only [hpass]
    rfl
  cases c with
  | validate => simp [call, Call.answerDone, hrun]
  | isValid => simp [call, Call.answerDone, isValid, hrun, Except.map]
  | _ => exact absurd hc (by decide)

/-- A call to a validator whose pass faults leaves it as it is. -/
theorem call_of_fault (h : v.state = .notRun)
    (hpass : WebForm.validate v.form v.data v.registry = .error e) :
    v.call c = (c.answerFresh (.error e), v) := by
  have hrun : v.run = (.error e, v) := by
    unfold run
    rw [h]
    simp only [hpass]
  cases hc : c.runsPass with
  | false => exact call_of_not_runsPass h hc _
  | true =>
    cases c with
    | validate => simp [call, Call.answerFresh, hrun]
    | isValid => simp [call, Call.answerFresh, isValid, hrun, Except.map]
    | _ => exact absurd hc (by decide)

/-! ## Sequences of calls -/

theorem callAll_cons {answer : Answer} {v' : Validator} (h : v.call c = (answer, v'))
    (calls : List Call) :
    v.callAll (c :: calls) = (answer :: (v'.callAll calls).1, (v'.callAll calls).2) := by
  simp only [callAll, h]

/-- **Done is done.** Whatever a validator that is done is asked, it answers from its outcome and
stays as it is. -/
theorem callAll_of_done (h : v.state = .done outcome) (calls : List Call) :
    v.callAll calls = (calls.map (Call.answerDone outcome), v) := by
  induction calls with
  | nil => rfl
  | cons c calls ih => rw [callAll_cons (call_of_done h), ih, List.map_cons]

/-- **A fault stays a fault.** Whatever a validator whose pass faults is asked, it answers with the
same fault or that nothing is known, and stays as it is. -/
theorem callAll_of_fault (h : v.state = .notRun)
    (hpass : WebForm.validate v.form v.data v.registry = .error e) (calls : List Call) :
    v.callAll calls = (calls.map (Call.answerFresh (.error e)), v) := by
  induction calls with
  | nil => rfl
  | cons c calls ih => rw [callAll_cons (call_of_fault h hpass), ih, List.map_cons]

/-- **The first call that runs the pass is the turning point.** Calls before it are answered that
nothing is known; it and all calls behind it are answered from the outcome. -/
theorem callAll_of_ok (h : v.state = .notRun)
    (hpass : WebForm.validate v.form v.data v.registry = .ok outcome) : ∀ calls : List Call,
    v.callAll calls =
      ((calls.takeWhile fun c => !c.runsPass).map (Call.answerFresh (.ok outcome)) ++
          (calls.dropWhile fun c => !c.runsPass).map (Call.answerDone outcome),
        if calls.any Call.runsPass then v.complete outcome else v)
  | [] => rfl
  | c :: calls => by
    cases hc : c.runsPass with
    | true =>
      have hdone : (v.complete outcome).state = .done outcome := rfl
      rw [callAll_cons (call_of_runsPass h hpass hc), callAll_of_done hdone]
      simp [hc]
    | false =>
      rw [callAll_cons (call_of_not_runsPass h hc (.ok outcome)), callAll_of_ok h hpass calls]
      simp [hc]

/-- Calls leave a validator done iff one of them runs a pass that has an outcome. -/
theorem state_callAll_eq_done_iff (h : v.state = .notRun) (calls : List Call) :
    (v.callAll calls).2.state = .done outcome ↔
      calls.any Call.runsPass = true ∧
        WebForm.validate v.form v.data v.registry = .ok outcome := by
  cases hpass : WebForm.validate v.form v.data v.registry with
  | error e => simp [callAll_of_fault h hpass, h]
  | ok found =>
    rw [callAll_of_ok h hpass]
    cases calls.any Call.runsPass <;> simp [complete, h]

/-- A call is answered as completed iff one of them runs a pass that has an outcome. -/
theorem exists_completes_iff (h : v.state = .notRun) (calls : List Call) :
    (∃ answer ∈ (v.callAll calls).1, answer.Completes) ↔
      calls.any Call.runsPass = true ∧
        ∃ outcome, WebForm.validate v.form v.data v.registry = .ok outcome := by
  cases hpass : WebForm.validate v.form v.data v.registry with
  | error e =>
    rw [callAll_of_fault h hpass]
    refine ⟨?_, fun ⟨_, _, hok⟩ => nomatch hok⟩
    rintro ⟨answer, hanswer, hcompletes⟩
    obtain ⟨c, -, rfl⟩ := List.mem_map.mp hanswer
    obtain ⟨-, outcome, hok⟩ := Call.completes_answerFresh_iff.mp hcompletes
    exact nomatch hok
  | ok outcome =>
    have hparts : ∀ c, c ∈ calls ↔ c ∈ (calls.takeWhile fun c => !c.runsPass) ∨
        c ∈ calls.dropWhile fun c => !c.runsPass := by
      intro c
      rw [← List.mem_append, List.takeWhile_append_dropWhile]
    rw [List.any_eq_true, callAll_of_ok h hpass]
    constructor
    · rintro ⟨answer, hanswer, hcompletes⟩
      refine ⟨?_, outcome, rfl⟩
      rcases List.mem_append.mp hanswer with hm | hm
      · obtain ⟨c, hc, rfl⟩ := List.mem_map.mp hm
        exact ⟨c, (hparts c).mpr (Or.inl hc), (Call.completes_answerFresh_iff.mp hcompletes).1⟩
      · obtain ⟨c, hc, rfl⟩ := List.mem_map.mp hm
        exact ⟨c, (hparts c).mpr (Or.inr hc), Call.completes_answerDone_iff.mp hcompletes⟩
    · rintro ⟨⟨c, hc, hruns⟩, -⟩
      rcases (hparts c).mp hc with hm | hm
      · exact ⟨_, List.mem_append_left _ (List.mem_map_of_mem hm),
          Call.completes_answerFresh_iff.mpr ⟨hruns, outcome, rfl⟩⟩
      · exact ⟨_, List.mem_append_right _ (List.mem_map_of_mem hm),
          Call.completes_answerDone_iff.mpr hruns⟩

/-- **The outcome is found once and kept.** After any calls to a validator that had not run:
it is done with the outcome of its pass iff some call completed;
when no call completed it has not run, and has no messages and no valid data;
when the pass faults, every call that ran it was answered with that fault, and it has not run.
Every validator that is done, with whatever outcome, stays as it is, and every later call is answered
from that outcome: nothing is computed again. -/
theorem outcome_of_calls (form : Form) (data : OrderedMap String) (registry : Registry)
    (calls : List Call) :
    let answers := ((create form data registry).callAll calls).1
    let after := ((create form data registry).callAll calls).2
    ((∃ answer ∈ answers, answer.Completes) ↔
      ∃ outcome, WebForm.validate form data registry = .ok outcome ∧
        after.state = .done outcome) ∧
    ((¬ ∃ answer ∈ answers, answer.Completes) →
      after.state = .notRun ∧ after.errors = [] ∧ after.validData? = none) ∧
    (∀ (v : Validator) (outcome : Outcome), v.state = .done outcome → ∀ later,
      v.callAll later = (later.map (Call.answerDone outcome), v)) ∧
    ∀ e, WebForm.validate form data registry = .error e →
      answers = calls.map (Call.answerFresh (.error e)) ∧ after.state = .notRun := by
  intro answers after
  have hfresh : (create form data registry).state = .notRun := rfl
  have hdone : ∀ outcome, after.state = .done outcome ↔
      calls.any Call.runsPass = true ∧ WebForm.validate form data registry = .ok outcome :=
    fun _ => state_callAll_eq_done_iff hfresh calls
  have hcompletes := exists_completes_iff hfresh calls
  refine ⟨?_, fun hnone => ?_, fun _ _ h later => callAll_of_done h later,
    fun e he => ?_⟩
  · rw [hcompletes]
    constructor
    · rintro ⟨hruns, outcome, hok⟩
      exact ⟨outcome, hok, (hdone outcome).mpr ⟨hruns, hok⟩⟩
    · rintro ⟨outcome, hok, hstate⟩
      exact ⟨((hdone outcome).mp hstate).1, outcome, hok⟩
  · have hstate : after.state = .notRun := by
      cases h : after.state with
      | notRun => rfl
      | done outcome =>
        obtain ⟨hruns, hok⟩ := (hdone outcome).mp h
        exact absurd (hcompletes.mpr ⟨hruns, outcome, hok⟩) hnone
    exact ⟨hstate, by simp [errors, outcome?, hstate, ValidationState.outcome?],
      by simp [validData?, outcome?, hstate, ValidationState.outcome?]⟩
  · have hall := callAll_of_fault hfresh he calls
    exact ⟨congrArg Prod.fst hall, congrArg (state ∘ Prod.snd) hall⟩

/-- What a pass of `fourValues` over `fiveFields` finds. -/
def fourValuesOutcome : Outcome :=
  ⟨false, ["Code: 2", "Code: 2"], .ofList [("note", ""), ("nick", "")]⟩

theorem outcome_of_calls_fiveFields :
    ((create fiveFields fourValues paritySample).callAll [.errors, .isValid]).2.state =
        .done fourValuesOutcome ∧
      (((create fiveFields fourValues paritySample).callAll [.errors, .isValid]).2.callAll
          [.validData, .validate, .isValid]).1 =
        [.validData (some (.ofList [("note", ""), ("nick", "")])),
          .validated (.ok fourValuesOutcome), .verdict (.ok false)] ∧
      ((create ghostFields fourValues paritySample).callAll [.isValid, .errors, .validate]).1 =
        [.verdict (.error ⟨"code", ⟨"ghost"⟩⟩), .errors [],
          .validated (.error ⟨"code", ⟨"ghost"⟩⟩)] := by
  have hpass : WebForm.validate fiveFields fourValues paritySample = .ok fourValuesOutcome := by
    decide +kernel
  have hfault : WebForm.validate ghostFields fourValues paritySample =
      .error ⟨"code", ⟨"ghost"⟩⟩ := by decide +kernel
  have h := outcome_of_calls fiveFields fourValues paritySample [.errors, .isValid]
  obtain ⟨outcome, hok, hdone⟩ := h.1.mp ((exists_completes_iff rfl _).mpr ⟨rfl, _, hpass⟩)
  obtain rfl := Except.ok.inj (hpass.symm.trans hok)
  refine ⟨hdone, congrArg Prod.fst (h.2.2.1 _ _ hdone _), ?_⟩
  exact ((outcome_of_calls ghostFields fourValues paritySample _).2.2.2 _ hfault).1

end Validator

end WebForm
