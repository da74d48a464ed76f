import WebForm.CommandLine

/-!
# The judgement of a submission

The commands `validate` and `export` begin alike: both read the definition, then the submission, and
hold one against the other. What comes of it, a definition and an outcome or a failure, is the
*judgement*; the commands differ only in what they make of it. `validate` reports the outcome, and
an export writes the valid data where the submission is valid.

Results:
* `run_of_parse`, `runCommand_of_report`, `runCommand_of_write`: what a call leaves behind, from
  what its command decides.
* `decide_validate`, `decide_exportTo_csv`: what each command decides, from the judgement.
* `judge_eq_ok_iff`, `judge_eq_error_iff`: what has been read when there is a judgement, and what
  went wrong when there is none.
-/

namespace WebForm.CommandLine

variable {source : FileSource} {input : List UInt8} {form path : String}

/-- The submission that a command reads: that of a file, or the one on standard input. -/
def submissionFrom (source : FileSource) (input : List UInt8) :
    Option String → Except Failure (OrderedMap String)
  | some path => readData source path
  | none => readInput input

/-- The definition of a form, and the outcome of a submission held against it. -/
def judge (source : FileSource) (form : String)
    (submission : Except Failure (OrderedMap String)) : Except Failure (Definition × Outcome) :=
  match readForm source form, submission with
  | .error e, _ => .error e
  | .ok _, .error e => .error e
  | .ok definition, .ok submission =>
    match validate definition.form submission definition.registry with
    | .error e => .error (.unknownRule e)
    | .ok outcome => .ok (definition, outcome)

/-! ## From a call to its report -/

theorem run_of_parse {call : List String} {command : Command}
    (h : Command.parse call = .ok command) (files : Files) (input : List UInt8) :
    run files input call = runCommand files input command := by
  unfold run
  rw [h]

theorem runCommand_of_report {files : Files} {command : Command} {r : Report}
    (h : decide files.read input command = .report r) :
    runCommand files input command = (r, files) := by
  unfold runCommand
  rw [h]

theorem runCommand_of_write {files : Files} {command : Command} {content : List UInt8} {r : Report}
    (h : decide files.read input command = .write path content r) :
    runCommand files input command =
      match files.write path content with
      | .ok after => (r, after)
      | .error e => (writeFailure e, files) := by
  unfold runCommand
  generalize decide files.read input command = decision at h ⊢
  subst h
  rfl

/-! ## What the commands make of it -/

/-- The report of an outcome. -/
def verdictReport (outcome : Outcome) (asJson : Bool) : Report :=
  ⟨if outcome.isValid then 0 else 1,
    if asJson then outcome.toJson.pretty ++ "\n" else outcomeText outcome, none⟩

/-- The report of a submission that is not exported because it is invalid. -/
def invalidReport (outcome : Outcome) : Report :=
  .failure (failureListing "Submission is invalid, nothing exported" outcome)
    (.invalid outcome.errors.length)

/-- The report of an export. -/
def exportedReport : Report := .success "✓ Exported to csv\n"

/-- A decision that could be made, or the report of why not. -/
def decisionOf : Except Failure Decision → Decision
  | .ok decision => decision
  | .error e => .report (.failure "" e)

/-- What an export makes of a judgement, given what reading the CSV file gives. -/
def exportOf (path : String) (old : Except FileError (List UInt8)) (definition : Definition)
    (outcome : Outcome) : Decision :=
  if outcome.isValid then
    match CsvFile.newContent (recordOf definition outcome) old with
    | .error e => .report (.failure "" (.exportFailed e))
    | .ok content => .write path content exportedReport
  else .report (invalidReport outcome)

/-- **The command `validate`** reports the outcome of its judgement. -/
theorem decide_validate (source : FileSource) (input : List UInt8) (form : String)
    (data : Option String) (asJson : Bool) :
    decide source input (.validate form data asJson) =
      .report (match judge source form (submissionFrom source input data) with
        | .error e => .failure "" e
        | .ok judged => verdictReport judged.2 asJson) := by
  have hreport : validateReport source input form data asJson = (do
      let definition ← readForm source form
      let submission ← submissionFrom source input data
      let outcome ← outcomeOf definition submission
      .ok (verdictReport outcome asJson)) := by
    cases data <;> rfl
  show Decision.report (reportOf (validateReport source input form data asJson)) = _
  rw [hreport]
  unfold judge outcomeOf
  rcases readForm source form with e | definition
  · rfl
  rcases submissionFrom source input data with e | submission
  · rfl
  simp only [bind, Except.bind]
  cases validate definition.form submission definition.registry <;> rfl

/-- **An export to a CSV file** goes by its judgement. -/
theorem decide_exportTo_csv (source : FileSource) (input : List UInt8) (form data path : String) :
    decide source input (.exportTo form data (.csv path)) =
      match judge source form (readData source data) with
      | .error e => .report (.failure "" e)
      | .ok judged => exportOf path (source path) judged.1 judged.2 := by
  show decisionOf (exportDecision source form data (.csv path)) = _
  unfold exportDecision judge outcomeOf
  rcases readForm source form with e | definition
  · rfl
  rcases readData source data with e | submission
  · rfl
  simp only [bind, Except.bind]
  rcases validate definition.form submission definition.registry with e | outcome
  · rfl
  show decisionOf (if outcome.isValid then _ else _) =
    exportOf path (source path) definition outcome
  unfold exportOf
  cases outcome.isValid with
  | false => rfl
  | true => cases CsvFile.newContent (recordOf definition outcome) (source path) <;> rfl

/-! ## How it is come by -/

section Judge

variable {submission : Except Failure (OrderedMap String)}

theorem judge_eq_ok_iff {definition : Definition} {outcome : Outcome} :
    judge source form submission = .ok (definition, outcome) ↔
      ∃ data, readForm source form = .ok definition ∧ submission = .ok data ∧
        validate definition.form data definition.registry = .ok outcome := by
  unfold judge
  rcases readForm source form with e | definition'
  · simp
  rcases submission with e | data
  · simp
  simp only
  constructor
  · intro h
    split at h
    · exact absurd h (by simp)
    · rename_i outcome' hpass
      obtain ⟨rfl, rfl⟩ := Prod.mk.inj (Except.ok.inj h)
      exact ⟨data, rfl, rfl, hpass⟩
  · rintro ⟨data', hform, hdata, hpass⟩
    obtain rfl := Except.ok.inj hform
    obtain rfl := Except.ok.inj hdata
    rw [hpass]

theorem judge_eq_error_iff {cause : Failure} : judge source form submission = .error cause ↔
    readForm source form = .error cause ∨
      ∃ definition, readForm source form = .ok definition ∧
        (submission = .error cause ∨
          ∃ data e, submission = .ok data ∧
            validate definition.form data definition.registry = .error e ∧
            cause = .unknownRule e) := by
  unfold judge
  rcases readForm source form with e | definition
  · simp
  rcases submission with e | data
  · simp
  cases hpass : validate definition.form data definition.registry <;> simp [hpass, eq_comm]

end Judge

end WebForm.CommandLine
