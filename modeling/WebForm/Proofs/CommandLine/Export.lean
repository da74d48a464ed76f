import WebForm.Proofs.CommandLine.Judgement
import WebForm.Proofs.Export.Append

/-!
# Exports are all or nothing

An export to a CSV file reads the definition and the submission, holds one against the other, works
out the new content of the file, and writes it. The write comes last, so whatever goes wrong before
it leaves every file as it was. The verdict is the one that the command `validate` reports of the
same files.

* `Judged files form data definition submission outcome`: the definition and the submission can be
  read, no rule is unknown, and the pass has this outcome.
* `StopsEarly files form data path cause`: what can go wrong before the write, and how it is
  reported. The constructors stand in the order in which an export comes to them.

Results:
* `runCommand_of_stopsEarly`: an export that stops early reports why and changes nothing.
* `runCommand_exportTo_csv_cases`: every export stops early, or comes to the write with a valid
  outcome.
* `status_validate_eq_zero_iff`: when the command `validate` succeeds.
* `exportCsv_all_or_nothing`: what an export leaves behind, and how it goes with `validate`.
-/

namespace WebForm.CommandLine

open Text

/-- Both files can be read, no rule is unknown, and the pass has this outcome. -/
structure Judged (files : Files) (form data : String) (definition : Definition)
    (submission : OrderedMap String) (outcome : Outcome) : Prop where
  form : readForm files.read form = .ok definition
  data : readData files.read data = .ok submission
  pass : validate definition.form submission definition.registry = .ok outcome

/-- What an export to a CSV file can meet before it writes. -/
inductive StopsEarly (files : Files) (form data path : String) : Failure → Prop
  /-- There is no definition: the file cannot be read, or does not parse. -/
  | definition {cause : Failure} (hform : readForm files.read form = .error cause) :
      StopsEarly files form data path cause
  /-- There is no submission: the file cannot be read, or does not decode. -/
  | submission {definition : Definition} {cause : Failure}
      (hform : readForm files.read form = .ok definition)
      (hdata : readData files.read data = .error cause) :
      StopsEarly files form data path cause
  /-- A rule of the form is unknown. -/
  | unknownRule {definition : Definition} {submission : OrderedMap String} {cause : UnknownRule}
      (hform : readForm files.read form = .ok definition)
      (hdata : readData files.read data = .ok submission)
      (hpass : validate definition.form submission definition.registry = .error cause) :
      StopsEarly files form data path (.unknownRule cause)
  /-- The submission is invalid. -/
  | invalid {definition : Definition} {submission : OrderedMap String} {outcome : Outcome}
      (hjudged : Judged files form data definition submission outcome)
      (hinvalid : outcome.isValid = false) :
      StopsEarly files form data path (.invalid outcome.errors.length)
  /-- The submission is valid, and there is nothing to export. -/
  | noData {definition : Definition} {submission : OrderedMap String} {outcome : Outcome}
      (hjudged : Judged files form data definition submission outcome)
      (hvalid : outcome.isValid = true) (hempty : outcome.validData.isEmpty = true) :
      StopsEarly files form data path (.exportFailed .noData)
  /-- There is something at the path, and it cannot be read. -/
  | unreadable {definition : Definition} {submission : OrderedMap String} {outcome : Outcome}
      {cause : FileError} (hjudged : Judged files form data definition submission outcome)
      (hvalid : outcome.isValid = true) (hfilled : outcome.validData.isEmpty = false)
      (hread : files.read path = .error cause) (hmissing : cause ≠ .notFound) :
      StopsEarly files form data path (.exportFailed (.file cause))
  /-- The first record of the file has a cell that is not UTF-8. -/
  | header {definition : Definition} {submission : OrderedMap String} {outcome : Outcome}
      {content : List UInt8} {before after : List Csv.Cell} {cell : Csv.Cell}
      {rows : List Csv.Record} (hjudged : Judged files form data definition submission outcome)
      (hvalid : outcome.isValid = true) (hfilled : outcome.validData.isEmpty = false)
      (hread : files.read path = .ok content)
      (hrecords : Csv.records content = (before ++ cell :: after) :: rows)
      (hbefore : ∀ earlier ∈ before, Utf8.decodeString? earlier ≠ none)
      (hcell : Utf8.decodeString? cell = none) :
      StopsEarly files form data path
        (.exportFailed (.header before.length (Utf8.validLength cell)))

variable {files : Files} {input : List UInt8} {form data path : String} {definition : Definition}
  {submission : OrderedMap String} {outcome : Outcome} {cause : Failure}

/-! ## The judgement -/

theorem Judged.judge (h : Judged files form data definition submission outcome) :
    judge files.read form (readData files.read data) = .ok (definition, outcome) :=
  judge_eq_ok_iff.mpr ⟨submission, h.form, h.data, h.pass⟩

theorem exists_judged
    (h : judge files.read form (readData files.read data) = .ok (definition, outcome)) :
    ∃ submission, Judged files form data definition submission outcome := by
  obtain ⟨submission, hform, hdata, hpass⟩ := judge_eq_ok_iff.mp h
  exact ⟨submission, hform, hdata, hpass⟩

/-- What an export decides is settled by the outcome and by what is at the path. -/
theorem Judged.decide_exportTo (h : Judged files form data definition submission outcome)
    (input : List UInt8) (path : String) :
    decide files.read input (.exportTo form data (.csv path)) =
      exportOf path (files.read path) definition outcome := by
  rw [decide_exportTo_csv, h.judge]

/-- An export without a judgement stops early. -/
theorem stopsEarly_of_judge_eq_error (path : String)
    (h : judge files.read form (readData files.read data) = .error cause) :
    StopsEarly files form data path cause := by
  rcases judge_eq_error_iff.mp h with hform | ⟨definition, hform, hdata | ⟨_, _, hdata, hpass, rfl⟩⟩
  · exact .definition hform
  · exact .submission hform hdata
  · exact .unknownRule hform hdata hpass

/-! ## What an export does -/

theorem runCommand_of_judge_eq_error (input : List UInt8) (path : String)
    (h : judge files.read form (readData files.read data) = .error cause) :
    runCommand files input (.exportTo form data (.csv path)) = (.failure "" cause, files) := by
  apply runCommand_of_report
  rw [decide_exportTo_csv, h]

theorem runCommand_of_invalid (input : List UInt8) (path : String)
    (h : Judged files form data definition submission outcome)
    (hinvalid : outcome.isValid = false) :
    runCommand files input (.exportTo form data (.csv path)) = (invalidReport outcome, files) := by
  apply runCommand_of_report
  rw [h.decide_exportTo]
  simp [exportOf, hinvalid]

theorem runCommand_of_newContent_eq_error (input : List UInt8) {e : ExportError}
    (h : Judged files form data definition submission outcome) (hvalid : outcome.isValid = true)
    (hcontent : CsvFile.newContent (recordOf definition outcome) (files.read path) = .error e) :
    runCommand files input (.exportTo form data (.csv path)) =
      (.failure "" (.exportFailed e), files) := by
  apply runCommand_of_report
  rw [h.decide_exportTo]
  simp [exportOf, hvalid, hcontent]

theorem runCommand_of_newContent (input : List UInt8) {content : List UInt8}
    (h : Judged files form data definition submission outcome) (hvalid : outcome.isValid = true)
    (hcontent : CsvFile.newContent (recordOf definition outcome) (files.read path) = .ok content) :
    runCommand files input (.exportTo form data (.csv path)) =
      match files.write path content with
      | .ok after => (exportedReport, after)
      | .error e => (writeFailure e, files) := by
  apply runCommand_of_write
  rw [h.decide_exportTo]
  simp [exportOf, hvalid, hcontent]

/-- An export of a valid submission that can write leaves what the export of its record leaves. -/
theorem runCommand_of_exportTo (input : List UInt8) {after : Files}
    (h : Judged files form data definition submission outcome) (hvalid : outcome.isValid = true)
    (hexport : CsvFile.exportTo files path (recordOf definition outcome) = .ok after) :
    runCommand files input (.exportTo form data (.csv path)) = (exportedReport, after) := by
  obtain ⟨content, hcontent, hwrite⟩ := CsvFile.exportTo_eq_ok_iff.mp hexport
  rw [runCommand_of_newContent input h hvalid hcontent, hwrite]

/-- **An export that stops early reports why and changes nothing.** -/
theorem runCommand_of_stopsEarly (h : StopsEarly files form data path cause)
    (input : List UInt8) : ∃ output, runCommand files input (.exportTo form data (.csv path)) =
      (.failure output cause, files) := by
  cases h with
  | definition hform =>
    exact ⟨_, runCommand_of_judge_eq_error input path (judge_eq_error_iff.mpr (Or.inl hform))⟩
  | submission hform hdata =>
    exact ⟨_, runCommand_of_judge_eq_error input path
      (judge_eq_error_iff.mpr (Or.inr ⟨_, hform, Or.inl hdata⟩))⟩
  | unknownRule hform hdata hpass =>
    exact ⟨_, runCommand_of_judge_eq_error input path
      (judge_eq_error_iff.mpr (Or.inr ⟨_, hform, Or.inr ⟨_, _, hdata, hpass, rfl⟩⟩))⟩
  | invalid hjudged hinvalid => exact ⟨_, runCommand_of_invalid input path hjudged hinvalid⟩
  | noData hjudged hvalid hempty =>
    exact ⟨_, runCommand_of_newContent_eq_error input hjudged hvalid
      (CsvFile.newContent_eq_error_iff.mpr (Or.inl ⟨hempty, rfl⟩))⟩
  | unreadable hjudged hvalid hfilled hread hmissing =>
    exact ⟨_, runCommand_of_newContent_eq_error input hjudged hvalid
      (CsvFile.newContent_eq_error_iff.mpr
        (Or.inr ⟨hfilled, Or.inl ⟨_, hread, hmissing, rfl⟩⟩))⟩
  | header hjudged hvalid hfilled hread hrecords hbefore hcell =>
    have hheader := CsvFile.header?_eq_error_iff.mpr ⟨_, _, _, _, hrecords, hbefore, hcell, rfl⟩
    exact ⟨_, runCommand_of_newContent_eq_error input hjudged hvalid
      (CsvFile.newContent_eq_error_iff.mpr (Or.inr ⟨hfilled, Or.inr ⟨_, hread, hheader⟩⟩))⟩

/-- An export of a valid submission that comes to no new content stops early. -/
theorem stopsEarly_of_newContent_eq_error {e : ExportError}
    (h : Judged files form data definition submission outcome) (hvalid : outcome.isValid = true)
    (hcontent : CsvFile.newContent (recordOf definition outcome) (files.read path) = .error e) :
    StopsEarly files form data path (.exportFailed e) := by
  rcases CsvFile.newContent_eq_error_iff.mp hcontent with
    ⟨hempty, rfl⟩ | ⟨hfilled, ⟨_, hread, hmissing, rfl⟩ | ⟨_, hread, hheader⟩⟩
  · exact .noData h hvalid hempty
  · exact .unreadable h hvalid hfilled hread hmissing
  · obtain ⟨_, _, _, _, hrecords, hbefore, hcell, rfl⟩ := CsvFile.header?_eq_error_iff.mp hheader
    exact .header h hvalid hfilled hread hrecords hbefore hcell

/-- **Every export stops early, or comes to the write** with a valid outcome. -/
theorem runCommand_exportTo_csv_cases (files : Files) (input : List UInt8)
    (form data path : String) :
    (∃ cause, StopsEarly files form data path cause) ∨
      ∃ definition submission outcome,
        Judged files form data definition submission outcome ∧ outcome.isValid = true ∧
        ((∃ after, CsvFile.exportTo files path (recordOf definition outcome) = .ok after) ∨
          ∃ content e, files.write path content = .error e ∧
            runCommand files input (.exportTo form data (.csv path)) =
              (writeFailure e, files)) := by
  rcases hjudge : judge files.read form (readData files.read data) with e | ⟨definition, outcome⟩
  · exact Or.inl ⟨e, stopsEarly_of_judge_eq_error path hjudge⟩
  obtain ⟨submission, hjudged⟩ := exists_judged hjudge
  cases hvalid : outcome.isValid with
  | false => exact Or.inl ⟨_, .invalid hjudged hvalid⟩
  | true =>
    rcases hcontent : CsvFile.newContent (recordOf definition outcome) (files.read path) with
      e | content
    · exact Or.inl ⟨_, stopsEarly_of_newContent_eq_error hjudged hvalid hcontent⟩
    · refine Or.inr ⟨definition, submission, outcome, hjudged, hvalid, ?_⟩
      have hrun := runCommand_of_newContent input hjudged hvalid hcontent
      rcases hwrite : files.write path content with e | after
      · rw [hwrite] at hrun
        exact Or.inr ⟨content, e, hwrite, hrun⟩
      · exact Or.inl ⟨after, CsvFile.exportTo_eq_ok_iff.mpr ⟨content, hcontent, hwrite⟩⟩

/-! ## What `validate` reports -/

/-- The command `validate` succeeds iff there is a judgement and its outcome is valid. -/
theorem status_validate_eq_zero_iff {asJson : Bool} :
    (runCommand files input (.validate form (some data) asJson)).1.status = 0 ↔
      ∃ definition submission outcome,
        Judged files form data definition submission outcome ∧ outcome.isValid = true := by
  have hreport := decide_validate files.read input form (some data) asJson
  rcases hjudge : judge files.read form (readData files.read data) with e | ⟨definition, outcome⟩
  · rw [submissionFrom, hjudge] at hreport
    rw [runCommand_of_report hreport]
    constructor
    · intro h
      exact absurd h (by simp [Report.failure])
    · rintro ⟨_, _, _, hjudged, -⟩
      exact absurd (hjudge.symm.trans hjudged.judge) (by simp)
  · rw [submissionFrom, hjudge] at hreport
    rw [runCommand_of_report hreport]
    constructor
    · intro h
      obtain ⟨submission, hjudged⟩ := exists_judged hjudge
      exact ⟨definition, submission, outcome, hjudged, by simpa [verdictReport] using h⟩
    · rintro ⟨_, _, _, hjudged, hvalid⟩
      obtain ⟨rfl, rfl⟩ := Prod.mk.inj (Except.ok.inj (hjudge.symm.trans hjudged.judge))
      simp [verdictReport, hvalid]

/-! ## All or nothing -/

/-- A record can be exported to the path: nothing is there and a file can be created, or a file is
there and can be read, and has no record or a first record of texts. -/
def TakesRecords (files : Files) (path : String) : Prop :=
  files.Creatable path ∨
    ∃ content, files.read path = .ok content ∧
      (Csv.records content = [] ∨
        ∃ (columns : List String) (rows : List Csv.Record),
          Csv.records content = columns.map Utf8.encodeString :: rows)

theorem TakesRecords.exists_exportTo (h : TakesRecords files path) {record : ExportRecord}
    (hfilled : record.isEmpty = false) :
    ∃ after, CsvFile.exportTo files path record = .ok after := by
  rcases h with hmissing | ⟨content, hread, hrecords | ⟨columns, rows, hrecords⟩⟩
  · exact (CsvFile.exportTo_of_creatable hmissing hfilled).imp fun _ h => h.1
  · exact (CsvFile.exportTo_of_records_eq_nil hread hfilled hrecords).imp fun _ h => h.1
  · exact (CsvFile.exportTo_of_records hread hfilled hrecords).imp fun _ h => h.1

/-- **An export is all or nothing, and agrees with `validate`.** Of two calls that ask for an export
to a CSV file and for the validation of the same submission:
whatever stops the export before it writes is reported, and every file is left as it was;
an export fails for no other reason, unless the file cannot be written;
it succeeds only if `validate` does;
and where `validate` succeeds, the valid data is not empty, and the CSV file can be created or holds
no record or a first record of texts, the export succeeds and changes that file only, which it
leaves as the export of the valid data does. -/
theorem exportCsv_all_or_nothing {files : Files} {input : List UInt8}
    {exportCall validateCall : List String} {form data path : String} {asJson : Bool}
    (hexport : Command.parse exportCall = .ok (.exportTo form data (.csv path)))
    (hvalidate : Command.parse validateCall = .ok (.validate form (some data) asJson)) :
    (∀ cause, StopsEarly files form data path cause →
      ∃ output, run files input exportCall = (.failure output cause, files)) ∧
    ((run files input exportCall).1.status ≠ 0 →
      (∃ cause, StopsEarly files form data path cause) ∨
        ∃ content e, files.write path content = .error e) ∧
    ((run files input exportCall).1.status = 0 → (run files input validateCall).1.status = 0) ∧
    ((run files input validateCall).1.status = 0 →
      ∃ definition submission outcome, Judged files form data definition submission outcome ∧
        (outcome.validData.isEmpty = false → TakesRecords files path →
          ∃ after, run files input exportCall = (.success "✓ Exported to csv\n", after) ∧
            CsvFile.exportTo files path ⟨outcome.validData, definition.columns⟩ = .ok after ∧
            files.SameBut after path)) := by
  simp only [run_of_parse hexport, run_of_parse hvalidate]
  refine ⟨fun cause h => runCommand_of_stopsEarly h input, fun hfailed => ?_, fun hdone => ?_,
    fun hvalid => ?_⟩
  · rcases runCommand_exportTo_csv_cases files input form data path with
      hstop | ⟨_, _, _, hjudged, hvalid, ⟨after, hafter⟩ | ⟨content, e, hwrite, -⟩⟩
    · exact Or.inl hstop
    · rw [runCommand_of_exportTo input hjudged hvalid hafter] at hfailed
      exact absurd rfl hfailed
    · exact Or.inr ⟨content, e, hwrite⟩
  · rw [status_validate_eq_zero_iff]
    rcases runCommand_exportTo_csv_cases files input form data path with
      ⟨cause, hstop⟩ | ⟨definition, submission, outcome, hjudged, hvalid, -⟩
    · obtain ⟨output, hrun⟩ := runCommand_of_stopsEarly hstop input
      rw [hrun] at hdone
      exact absurd hdone (by simp [Report.failure])
    · exact ⟨definition, submission, outcome, hjudged, hvalid⟩
  · obtain ⟨definition, submission, outcome, hjudged, hvalid⟩ :=
      status_validate_eq_zero_iff.mp hvalid
    refine ⟨definition, submission, outcome, hjudged, fun hfilled hpath => ?_⟩
    have hrecord : (recordOf definition outcome).isEmpty = false := hfilled
    obtain ⟨after, hafter⟩ := hpath.exists_exportTo hrecord
    obtain ⟨content, -, hwrite⟩ := CsvFile.exportTo_eq_ok_iff.mp hafter
    exact ⟨after, runCommand_of_exportTo input hjudged hvalid hafter, hafter,
      Files.sameBut_of_write hwrite⟩

/-- A form of one required field, a submission to it, and a CSV file with a header. -/
def signupFiles : Files :=
  .ofList
    [("form.toml", .file (Utf8.encodeString
        "fields = [\x7bname = \"a\", rules = \"required\"\x7d]")),
      ("data.txt", .file (Utf8.encodeString "b=1&a=x")),
      ("log.csv", .file (Utf8.encodeString "a,c"))]

/-- The call that exports a submission to `log.csv`. -/
def exportCall (data : String) : List String :=
  ["export", "form.toml", "--data", data, "--csv", "log.csv"]

/-- The call that validates it. -/
def validateCall (data : String) : List String := ["validate", "form.toml", "--data", data]

/-- One of the submissions is there and goes to the file. The other is not there, and nothing goes
to any file. -/
theorem exportCsv_all_or_nothing_signup :
    (run signupFiles [] (validateCall "data.txt")).1.status = 0 ∧
      (∃ after, run signupFiles [] (exportCall "data.txt") =
          (.success "✓ Exported to csv\n", after) ∧ signupFiles.SameBut after "log.csv") ∧
      ∃ output, run signupFiles [] (exportCall "gone.txt") =
        (.failure output (.unreadableData "gone.txt"), signupFiles) := by
  obtain ⟨-, -, hverdict, hvalidated⟩ := @exportCsv_all_or_nothing signupFiles []
    (exportCall "data.txt") (validateCall "data.txt") _ _ _ _ rfl rfl
  have hdone : (run signupFiles [] (exportCall "data.txt")).1.status = 0 := by decide +kernel
  have hvalid := hverdict hdone
  obtain ⟨definition, submission, outcome, hjudged, hexport⟩ := hvalidated hvalid
  have hfilled : (match judge signupFiles.read "form.toml" (readData signupFiles.read "data.txt")
      with
      | .ok judged => judged.2.validData.isEmpty
      | .error _ => true) = false := by decide +kernel
  rw [hjudged.judge] at hfilled
  have hlog : TakesRecords signupFiles "log.csv" :=
    Or.inr ⟨_, rfl, Or.inr ⟨["a", "c"], [], rfl⟩⟩
  obtain ⟨after, hrun, -, hsame⟩ := hexport hfilled hlog
  have hgone := (@exportCsv_all_or_nothing signupFiles [] (exportCall "gone.txt")
    (validateCall "gone.txt") _ _ _ _ rfl rfl).1
  exact ⟨hvalid, ⟨after, hrun, hsame⟩, hgone _ (.submission hjudged.form rfl)⟩

end WebForm.CommandLine
