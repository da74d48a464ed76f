import WebForm.Proofs.CommandLine.Judgement
import WebForm.Proofs.Files
import WebForm.Proofs.Validation.Locality

/-!
# Ignored and undeclared values never leave the program

Two submissions that hold the same under every field of a form that takes part are judged alike.
What `validate` prints, what an export prints and what it leaves in the file are made of the
judgement alone, so nobody who sees them can tell the submissions apart: by an ignored field, by a
name that is no field, by the order of the names, or by how the submission was written.

Results:
* `judge_congr`: such submissions come to one judgement.
* `runCommand_validate_congr`, `runCommand_exportTo_csv_congr`: from one judgement, each command
  shows the same.
* `run_eq_of_agreeOn`: calls on such submissions show the same.
-/

namespace WebForm.CommandLine

open Text

variable {files files' : Files} {input input' : List UInt8} {form data data' path : String}

/-- Where there is a definition, the submissions hold the same under every field that takes part. -/
def AgreeOnForm (source : FileSource) (form : String) (submission submission' : OrderedMap String) :
    Prop :=
  ∀ definition, readForm source form = .ok definition →
    definition.form.AgreeOn submission submission'

/-! ## One judgement -/

theorem readForm_congr (h : files.read form = files'.read form) :
    readForm files.read form = readForm files'.read form := by
  unfold readForm readText?
  rw [h]

theorem judge_congr {submission submission' : OrderedMap String}
    (hform : files.read form = files'.read form)
    (hagree : AgreeOnForm files.read form submission submission') :
    judge files.read form (.ok submission) = judge files'.read form (.ok submission') := by
  unfold judge
  rw [← readForm_congr hform]
  rcases hread : readForm files.read form with e | definition
  · rfl
  simp only [validate_congr (hagree definition hread) definition.registry]

/-! ## What is seen of it -/

theorem runCommand_validate_congr {data data' : Option String} (asJson : Bool)
    (h : judge files.read form (submissionFrom files.read input data) =
      judge files'.read form (submissionFrom files'.read input' data')) :
    (runCommand files input (.validate form data asJson)).1 =
      (runCommand files' input' (.validate form data' asJson)).1 := by
  rw [runCommand_of_report (decide_validate files.read input form data asJson),
    runCommand_of_report (decide_validate files'.read input' form data' asJson), h]

/-- An export reports, or wants the file written. -/
theorem decide_exportTo_csv_cases (source : FileSource) (input : List UInt8)
    (form data path : String) :
    (∃ r, decide source input (.exportTo form data (.csv path)) = .report r) ∨
      ∃ content, decide source input (.exportTo form data (.csv path)) =
        .write path content exportedReport := by
  rw [decide_exportTo_csv]
  rcases judge source form (readData source data) with e | ⟨definition, outcome⟩
  · exact Or.inl ⟨_, rfl⟩
  simp only [exportOf]
  cases outcome.isValid with
  | false => exact Or.inl ⟨_, rfl⟩
  | true =>
    rcases CsvFile.newContent (recordOf definition outcome) (source path) with e | content
    · exact Or.inl ⟨_, rfl⟩
    · exact Or.inr ⟨content, rfl⟩

theorem runCommand_exportTo_csv_congr (hpath : files.AlikeAt files' path)
    (h : judge files.read form (readData files.read data) =
      judge files'.read form (readData files'.read data')) :
    (runCommand files input (.exportTo form data (.csv path))).1 =
        (runCommand files' input' (.exportTo form data' (.csv path))).1 ∧
      (runCommand files input (.exportTo form data (.csv path))).2.read path =
        (runCommand files' input' (.exportTo form data' (.csv path))).2.read path := by
  have hdecide : decide files.read input (.exportTo form data (.csv path)) =
      decide files'.read input' (.exportTo form data' (.csv path)) := by
    rw [decide_exportTo_csv, decide_exportTo_csv, h, hpath.1]
  rcases decide_exportTo_csv_cases files.read input form data path with ⟨r, hr⟩ | ⟨content, hw⟩
  · rw [runCommand_of_report hr, runCommand_of_report (hdecide ▸ hr)]
    exact ⟨rfl, hpath.1⟩
  · rw [runCommand_of_write hw, runCommand_of_write (hdecide ▸ hw)]
    rcases hpath.write content with ⟨e, he, he'⟩ | ⟨after, after', hafter, hafter', hread⟩
    · rw [he, he']
      exact ⟨rfl, hpath.1⟩
    · rw [hafter, hafter']
      exact ⟨rfl, hread⟩

/-! ## Calls -/

/-- **Ignored and undeclared values never leave the program.** Of two submissions that hold the same
under every field of the form that takes part, each on its own tree of files, where the form is the
same: `validate` reports the same of both, from files or from standard input; and an export to a
path where the trees are alike reports the same and leaves the same there. -/
theorem run_eq_of_agreeOn {files files' : Files} {input input' : List UInt8} {form : String}
    {submission submission' : OrderedMap String} (hform : files.read form = files'.read form)
    (hagree : AgreeOnForm files.read form submission submission') :
    (∀ {call call' : List String} {data data' : Option String} {asJson : Bool},
      Command.parse call = .ok (.validate form data asJson) →
      Command.parse call' = .ok (.validate form data' asJson) →
      submissionFrom files.read input data = .ok submission →
      submissionFrom files'.read input' data' = .ok submission' →
      (run files input call).1 = (run files' input' call').1) ∧
    (∀ {call call' : List String} {data data' path : String},
      Command.parse call = .ok (.exportTo form data (.csv path)) →
      Command.parse call' = .ok (.exportTo form data' (.csv path)) →
      readData files.read data = .ok submission → readData files'.read data' = .ok submission' →
      files.AlikeAt files' path →
      (run files input call).1 = (run files' input' call').1 ∧
        (run files input call).2.read path = (run files' input' call').2.read path) := by
  have hjudge := judge_congr hform hagree
  constructor
  · intro call call' data data' asJson hcall hcall' hdata hdata'
    rw [run_of_parse hcall, run_of_parse hcall']
    exact runCommand_validate_congr asJson (by rw [hdata, hdata', hjudge])
  · intro call call' data data' path hcall hcall' hdata hdata' hpath
    rw [run_of_parse hcall, run_of_parse hcall']
    exact runCommand_exportTo_csv_congr hpath (by rw [hdata, hdata', hjudge])

/-- A form with an ignored field, two submissions to it that agree, and a CSV file. -/
def secretFiles : Files :=
  .ofList
    [("form.toml", .file (Utf8.encodeString
        "fields = [\x7bname = \"a\"\x7d, \x7bname = \"b\", rules = \"ignore\"\x7d]")),
      ("secret.txt", .file (Utf8.encodeString "b=secret&c=1&a=x")),
      ("open.json", .file (Utf8.encodeString "\x7b\"a\": \"x\"\x7d")),
      ("log.csv", .file (Utf8.encodeString "a,b"))]

/-- The call that validates a submission. -/
def validateSecret (data : String) : List String :=
  ["validate", "form.toml", "--data", data, "--json"]

/-- The call that exports it to `log.csv`. -/
def exportSecret (data : String) : List String :=
  ["export", "form.toml", "--data", data, "--csv", "log.csv"]

/-- The ignored value of `b` and the undeclared `c` are not shown, though the file has a column for
`b`. -/
theorem run_eq_of_agreeOn_secret :
    (run secretFiles [] (validateSecret "secret.txt")).1 =
        (run secretFiles [] (validateSecret "open.json")).1 ∧
      (run secretFiles [] (exportSecret "secret.txt")).1 =
        (run secretFiles [] (exportSecret "open.json")).1 ∧
      (run secretFiles [] (exportSecret "secret.txt")).2.read "log.csv" =
        (run secretFiles [] (exportSecret "open.json")).2.read "log.csv" := by
  have hagree : (match readForm secretFiles.read "form.toml",
        readData secretFiles.read "secret.txt", readData secretFiles.read "open.json" with
      | .ok definition, .ok submission, .ok submission' =>
        Decidable.decide (definition.form.AgreeOn submission submission')
      | _, _, _ => false) = true := by decide +kernel
  split at hagree
  case h_1 definition submission submission' hform hsecret hopen =>
    have hagree : AgreeOnForm secretFiles.read "form.toml" submission submission' := by
      intro definition' hform'
      obtain rfl := Except.ok.inj (hform.symm.trans hform')
      exact of_decide_eq_true hagree
    obtain ⟨hvalidate, hexport⟩ := @run_eq_of_agreeOn secretFiles secretFiles [] [] "form.toml"
      submission submission' rfl hagree
    exact ⟨hvalidate rfl rfl hsecret hopen,
      hexport rfl rfl hsecret hopen (Files.AlikeAt.refl secretFiles "log.csv")⟩
  case h_2 => exact absurd hagree (by simp)

end WebForm.CommandLine
