/-!
# Replacing a phrase

`replace phrase new text` reads `text` from left to right and writes `new` for every occurrence of
`phrase`, which do not overlap; what is written is not read again.
-/

namespace WebForm.Text

/-- `rest` when the text starts with the phrase and goes on with `rest`. -/
def stripStart : List Char → List Char → Option (List Char)
  | [], cs => some cs
  | _ :: _, [] => none
  | p :: ps, c :: cs => if p = c then stripStart ps cs else none

theorem stripStart_eq_some_iff {phrase cs rest : List Char} :
    stripStart phrase cs = some rest ↔ cs = phrase ++ rest := by
  induction phrase generalizing cs with
  | nil => simp [stripStart]
  | cons p ps ih =>
    cases cs with
    | nil => simp [stripStart]
    | cons c cs =>
      by_cases h : p = c
      · simp [stripStart, h, ih]
      · have h' : ¬ c = p := fun e => h e.symm
        simp [stripStart, h, h']

theorem length_of_stripStart {phrase cs rest : List Char} (h : stripStart phrase cs = some rest) :
    rest.length ≤ cs.length := by
  rw [stripStart_eq_some_iff.mp h]
  simp

/-- Every occurrence of the phrase `p :: ps`, from left to right, replaced by `new`. -/
def replaceCons (p : Char) (ps new : List Char) : List Char → List Char
  | [] => []
  | c :: cs =>
    if p = c then
      match h : stripStart ps cs with
      | some rest =>
        have := length_of_stripStart h
        new ++ replaceCons p ps new rest
      | none => c :: replaceCons p ps new cs
    else c :: replaceCons p ps new cs
termination_by cs => cs.length

/-- Every occurrence of a phrase replaced; the empty phrase occurs nowhere. -/
def replace (phrase new cs : List Char) : List Char :=
  match phrase with
  | [] => cs
  | p :: ps => replaceCons p ps new cs

/-- Every occurrence of a phrase replaced in a string. -/
def replaceString (phrase new s : String) : String :=
  String.ofList (replace phrase.toList new.toList s.toList)

end WebForm.Text
