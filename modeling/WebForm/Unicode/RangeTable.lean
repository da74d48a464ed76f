/-!
# Tables of character properties

A property is a list of ranges of character numbers in increasing order, kept as text:
`first`, `first-last` or `first-last/2` for every second one, all in hexadecimal, each with an
optional value `=a,b,c`. `RangeTable.ofText` reads such a list and `find?` looks a number up.
-/

namespace WebForm.Unicode

/-- Character numbers from `first` to `last` in steps of `step`, and what they have in common. -/
structure CharRange where
  first : Nat
  last : Nat
  step : Nat
  value : List Nat
  deriving Inhabited, Repr

/-- The number is one of the range. -/
def CharRange.contains (r : CharRange) (n : Nat) : Bool :=
  r.first ≤ n && n ≤ r.last && (n - r.first) % r.step == 0

/-- Ranges in increasing order. -/
structure RangeTable where
  ranges : Array CharRange
  deriving Inhabited

namespace RangeTable

/-! ## Reading the text -/

/-- The number that hexadecimal digits denote; other characters count as zero. -/
def hexNumber (digits : List Char) : Nat :=
  digits.foldl (fun n c =>
    n * 16 + (if c.isDigit then c.toNat - '0'.toNat
      else if 'a' ≤ c ∧ c ≤ 'f' then c.toNat - 'a'.toNat + 10 else 0)) 0

/-- The text before and after the first occurrence of a character; all of it and nothing when there
is none. -/
def cut (sep : Char) (cs : List Char) : List Char × List Char :=
  (cs.takeWhile (· != sep), (cs.dropWhile (· != sep)).drop 1)

/-- The numbers of a list separated by commas. -/
def readNumbers (cs : List Char) : List Nat :=
  (cs.foldr (fun c acc =>
    match acc with
    | [] => if c == ',' then [[], []] else [[c]]
    | word :: words => if c == ',' then [] :: word :: words else (c :: word) :: words) []).map
    hexNumber

/-- Read one range. -/
def readRange (token : List Char) : CharRange :=
  let (place, value) := cut '=' token
  let (span, step) := cut '/' place
  let (first, last) := cut '-' span
  { first := hexNumber first
    last := if last.isEmpty then hexNumber first else hexNumber last
    step := if step.isEmpty then 1 else hexNumber step
    value := readNumbers value }

/-- Read words separated by spaces and line ends. The first component is the word that is being
read, last character first. -/
def readWords (text : List Char) : List (List Char) :=
  let (word, words) := text.foldl
    (fun (word, words) c =>
      if c == ' ' || c == '\n' then
        if word.isEmpty then (word, words) else ([], word.reverse :: words)
      else (c :: word, words))
    (([] : List Char), ([] : List (List Char)))
  (if word.isEmpty then words else word.reverse :: words).reverse

/-- Read a table. -/
def ofText (text : String) : RangeTable := ⟨((readWords text.toList).map readRange).toArray⟩

theorem ranges_ofText_ofList (text : List Char) :
    (ofText (String.ofList text)).ranges = ((readWords text).map readRange).toArray := by
  rw [ofText, String.toList_ofList]

/-- What holds of all ranges that a text denotes holds of all ranges of its table. The characters of
the text are a list here, which is quick to evaluate. -/
theorem forall_ranges {table : RangeTable} {s : String} {text : List Char}
    {P : CharRange → Prop} (htable : table = ofText s) (hs : s = String.ofList text)
    (h : ∀ r ∈ (readWords text).map readRange, P r) : ∀ r ∈ table.ranges, P r := by
  rw [htable, hs, ranges_ofText_ofList]
  exact fun r hr => h r (List.mem_toArray.mp hr)

/-! ## Looking up -/

/-- How many of the ranges from `low` to `high` start at or before `n`, counted from the start of
the table. -/
def countUpTo (ranges : Array CharRange) (n low high : Nat) : Nat :=
  if low < high then
    let mid := (low + high) / 2
    match ranges[mid]? with
    | some r =>
      if r.first ≤ n then countUpTo ranges n (mid + 1) high else countUpTo ranges n low mid
    | none => countUpTo ranges n low mid
  else low
termination_by high - low

/-- The range that holds a number. -/
def find? (t : RangeTable) (n : Nat) : Option CharRange :=
  match countUpTo t.ranges n 0 t.ranges.size with
  | 0 => none
  | k + 1 =>
    match t.ranges[k]? with
    | some r => if r.contains n then some r else none
    | none => none

theorem mem_of_find? {t : RangeTable} {n : Nat} {r : CharRange} (h : t.find? n = some r) :
    r ∈ t.ranges ∧ r.contains n = true := by
  unfold find? at h
  split at h
  · cases h
  · split at h
    · rename_i found hfound
      by_cases hholds : found.contains n = true
      · rw [if_pos hholds] at h
        cases h
        exact ⟨Array.mem_of_getElem? hfound, hholds⟩
      · rw [if_neg hholds] at h
        cases h
    · cases h

/-- A number that lies before every range is not in the table. -/
theorem find?_eq_none {t : RangeTable} {n : Nat} (h : ∀ r ∈ t.ranges, n < r.first) :
    t.find? n = none := by
  cases hfind : t.find? n with
  | none => rfl
  | some r =>
    obtain ⟨hmem, hholds⟩ := mem_of_find? hfind
    have hlt := h r hmem
    simp only [CharRange.contains, Bool.and_eq_true, decide_eq_true_eq] at hholds
    omega

/-- Some range holds the character. -/
def contains (t : RangeTable) (c : Char) : Bool := (t.find? c.toNat).isSome

/-- The first value of the range that holds the character. -/
def value? (t : RangeTable) (c : Char) : Option Nat := (t.find? c.toNat).bind (·.value.head?)

end RangeTable

end WebForm.Unicode
