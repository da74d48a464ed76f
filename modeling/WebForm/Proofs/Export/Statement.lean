import Mathlib.Data.List.Basic
import WebForm.Export.Insert
import WebForm.Numeral

/-!
# Statements read back

An `INSERT` statement is put together from names that may hold anything: quotes, commas, brackets,
question marks, more statements. This file has a reader for such statements that knows nothing of
how they are written, and shows that it gets every name back as it was.

* A name is a token between double quotes. In it a doubled quote stands for one quote, and the first
  quote that is not doubled ends the token, whatever stands before it.
* A placeholder is `?`, or `$` and a number.
* Names and placeholders stand in lists between round brackets, with a comma and a blank between
  each two.

Results:
* `readName_quoteName`: a quoted name reads back, unless a quote follows it.
* `readPlaceholder_placeholder`: so does a placeholder, unless a digit follows it.
* `readTuple_intercalate`: a list reads back when its items do.
* `read?_statement`: a statement reads back as its table, its columns and its placeholders.
* `query_reads_back`: the query for a record is such a statement, with as many placeholders as values,
  and tells tables and columns apart.
-/

namespace WebForm.Insert

open Text

/-! ## The reader -/

/-- A placeholder in a statement. -/
inductive Placeholder where
  /-- `$n`, for the value in place `n`. -/
  | numbered (n : Nat)
  /-- `?`, for the value that is next. -/
  | next
  deriving DecidableEq, Repr

/-- What a statement says. -/
structure Parts where
  table : String
  columns : List String
  placeholders : List Placeholder
  deriving DecidableEq, Repr

/-- The rest of a name behind its opening quote, and what follows the quote that ends it. -/
def readQuoted : List Char → Option (List Char × List Char)
  | [] => none
  | '"' :: '"' :: rest => (readQuoted rest).map fun p => ('"' :: p.1, p.2)
  | '"' :: rest => some ([], rest)
  | c :: rest => (readQuoted rest).map fun p => (c :: p.1, p.2)

/-- A name, and what follows it. -/
def readName : List Char → Option (String × List Char)
  | '"' :: rest => (readQuoted rest).map fun p => (String.ofList p.1, p.2)
  | _ => none

/-- A placeholder, and what follows it. -/
def readPlaceholder : List Char → Option (Placeholder × List Char)
  | '?' :: rest => some (.next, rest)
  | '$' :: rest =>
    let (digits, rest) := Numeral.readDigits rest
    if digits.isEmpty then none else some (.numbered (Numeral.natOfDigits digits), rest)
  | _ => none

section Tuples

variable {α : Type} (item : List Char → Option (α × List Char))

/-- The items up to a closing bracket, `fuel` at most. -/
def readItems : Nat → List Char → Option (List α × List Char)
  | 0, _ => none
  | fuel + 1, cs =>
    match item cs with
    | some (a, ')' :: rest) => some ([a], rest)
    | some (a, ',' :: ' ' :: rest) => (readItems fuel rest).map fun p => (a :: p.1, p.2)
    | _ => none

/-- A list of items between brackets, and what follows it. -/
def readTuple : List Char → Option (List α × List Char)
  | '(' :: cs => readItems item cs.length cs
  | _ => none

end Tuples

/-- Read a statement. -/
def read? (text : String) : Option Parts := do
  let cs ← stripStart "INSERT INTO ".toList text.toList
  let (table, cs) ← readName cs
  let cs ← stripStart [' '] cs
  let (columns, cs) ← readTuple readName cs
  let cs ← stripStart " VALUES ".toList cs
  let (placeholders, cs) ← readTuple readPlaceholder cs
  if cs.isEmpty then some ⟨table, columns, placeholders⟩ else none

/-! ## Names -/

theorem readQuoted_cons {c : Char} (h : c ≠ '"') (rest : List Char) :
    readQuoted (c :: rest) = (readQuoted rest).map fun p => (c :: p.1, p.2) := by
  rw [readQuoted]
  · intro _ hc
    exact absurd hc h
  · intro hc
    exact absurd hc h

/-- A quote that is not doubled ends a name. -/
theorem readQuoted_quote {rest : List Char} (h : rest.head? ≠ some '"') :
    readQuoted ('"' :: rest) = some ([], rest) := by
  cases rest with
  | nil => rfl
  | cons c rest =>
    rw [readQuoted]
    intro _ hc
    obtain ⟨rfl, -⟩ := List.cons.inj hc
    exact h rfl

/-- A name whose quotes are doubled goes on to the quote behind it, whatever it holds. -/
theorem readQuoted_doubled {rest : List Char} (h : rest.head? ≠ some '"') (name : List Char) :
    readQuoted (name.flatMap (fun c => if c = '"' then ['"', '"'] else [c]) ++ '"' :: rest) =
      some (name, rest) := by
  induction name with
  | nil => exact readQuoted_quote h
  | cons c name ih =>
    rw [List.flatMap_cons, List.append_assoc]
    by_cases hc : c = '"'
    · subst hc
      rw [if_pos rfl, List.cons_append, List.cons_append, List.nil_append, readQuoted, ih]
      rfl
    · rw [if_neg hc, List.singleton_append, readQuoted_cons hc, ih]
      rfl

/-- **A quoted name reads back**, unless a quote follows it. -/
theorem readName_quoteName {rest : List Char} (h : rest.head? ≠ some '"') (name : String) :
    readName ((quoteName name).toList ++ rest) = some (name, rest) := by
  unfold quoteName
  rw [String.toList_ofList, List.cons_append, List.append_assoc, List.singleton_append, readName,
    readQuoted_doubled h, Option.map_some, String.ofList_toList]

/-! ## Placeholders -/

theorem natOfDigits_eq_ofDigitChars (digits : List Char) :
    Numeral.natOfDigits digits = Nat.ofDigitChars 10 digits 0 := by
  unfold Numeral.natOfDigits Nat.ofDigitChars
  congr 1
  funext n c
  rw [Nat.mul_comm]

/-- The digits of a number read back, unless a digit follows them. -/
theorem readDigits_toString {rest : List Char} (h : ∀ c ∈ rest.head?, c.isDigit = false) (n : Nat) :
    Numeral.readDigits ((toString n).toList ++ rest) = (Nat.toDigits 10 n, rest) := by
  have hdigits : ∀ c ∈ Nat.toDigits 10 n, c.isDigit = true :=
    fun c hc => Nat.isDigit_of_mem_toDigits (by decide) (by decide) hc
  have hrest : rest.takeWhile Char.isDigit = [] ∧ rest.dropWhile Char.isDigit = rest := by
    cases rest with
    | nil => exact ⟨rfl, rfl⟩
    | cons c rest => simp [h c rfl]
  unfold Numeral.readDigits
  rw [Nat.toString_eq_repr, Nat.toList_repr, List.takeWhile_append_of_pos hdigits,
    List.dropWhile_append_of_pos hdigits, hrest.1, hrest.2, List.append_nil]

/-- The placeholder that a kind of database has for the value in place `n`. -/
def placeholderAt : DatabaseKind → Nat → Placeholder
  | .postgres, n => .numbered n
  | .sqlite, _ => .next

/-- **A placeholder reads back**, unless a digit follows it. -/
theorem readPlaceholder_placeholder {rest : List Char} (h : ∀ c ∈ rest.head?, c.isDigit = false)
    (kind : DatabaseKind) (n : Nat) :
    readPlaceholder ((kind.placeholder n).toList ++ rest) = some (placeholderAt kind n, rest) := by
  cases kind with
  | sqlite =>
    show readPlaceholder ("?".toList ++ rest) = some (.next, rest)
    rfl
  | postgres =>
    have hne : (Nat.toDigits 10 n).isEmpty = false :=
      List.isEmpty_eq_false_iff.mpr Nat.toDigits_ne_nil
    have hnumber : Numeral.natOfDigits (Nat.toDigits 10 n) = n := by
      rw [natOfDigits_eq_ofDigitChars, Nat.ofDigitChars_toDigits (by decide) (by decide)]
    show readPlaceholder (("$" ++ toString n).toList ++ rest) = _
    rw [String.toList_append, List.append_assoc]
    show readPlaceholder ('$' :: ((toString n).toList ++ rest)) = _
    simp only [readPlaceholder, readDigits_toString h, hne, hnumber, Bool.false_eq_true, if_false]
    rfl

/-! ## Lists -/

section Tuples

variable {α β : Type} {item : List Char → Option (α × List Char)} {write : β → String}
  {value : β → α}

/-- What follows an item in a list: a comma or the closing bracket. -/
def Closes (rest : List Char) : Prop := ∃ cs, rest = ',' :: cs ∨ rest = ')' :: cs

theorem Closes.head?_ne {rest : List Char} (h : Closes rest) : rest.head? ≠ some '"' := by
  obtain ⟨cs, rfl | rfl⟩ := h <;> simp

theorem Closes.isDigit_head? {rest : List Char} (h : Closes rest) :
    ∀ c ∈ rest.head?, c.isDigit = false := by
  obtain ⟨cs, rfl | rfl⟩ := h <;>
    · rintro c ⟨⟩
      decide

/-- Items that read back one by one read back as a list, when there is fuel for each. -/
theorem readItems_intercalate
    (hread : ∀ b rest, Closes rest → item ((write b).toList ++ rest) = some (value b, rest))
    (rest : List Char) : ∀ (l : List β) (fuel : Nat), l ≠ [] → l.length ≤ fuel →
      readItems item fuel ((String.intercalate ", " (l.map write)).toList ++ ')' :: rest) =
        some (l.map value, rest)
  | [], _, hne, _ => absurd rfl hne
  | _ :: _, 0, _, hfuel => absurd hfuel (by simp)
  | [b], fuel + 1, _, _ => by
    have hitem := hread b (')' :: rest) ⟨rest, Or.inr rfl⟩
    simp only [List.map_cons, List.map_nil, String.intercalate_singleton, readItems, hitem]
  | b :: next :: l, fuel + 1, _, hfuel => by
    have ih := readItems_intercalate hread rest (next :: l) fuel (by simp)
      (by simpa using hfuel)
    have hitem := hread b (',' :: ' ' ::
      ((String.intercalate ", " ((next :: l).map write)).toList ++ ')' :: rest)) ⟨_, Or.inl rfl⟩
    have htext : (String.intercalate ", " ((b :: next :: l).map write)).toList ++ ')' :: rest =
        (write b).toList ++ ',' :: ' ' ::
          ((String.intercalate ", " ((next :: l).map write)).toList ++ ')' :: rest) := by
      simp [String.toList_intercalate]
    rw [htext]
    simp only [readItems, hitem, ih]
    rfl

/-- A list has no more items than characters, its closing bracket counted. -/
theorem length_le_length_intercalate (write : β → String) : ∀ l : List β,
    l.length ≤ (String.intercalate ", " (l.map write)).toList.length + 1
  | [] => by simp
  | [_] => by simp
  | b :: next :: l => by
    have ih := length_le_length_intercalate write (next :: l)
    have hcons : (String.intercalate ", " ((b :: next :: l).map write)).toList =
        (write b).toList ++ ", ".toList ++
          (String.intercalate ", " ((next :: l).map write)).toList := by
      simp [String.toList_intercalate]
    have hcomma : ", ".toList.length = 2 := rfl
    rw [hcons, List.length_append, List.length_append, hcomma]
    simp only [List.length_cons] at ih ⊢
    omega

/-- **A list reads back** when its items do. -/
theorem readTuple_intercalate
    (hread : ∀ b rest, Closes rest → item ((write b).toList ++ rest) = some (value b, rest))
    {l : List β} (hne : l ≠ []) (rest : List Char) :
    readTuple item ('(' :: ((String.intercalate ", " (l.map write)).toList ++ ')' :: rest)) =
      some (l.map value, rest) := by
  have hfuel : l.length ≤
      ((String.intercalate ", " (l.map write)).toList ++ ')' :: rest).length := by
    have hle := length_le_length_intercalate write l
    rw [List.length_append, List.length_cons]
    omega
  exact readItems_intercalate hread rest l _ hne hfuel

end Tuples

/-! ## Statements -/

/-- The placeholders of `count` values: `$1` to `$count` in order, or as many `?`. -/
def numbering : DatabaseKind → Nat → List Placeholder
  | .postgres, count => (List.range count).map fun n => .numbered (n + 1)
  | .sqlite, count => List.replicate count .next

theorem map_placeholderAt (kind : DatabaseKind) (count : Nat) :
    (List.range count).map (fun n => placeholderAt kind (n + 1)) = numbering kind count := by
  cases kind with
  | postgres => rfl
  | sqlite =>
    rw [numbering, List.eq_replicate_iff]
    refine ⟨by simp, fun p hp => ?_⟩
    obtain ⟨n, -, rfl⟩ := List.mem_map.mp hp
    rfl

theorem length_numbering (kind : DatabaseKind) (count : Nat) :
    (numbering kind count).length = count := by
  cases kind <;> simp [numbering]

/-- **A statement reads back** as its table, its columns and its placeholders. -/
theorem read?_statement (kind : DatabaseKind) (table : String) {columns : List String}
    (h : columns ≠ []) :
    read? (statement kind table columns) =
      some ⟨table, columns, numbering kind columns.length⟩ := by
  have hnames : ∀ rest, readTuple readName
      ('(' :: ((String.intercalate ", " (columns.map quoteName)).toList ++ ')' :: rest)) =
        some (columns, rest) := fun rest => by
    have hname : ∀ name rest, Closes rest →
        readName ((quoteName name).toList ++ rest) = some (id name, rest) :=
      fun name _ hrest => readName_quoteName hrest.head?_ne name
    rw [readTuple_intercalate hname h rest, List.map_id]
  have hplaceholders : readTuple readPlaceholder
      ('(' :: ((String.intercalate ", " (placeholders kind columns.length)).toList ++ [')'])) =
        some (numbering kind columns.length, []) := by
    rw [← map_placeholderAt]
    refine readTuple_intercalate (fun n rest hrest =>
      readPlaceholder_placeholder hrest.isDigit_head? kind (n + 1)) ?_ []
    simpa using h
  have htext : (statement kind table columns).toList =
      "INSERT INTO ".toList ++ ((quoteName table).toList ++ ([' '] ++
        '(' :: ((String.intercalate ", " (columns.map quoteName)).toList ++
          ')' :: (" VALUES ".toList ++
            '(' :: ((String.intercalate ", " (placeholders kind columns.length)).toList ++
              [')']))))) := by
    -- Stated for any texts, because `simp` would take the literals of a statement apart.
    have hparts : ∀ a b c d e f g : String, (a ++ b ++ c ++ d ++ e ++ f ++ g).toList =
        a.toList ++ (b.toList ++ (c.toList ++ (d.toList ++ (e.toList ++ (f.toList ++ g.toList))))) :=
      fun _ _ _ _ _ _ _ => by simp only [String.toList_append, List.append_assoc]
    exact hparts _ _ _ _ _ _ _
  have hstrip : ∀ phrase rest, stripStart phrase (phrase ++ rest) = some rest :=
    fun _ _ => stripStart_eq_some_iff.mpr rfl
  unfold read?
  rw [htext, hstrip, Option.bind_eq_bind, Option.bind_some, readName_quoteName (by simp)]
  simp only [Option.bind_eq_bind, Option.bind_some, hstrip, hnames, hplaceholders]
  rfl

/-! ## Exporters -/

/-- A statement is written for a table that has a name and a record that has a value, and for
nothing else. -/
theorem ofRecord_eq_ok_iff {kind : DatabaseKind} {table : Option String} {record : ExportRecord}
    {text : String} : ofRecord kind table record = .ok text ↔
      ∃ name, table = some name ∧ name ≠ "" ∧ record.isEmpty = false ∧
        text = statement kind name record.columns := by
  unfold ofRecord
  constructor
  · intro h
    split at h
    · exact absurd h (by simp)
    · rename_i name hname
      obtain ⟨rfl, hfilled⟩ := Option.filter_eq_some_iff.mp hname
      split at h
      · exact absurd h (by simp)
      · rename_i hrecord
        exact ⟨name, rfl, by simpa using hfilled, by simpa using hrecord, (Except.ok.inj h).symm⟩
  · rintro ⟨name, rfl, hfilled, hrecord, rfl⟩
    simp [Option.filter, hfilled, hrecord]

/-- A record that has a value has a column. -/
theorem columns_ne_nil {record : ExportRecord} (h : record.isEmpty = false) :
    record.columns ≠ [] := by
  unfold ExportRecord.isEmpty OrderedMap.isEmpty at h
  simpa [ExportRecord.columns, OrderedMap.keys] using h

/-- **No name gets out of its quotes.** For a table that has a name and a record that has a value
there is a statement. It reads back as the table, the columns of the record in the order of its
fields, and a placeholder for each value that is bound, numbered from `$1` where the kind of
database numbers them. Every exporter to the same kind of database with the same statement has that
table and those columns. -/
theorem query_reads_back (kind : DatabaseKind) {table : String} {record : ExportRecord}
    (htable : table ≠ "") (hrecord : record.isEmpty = false) :
    ∃ text placeholders, ofRecord kind (some table) record = .ok text ∧
      query kind (some table) record = .ok ⟨text, record.data.values⟩ ∧
      read? text = some ⟨table, record.data.keys.map record.columnFor, placeholders⟩ ∧
      placeholders = numbering kind record.data.values.length ∧
      placeholders.length = record.data.values.length ∧
      ∀ table' record', ofRecord kind table' record' = .ok text →
        table' = some table ∧
          record'.data.keys.map record'.columnFor = record.data.keys.map record.columnFor := by
  have htext : ofRecord kind (some table) record = .ok (statement kind table record.columns) :=
    ofRecord_eq_ok_iff.mpr ⟨table, rfl, htable, hrecord, rfl⟩
  have hread := read?_statement kind table (columns_ne_nil hrecord)
  have hlength : record.columns.length = record.data.values.length := by
    simp [ExportRecord.columns, OrderedMap.keys, OrderedMap.values]
  refine ⟨_, _, htext, ?_, hread, by rw [hlength], by rw [length_numbering, hlength], ?_⟩
  · rw [query, htext]
    rfl
  · intro table' record' h
    obtain ⟨name, rfl, -, hrecord', hsame⟩ := ofRecord_eq_ok_iff.mp h
    -- Both statements are one text, and a text reads back as one thing only.
    rw [hsame, read?_statement kind name (columns_ne_nil hrecord'), Option.some.injEq,
      Parts.mk.injEq] at hread
    exact ⟨congrArg some hread.1, hread.2.1⟩

/-- A field that ends in a quote, and one that is renamed to what could end the list of columns. -/
def hostileRecord : ExportRecord :=
  ⟨.ofList [("x\"", "1"), ("z", "2")], .ofList [("z", "?, \") VALUES (")]⟩

theorem query_reads_back_hostile :
    "t\"; --" ≠ "" ∧ hostileRecord.isEmpty = false ∧
      query .postgres (some "t\"; --") hostileRecord =
        .ok ⟨"INSERT INTO \"t\"\"; --\" (\"x\"\"\", \"?, \"\") VALUES (\") VALUES ($1, $2)",
          ["1", "2"]⟩ ∧
      read? "INSERT INTO \"t\"\"; --\" (\"x\"\"\", \"?, \"\") VALUES (\") VALUES ($1, $2)" =
        some ⟨"t\"; --", ["x\"", "?, \") VALUES ("], [.numbered 1, .numbered 2]⟩ := by
  have htable : "t\"; --" ≠ "" := by decide
  have hrecord : hostileRecord.isEmpty = false := by decide
  have hquery : query .postgres (some "t\"; --") hostileRecord =
      .ok ⟨"INSERT INTO \"t\"\"; --\" (\"x\"\"\", \"?, \"\") VALUES (\") VALUES ($1, $2)",
        ["1", "2"]⟩ := by decide +kernel
  obtain ⟨text, placeholders, -, hsame, hread, rfl, -, -⟩ :=
    query_reads_back .postgres htable hrecord
  obtain ⟨rfl, -⟩ := Query.mk.inj (Except.ok.inj (hsame.symm.trans hquery))
  exact ⟨htable, hrecord, hquery, hread⟩

end WebForm.Insert
