import WebForm.Html

/-!
# Reading tags

A reader for markup that consists of tags and line ends: start tags `<tag name="value" …>`, end tags
`</tag>`, nothing else between them. A name goes on to the character that has to follow it, and a
character that could end a name early is no part of one. A value goes on to the next double quote;
in it, the references `&amp;`, `&lt;`, `&gt;` and `&quot;` stand for their characters.

The reader takes one character at a time. It knows nothing of forms, and it gives up (`broken`) at
the first character that the grammar does not allow.

Results:
* `unescape_escape`, `quote_not_mem_escape`: an escaped value reads back as it was, and cannot end
  early.
* `foldl_writeAttribute`: an attribute with an acceptable name is read as one attribute.
* `foldl_startTag`: a written start tag is read as that tag, with its acceptable attributes.
-/

namespace WebForm.Html

/-! ## References -/

/-- A value with the four references replaced by what they stand for. -/
def unescape : List Char → List Char
  | '&' :: 'a' :: 'm' :: 'p' :: ';' :: cs => '&' :: unescape cs
  | '&' :: 'l' :: 't' :: ';' :: cs => '<' :: unescape cs
  | '&' :: 'g' :: 't' :: ';' :: cs => '>' :: unescape cs
  | '&' :: 'q' :: 'u' :: 'o' :: 't' :: ';' :: cs => '"' :: unescape cs
  | c :: cs => c :: unescape cs
  | [] => []

/-- A character that starts no reference stands for itself. -/
theorem unescape_cons {c : Char} (h : c ≠ '&') (cs : List Char) :
    unescape (c :: cs) = c :: unescape cs := by
  rw [unescape]
  all_goals
    intro _ hc
    exact absurd hc h

theorem escape_cons (c : Char) (cs : List Char) : escape (c :: cs) = escape [c] ++ escape cs := by
  simp [escape]

/-- A character is one of the four that are escaped, or it is written as it is. -/
theorem escape_singleton (c : Char) :
    (c = '&' ∨ c = '<' ∨ c = '>' ∨ c = '"') ∨ (c ≠ '&' ∧ c ≠ '"' ∧ escape [c] = [c]) := by
  by_cases h : c = '&' ∨ c = '<' ∨ c = '>' ∨ c = '"'
  · exact Or.inl h
  · simp only [not_or] at h
    obtain ⟨h1, h2, h3, h4⟩ := h
    exact Or.inr ⟨h1, h4, by simp [escape]⟩

/-- **A value that was escaped reads back as it was.** -/
theorem unescape_escape (value : List Char) : unescape (escape value) = value := by
  induction value with
  | nil => rfl
  | cons c value ih =>
    rw [escape_cons]
    rcases escape_singleton c with (rfl | rfl | rfl | rfl) | ⟨hc, -, he⟩
    · exact congrArg _ ih
    · exact congrArg _ ih
    · exact congrArg _ ih
    · exact congrArg _ ih
    · rw [he, List.singleton_append, unescape_cons hc, ih]

/-- An escaped value holds no quote, so nothing in it can end it. -/
theorem quote_not_mem_escape (value : List Char) : '"' ∉ escape value := by
  induction value with
  | nil => exact List.not_mem_nil
  | cons c value ih =>
    rw [escape_cons, List.mem_append, not_or]
    refine ⟨?_, ih⟩
    rcases escape_singleton c with (rfl | rfl | rfl | rfl) | ⟨-, hq, he⟩
    · decide
    · decide
    · decide
    · decide
    · rw [he, List.mem_singleton]
      exact fun e => hq e.symm

/-! ## The reader -/

/-- What a piece of markup is. -/
inductive Piece where
  /-- A start tag and its attributes, references replaced. -/
  | start (tag : String) (attributes : List (String × String))
  /-- An end tag. -/
  | finish (tag : String)
  /-- A line end between tags. -/
  | newline
  deriving DecidableEq, Repr

/-- Where the reader stands, and what it has of the tag it is in. Names, values and attributes are
collected with the last element first. -/
inductive ReaderState where
  /-- Between tags. -/
  | between
  /-- After `<`. -/
  | opened
  /-- In the name of a start tag. -/
  | startName (name : List Char)
  /-- In the name of an end tag. -/
  | finishName (name : List Char)
  /-- In the name of an attribute. -/
  | attributeName (tag : String) (attributes : List (String × String)) (name : List Char)
  /-- After the `=` of an attribute. -/
  | equals (tag : String) (attributes : List (String × String)) (name : String)
  /-- In a value. -/
  | value (tag : String) (attributes : List (String × String)) (name : String) (text : List Char)
  /-- After the quote that ends a value. -/
  | valueEnd (tag : String) (attributes : List (String × String))
  /-- After a character that the grammar does not allow. -/
  | broken
  deriving DecidableEq, Repr

/-- A reader: its state, and the pieces it has read, the last one first. -/
structure TagReader where
  state : ReaderState
  pieces : List Piece
  deriving DecidableEq, Repr

/-- The characters that could end a name: no name holds one. -/
def endsName (c : Char) : Bool :=
  [' ', '\t', '\n', '\x0c', '\r', '"', '\'', '<', '>', '/', '='].contains c

namespace TagReader

/-- Go to a state. -/
def goTo (r : TagReader) (state : ReaderState) : TagReader := { r with state := state }

/-- Complete a piece. -/
def emit (r : TagReader) (piece : Piece) : TagReader := ⟨.between, piece :: r.pieces⟩

/-- Go on with a name, unless it could end here. -/
def nameChar (r : TagReader) (c : Char) (state : ReaderState) : TagReader :=
  r.goTo (if endsName c then .broken else state)

/-- Read one character. -/
def step (r : TagReader) (c : Char) : TagReader :=
  match r.state with
  | .between =>
    if c = '<' then r.goTo .opened else if c = '\n' then r.emit .newline else r.goTo .broken
  | .opened => if c = '/' then r.goTo (.finishName []) else r.nameChar c (.startName [c])
  | .startName name =>
    if c = ' ' then r.goTo (.attributeName (String.ofList name.reverse) [] [])
    else if c = '>' then r.emit (.start (String.ofList name.reverse) [])
    else r.nameChar c (.startName (c :: name))
  | .finishName name =>
    if c = '>' then r.emit (.finish (String.ofList name.reverse))
    else r.nameChar c (.finishName (c :: name))
  | .attributeName tag attributes name =>
    if c = '=' ∧ name ≠ [] then r.goTo (.equals tag attributes (String.ofList name.reverse))
    else r.nameChar c (.attributeName tag attributes (c :: name))
  | .equals tag attributes name =>
    r.goTo (if c = '"' then .value tag attributes name [] else .broken)
  | .value tag attributes name text =>
    if c = '"' then
      r.goTo (.valueEnd tag ((name, String.ofList (unescape text.reverse)) :: attributes))
    else r.goTo (.value tag attributes name (c :: text))
  | .valueEnd tag attributes =>
    if c = ' ' then r.goTo (.attributeName tag attributes [])
    else if c = '>' then r.emit (.start tag attributes.reverse)
    else r.goTo .broken
  | .broken => r

end TagReader

/-- The reader after some characters, from between tags. -/
def readOn (pieces : List Piece) (cs : List Char) : TagReader :=
  cs.foldl TagReader.step ⟨.between, pieces⟩

/-- The pieces of a text, when all of it is markup of this kind. -/
def readTags (text : String) : Option (List Piece) :=
  match readOn [] text.toList with
  | ⟨.between, pieces⟩ => some pieces.reverse
  | _ => none

/-! ## Reading what is written -/

/-- An acceptable name holds nothing that could end it. -/
theorem endsName_of_isNameChar {c : Char} (h : isNameChar c = true) : endsName c = false := by
  cases he : endsName c with
  | false => rfl
  | true =>
    simp only [endsName, List.contains_iff_mem, List.mem_cons, List.not_mem_nil, or_false] at he
    rcases he with rfl | rfl | rfl | rfl | rfl | rfl | rfl | rfl | rfl | rfl | rfl <;>
      exact absurd h (by decide)

/-- A name that is allowed is not empty and holds nothing that could end it. -/
def IsName (name : List Char) : Prop := name ≠ [] ∧ ∀ c ∈ name, endsName c = false

theorem isName_of_isAttributeName {name : String} (h : isAttributeName name = true) :
    IsName name.toList := by
  simp only [isAttributeName, Bool.and_eq_true, Bool.not_eq_true', List.all_eq_true] at h
  refine ⟨fun hn => ?_, fun c hc => endsName_of_isNameChar (h.2 c hc)⟩
  rw [String.toList_eq_nil_iff.mp hn] at h
  exact absurd h.1 (by decide)

namespace TagReader

theorem nameChar_eq {r : TagReader} {c : Char} (h : endsName c = false) (state : ReaderState) :
    r.nameChar c state = r.goTo state := by
  simp [nameChar, h]

/-- No name holds the characters that the reader looks for behind it. -/
theorem ne_of_endsName_eq_false {c : Char} (h : endsName c = false) :
    c ≠ ' ' ∧ c ≠ '>' ∧ c ≠ '=' ∧ c ≠ '/' := by
  refine ⟨?_, ?_, ?_, ?_⟩ <;>
    · rintro rfl
      exact absurd h (by decide)

/-- The characters of an attribute's name. -/
theorem foldl_attributeName (tag : String) (attributes : List (String × String))
    (pieces : List Piece) : ∀ (cs name : List Char), (∀ c ∈ cs, endsName c = false) →
      cs.foldl step ⟨.attributeName tag attributes name, pieces⟩ =
        ⟨.attributeName tag attributes (cs.reverse ++ name), pieces⟩
  | [], _, _ => rfl
  | c :: cs, name, h => by
    have hc := h c List.mem_cons_self
    have hstep : step ⟨.attributeName tag attributes name, pieces⟩ c =
        ⟨.attributeName tag attributes (c :: name), pieces⟩ := by
      simp [step, nameChar_eq hc, (ne_of_endsName_eq_false hc).2.2.1, goTo]
    rw [List.foldl_cons, hstep,
      foldl_attributeName tag attributes pieces cs _ fun d hd => h d (List.mem_cons_of_mem c hd)]
    simp

/-- The characters of a tag's name. -/
theorem foldl_startName (pieces : List Piece) : ∀ (cs name : List Char),
    (∀ c ∈ cs, endsName c = false) →
      cs.foldl step ⟨.startName name, pieces⟩ = ⟨.startName (cs.reverse ++ name), pieces⟩
  | [], _, _ => rfl
  | c :: cs, name, h => by
    have hc := h c List.mem_cons_self
    have hstep : step ⟨.startName name, pieces⟩ c = ⟨.startName (c :: name), pieces⟩ := by
      simp [step, nameChar_eq hc, ne_of_endsName_eq_false hc, goTo]
    rw [List.foldl_cons, hstep,
      foldl_startName pieces cs _ fun d hd => h d (List.mem_cons_of_mem c hd)]
    simp

/-- The characters of a value. -/
theorem foldl_value (tag : String) (attributes : List (String × String)) (name : String)
    (pieces : List Piece) : ∀ (cs text : List Char), '"' ∉ cs →
      cs.foldl step ⟨.value tag attributes name text, pieces⟩ =
        ⟨.value tag attributes name (cs.reverse ++ text), pieces⟩
  | [], _, _ => rfl
  | c :: cs, text, h => by
    rw [List.mem_cons, not_or, eq_comm] at h
    have hstep : step ⟨.value tag attributes name text, pieces⟩ c =
        ⟨.value tag attributes name (c :: text), pieces⟩ := by
      simp [step, h.1, goTo]
    rw [List.foldl_cons, hstep, foldl_value tag attributes name pieces cs _ h.2]
    simp

/-- **One attribute.** Behind a tag's name or another attribute, an attribute with an acceptable name
is read as it was meant, whatever its value. -/
theorem foldl_writeAttribute (tag : String) (attributes : List (String × String))
    (pieces : List Piece) {name : String} (h : isAttributeName name = true) (value : String) :
    (writeAttribute name value).foldl step ⟨.valueEnd tag attributes, pieces⟩ =
      ⟨.valueEnd tag ((name, value) :: attributes), pieces⟩ := by
  obtain ⟨hne, hname⟩ := isName_of_isAttributeName h
  have hblank : step ⟨.valueEnd tag attributes, pieces⟩ ' ' =
      ⟨.attributeName tag attributes [], pieces⟩ := rfl
  have hequals : step ⟨.attributeName tag attributes name.toList.reverse, pieces⟩ '=' =
      ⟨.equals tag attributes name, pieces⟩ := by
    simp [step, hne, goTo]
  have hopen : step ⟨.equals tag attributes name, pieces⟩ '"' =
      ⟨.value tag attributes name [], pieces⟩ := rfl
  have hclose : step ⟨.value tag attributes name (escape value.toList).reverse, pieces⟩ '"' =
      ⟨.valueEnd tag ((name, value) :: attributes), pieces⟩ := by
    simp [step, unescape_escape, goTo]
  unfold writeAttribute
  rw [List.foldl_cons, hblank, List.foldl_append,
    foldl_attributeName tag attributes pieces _ _ hname, List.append_nil, List.foldl_cons, hequals,
    List.foldl_cons, hopen, List.foldl_append,
    foldl_value tag attributes name pieces _ _ (quote_not_mem_escape _), List.append_nil,
    List.foldl_cons, hclose, List.foldl_nil]

/-- Attributes with acceptable names. -/
theorem foldl_writeAttributes (tag : String) (pieces : List Piece) :
    ∀ (written attributes : List (String × String)),
      (∀ e ∈ written, isAttributeName e.1 = true) →
        (written.flatMap fun e => writeAttribute e.1 e.2).foldl step
            ⟨.valueEnd tag attributes, pieces⟩ =
          ⟨.valueEnd tag (written.reverse ++ attributes), pieces⟩
  | [], _, _ => rfl
  | e :: written, attributes, h => by
    rw [List.flatMap_cons, List.foldl_append,
      foldl_writeAttribute tag attributes pieces (h e List.mem_cons_self),
      foldl_writeAttributes tag pieces written _ fun d hd => h d (List.mem_cons_of_mem e hd)]
    simp

/-- Behind a tag's name, a blank and `>` mean what they mean behind an attribute. -/
theorem step_startName {c : Char} (h : c = ' ' ∨ c = '>') (name : List Char)
    (pieces : List Piece) :
    step ⟨.startName name, pieces⟩ c =
      step ⟨.valueEnd (String.ofList name.reverse) [], pieces⟩ c := by
  rcases h with rfl | rfl <;> rfl

end TagReader

/-- The attributes of a tag that are written: those with acceptable names. -/
def writtenAttributes (attributes : OrderedMap String) : List (String × String) :=
  attributes.entries.filter fun e => isAttributeName e.1

/-- The rest of a start tag behind its name begins with a blank or is `>`. -/
theorem startTag_rest (attributes : OrderedMap String) :
    ∃ c cs, ((writtenAttributes attributes).flatMap fun e => writeAttribute e.1 e.2) ++ ['>'] =
      c :: cs ∧ (c = ' ' ∨ c = '>') := by
  cases writtenAttributes attributes with
  | nil => exact ⟨'>', [], rfl, Or.inr rfl⟩
  | cons e written => exact ⟨' ', _, rfl, Or.inl rfl⟩

/-- **One start tag.** Between tags, a written start tag is read as that tag with its acceptable
attributes, in their order and with their values. -/
theorem readOn_startTag {tag : String} (htag : IsName tag.toList) (attributes : OrderedMap String)
    (pieces : List Piece) :
    readOn pieces (startTag tag attributes) =
      ⟨.between, .start tag (writtenAttributes attributes) :: pieces⟩ := by
  obtain ⟨hne, hname⟩ := htag
  obtain ⟨first, name, hfirst⟩ := List.exists_cons_of_ne_nil hne
  have hall : ∀ c ∈ first :: name, endsName c = false := hfirst ▸ hname
  have hc := hall first List.mem_cons_self
  have hopen : TagReader.step ⟨.opened, pieces⟩ first = ⟨.startName [first], pieces⟩ := by
    simp [TagReader.step, TagReader.nameChar_eq hc, TagReader.ne_of_endsName_eq_false hc,
      TagReader.goTo]
  have htext : String.ofList (name.reverse ++ [first]).reverse = tag := by
    rw [List.reverse_append, List.reverse_reverse]
    exact (congrArg String.ofList hfirst.symm).trans String.ofList_toList
  obtain ⟨c, cs, hrest, hcs⟩ := startTag_rest attributes
  have hwritten : ∀ e ∈ writtenAttributes attributes, isAttributeName e.1 = true :=
    fun e he => (List.mem_filter.mp he).2
  unfold readOn startTag
  rw [List.foldl_cons, List.append_assoc, hfirst, List.foldl_append, List.foldl_cons]
  show (((writtenAttributes attributes).flatMap fun e => writeAttribute e.1 e.2) ++
    ['>']).foldl TagReader.step
      (name.foldl TagReader.step (TagReader.step ⟨.opened, pieces⟩ first)) = _
  rw [hopen, TagReader.foldl_startName pieces name _ fun d hd =>
    hall d (List.mem_cons_of_mem first hd), hrest, List.foldl_cons,
    TagReader.step_startName hcs, htext, ← List.foldl_cons, ← hrest, List.foldl_append,
    TagReader.foldl_writeAttributes tag pieces _ _ hwritten, List.append_nil]
  simp [TagReader.step, TagReader.emit]

end WebForm.Html
