import WebForm.Catalog
import WebForm.Field.Json
import WebForm.Proofs.Json.Members
import WebForm.Proofs.Json.Scan

/-!
# Fields and maps of texts read back from their JSON text

A field, a submission and a catalog can be written as JSON text and read again. What is left out in
writing is what a reader supplies when it is not there, so nothing is lost: a label that is not
given stays apart from an empty one, and attributes keep their order.

* `Reader.GivesBack` says that a reader makes something of the text of a value, in front of any
  tokens.
* `Reader.Steps` says what the members of an object make of a state, one after the other.

Results:
* `Steps.exists_leaves`, `Steps.members_eq`: the loop over the members of an object follows its
  steps.
* `givesBack_texts`, `Field.givesBack_reader`: maps of texts and fields are given back.
* `compact_reads_back`: the same of whole texts.
-/

namespace WebForm

namespace Json.Reader

variable {α σ : Type}

/-- The reader makes `a` of the text of a value, whatever follows the text. -/
def GivesBack (reader : Reader α) (value : Json) (a : α) : Prop :=
  ∃ ts, Yields (compactChars value) ts ∧ ∀ rest, reader (ts ++ rest) = .ok (a, rest)

/-- A whole text. -/
theorem GivesBack.run_eq {reader : Reader α} {value : Json} {a : α}
    (h : GivesBack reader value a) : run reader value.compact = .ok a := by
  obtain ⟨ts, hyields, hread⟩ := h
  have hall : reader ts = .ok (a, []) := by simpa using hread []
  rw [run, Json.compact, hyields.tokens_eq, hall]
  rfl

/-! ## Strings -/

theorem decode_piecesOf (s : String) : decode (piecesOf s) = .ok s := by
  rw [decode, text?_piecesOf]

theorem givesBack_text (s : String) : GivesBack text (.string s) s :=
  ⟨_, yields_quote s, fun rest => by rw [List.singleton_append, text, decode_piecesOf]; rfl⟩

theorem givesBack_text? (s : String) : GivesBack text? (.string s) (some s) :=
  ⟨_, yields_quote s, fun rest => by
    rw [List.singleton_append, text?, text, decode_piecesOf]
    · rfl
    · simp⟩

/-! ## Objects -/

/-- The members lead from one state to another when the step takes them in turn. -/
inductive Steps (step : σ → List Piece → Reader σ) : σ → List (String × Json) → σ → Prop
  | nil (s : σ) : Steps step s [] s
  | cons {s s' s'' : σ} {key : String} {value : Json} {members : List (String × Json)}
      (hfirst : GivesBack (fun ts => step s (piecesOf key) (.colon :: ts)) value s')
      (hrest : Steps step s' members s'') : Steps step s ((key, value) :: members) s''

namespace Steps

variable {step : σ → List Piece → Reader σ} {s s' s'' : σ}

theorem append {members members' : List (String × Json)} (h : Steps step s members s')
    (h' : Steps step s' members' s'') : Steps step s (members ++ members') s'' := by
  induction h with
  | nil => exact h'
  | cons hfirst _ ih => exact .cons hfirst (ih h')

theorem singleton {key : String} {value : Json}
    (h : GivesBack (fun ts => step s (piecesOf key) (.colon :: ts)) value s') :
    Steps step s [(key, value)] s' := .cons h (.nil s')

/-- The text of members with a comma between each two, read as tokens, leaves what the steps lead
to. -/
theorem exists_leaves {members : List (String × Json)} (h : Steps step s members s') :
    ∃ tokenMembers, tokenMembers.length = members.length ∧ Leaves step s tokenMembers (.ok s') ∧
      Yields (commaJoin (compactMembers members)) (bodyTokens tokenMembers) := by
  induction h with
  | nil s => exact ⟨[], rfl, .nil s, yields_nil⟩
  | @cons s s' s'' key value members hfirst hrest ih =>
    obtain ⟨body, hbody, hread⟩ := hfirst
    obtain ⟨tokenMembers, hlength, hleaves, hyields⟩ := ih
    refine ⟨(piecesOf key, body) :: tokenMembers, congrArg (· + 1) hlength, .cons hread hleaves, ?_⟩
    cases members with
    | nil =>
      rw [List.length_eq_zero_iff.mp hlength, bodyTokens_singleton]
      exact commaJoin_singleton _ ▸ yields_member key hbody
    | cons next members =>
      obtain ⟨tokenNext, tokenMembers, rfl⟩ :=
        List.exists_cons_of_ne_nil (List.ne_nil_of_length_eq_add_one hlength)
      rw [bodyTokens_cons_cons]
      exact (yields_member key hbody).append ((yields_mark ',' .comma (by decide)).append hyields)

/-- **The loop over the members of an object** follows its steps. -/
theorem members_eq {members : List (String × Json)} (h : Steps step s members s') :
    ∃ ts, Yields (compactChars (.object members)) (.openBrace :: ts) ∧
      ∀ rest, Reader.members step s (ts ++ rest) = .ok (s', rest) := by
  obtain ⟨tokenMembers, -, hleaves, hyields⟩ := h.exists_leaves
  have hopen := yields_mark '\x7b' .openBrace (by decide)
  have hclose := yields_mark '\x7d' .closeBrace (by decide)
  refine ⟨bodyTokens tokenMembers ++ [.closeBrace], hopen.append (hyields.append hclose),
    fun rest => ?_⟩
  rw [List.append_assoc]
  exact Reader.members_eq hleaves rest

end Steps

/-! ## Maps of texts -/

/-- Members that are strings are inserted in turn. -/
theorem steps_textMember (entries : List (String × String)) : ∀ m : OrderedMap String,
    Steps textMember m (entries.map fun e => (e.1, .string e.2)) (m.insertAll entries) := by
  induction entries with
  | nil => exact fun m => .nil m
  | cons e entries ih =>
    intro m
    obtain ⟨ts, hyields, hread⟩ := givesBack_text e.2
    refine .cons ⟨ts, hyields, fun rest => ?_⟩ (ih (m.insert e.1 e.2))
    simp only [textMember, decode_piecesOf, colon, bind, Except.bind, hread]

/-- A map of texts is given back, order included. -/
theorem givesBack_texts (m : OrderedMap String) : GivesBack texts (.ofTexts m) m := by
  have hsteps := steps_textMember m.entries .empty
  rw [show OrderedMap.empty.insertAll m.entries = m from m.ofList_entries] at hsteps
  obtain ⟨ts, hyields, hread⟩ := hsteps.members_eq
  exact ⟨_, hyields, hread⟩

end Json.Reader

/-! ## Fields -/

namespace Field

open Json Json.Reader

namespace Draft

variable {α : Type} {key : String}

/-- The value under a key is read by the reader, and put in its place when that is free. -/
def Places (key : String) (reader : Reader α) (place : Option α → Draft) : Prop :=
  ∀ ts, readMember (place none) (piecesOf key) ts =
    (do let (a, ts) ← once none reader ts; .ok (place a, ts))

/-- A member that has not come before. -/
theorem steps_member {reader : Reader α} {value : Json} {a : α} (h : GivesBack reader value a)
    {place : Option α → Draft} (hplace : Places key reader place) :
    Steps readMember (place none) [(key, value)] (place (some a)) := by
  obtain ⟨ts, hyields, hread⟩ := h
  refine .singleton ⟨ts, hyields, fun rest => (hplace _).trans ?_⟩
  simp only [once, colon, bind, Except.bind, hread]

/-- A member that is there when its text is given. -/
theorem steps_optionalMember {place : Option (Option String) → Draft}
    (hplace : Places key text? place) (text : Option String) :
    Steps readMember (place none) (optionalMember key text) (place (text.map some)) := by
  cases text with
  | none => exact .nil _
  | some s => exact steps_member (givesBack_text? s) hplace

/-- What the members of a field leave. -/
def ofField (field : Field) : Draft where
  name := some field.name
  label := field.givenLabel.map some
  type := field.givenType.map some
  rules := field.givenRules.map some
  attributes := if field.attributes.isEmpty then none else some field.attributes

/-- The attributes are there unless they are empty. -/
theorem steps_attributes {place : Option (OrderedMap String) → Draft}
    (hplace : Places "attributes" texts place) (attributes : OrderedMap String) :
    Steps readMember (place none)
      (if attributes.isEmpty then [] else [("attributes", .ofTexts attributes)])
      (place (if attributes.isEmpty then none else some attributes)) := by
  cases attributes.isEmpty with
  | true => exact .nil _
  | false => exact steps_member (givesBack_texts attributes) hplace

/-- The members of a field leave its draft. -/
theorem steps_ofField (field : Field) :
    Steps readMember empty ([("name", .string field.name)] ++
      optionalMember "label" field.givenLabel ++ optionalMember "type" field.givenType ++
      optionalMember "rules" field.givenRules ++
      if field.attributes.isEmpty then [] else [("attributes", .ofTexts field.attributes)])
      (ofField field) := by
  obtain ⟨name, label, type, rules, attributes⟩ := field
  have hname : Places "name" text fun n => ⟨n, none, none, none, none⟩ := fun ts => by
    rw [readMember, decode_piecesOf]; rfl
  have hlabel : Places "label" text? fun l => ⟨some name, l, none, none, none⟩ := fun ts => by
    rw [readMember, decode_piecesOf]; rfl
  have htype : Places "type" text? fun t => ⟨some name, label.map some, t, none, none⟩ :=
    fun ts => by
      rw [readMember, decode_piecesOf]; rfl
  have hrules : Places "rules" text? fun r =>
      ⟨some name, label.map some, type.map some, r, none⟩ := fun ts => by
    rw [readMember, decode_piecesOf]; rfl
  have hattributes : Places "attributes" texts fun a =>
      ⟨some name, label.map some, type.map some, rules.map some, a⟩ := fun ts => by
    rw [readMember, decode_piecesOf]; rfl
  exact ((((steps_member (givesBack_text name) hname).append
    (steps_optionalMember hlabel label)).append (steps_optionalMember htype type)).append
      (steps_optionalMember hrules rules)).append (steps_attributes hattributes attributes)

/-- The draft of a field is that field: what is left out is what a reader supplies. -/
theorem field?_ofField (field : Field) : (ofField field).field? = .ok field := by
  obtain ⟨name, label, type, rules, attributes⟩ := field
  have hjoin : ∀ text : Option String, (text.map some).join = text := fun text => by
    cases text <;> rfl
  have hattributes : (if attributes.isEmpty then none else some attributes).getD .empty =
      attributes := by
    cases h : attributes.isEmpty with
    | true => exact (OrderedMap.ext (List.isEmpty_iff.mp h)).symm
    | false => rfl
  simp only [field?, ofField, hjoin, hattributes]

end Draft

/-- A field is given back. -/
theorem givesBack_reader (field : Field) : GivesBack reader field.toJson field := by
  obtain ⟨ts, hyields, hread⟩ := (Draft.steps_ofField field).members_eq
  refine ⟨_, hyields, fun rest => ?_⟩
  simp only [List.cons_append, reader, hread, bind, Except.bind, Draft.field?_ofField]

end Field

/-! ## Whole texts -/

/-- **JSON text reads back.** The text that a field is written as reads as that field, attributes in
their order, which is written as the same text again; the text of a submission or of a catalog reads
as the same texts by name, in their order. -/
theorem compact_reads_back :
    (∀ field : Field, ∃ again, Field.ofJsonText field.toJson.compact = .ok again ∧
      again = field ∧ again.toJson.compact = field.toJson.compact) ∧
    (∀ data : OrderedMap String,
      Json.Reader.run Json.Reader.texts (Json.ofTexts data).compact = .ok data) ∧
    ∀ catalog : Catalog,
      Json.Reader.run Json.Reader.texts (Json.ofTexts catalog).compact = .ok catalog := by
  have htexts : ∀ m : OrderedMap String,
      Json.Reader.run Json.Reader.texts (Json.ofTexts m).compact = .ok m :=
    fun m => (Json.Reader.givesBack_texts m).run_eq
  exact ⟨fun field => ⟨field, (Field.givesBack_reader field).run_eq, rfl, rfl⟩, htexts, htexts⟩

/-- An empty label is not a label that is left out, and a text may hold any character. -/
example :
    ({ Field.ofName "a\"\x01" with givenLabel := some "" } : Field).toJson.compact =
      "\x7b\"name\":\"a\\\"\\u0001\",\"label\":\"\"\x7d" := by decide +kernel

end WebForm
