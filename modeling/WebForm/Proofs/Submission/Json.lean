import Mathlib.Data.List.Forall2
import WebForm.Proofs.Json.Spelling
import WebForm.Proofs.Text.ByteOrder
import WebForm.Proofs.Validation.Composition
import WebForm.Submission

/-!
# Submissions as JSON, read in one step or in two

A submission can be read from JSON text as a map of texts, or as a value that is turned into a
submission afterwards. Here the two are compared on the objects whose members are strings, however
these are spelled, in any order and with any repetitions.

The first reader keeps a key where it stands first. The second sorts the keys by their bytes. Both
keep the last text of a key, and both refuse an object with a literal that stands for no string: the
escape of a surrogate without its partner. What a submission is valid for does not depend on the
order of its keys, so a form judges both alike.

* `StandsForPair`: the literals of a member stand for a key and a value.
* `readPairs?`: the keys and values of an object, in the order of the text.

Results:
* `readPairs?_eq_some_iff`: an object is read as what its literals stand for.
* `parse?_of_spells`, `run_texts_of_spells`: what each reader makes of the keys and values.
* `entries_perm`, `keys_sorted`: in two steps the keys are sorted, with the same texts.
* `readers_agree`: the two ways to read a submission.
-/

namespace WebForm

namespace Json

/-! ## Literals and the strings they stand for -/

/-- The literals of a member stand for a key and a value. -/
def StandsForPair (literals : MemberLiterals) (pair : String × String) : Prop :=
  StandsFor literals.1 pair.1.toList ∧ StandsFor literals.2 pair.2.toList

/-- The strings that the literals of members are read as, if each is read as one. -/
def readPairs? : List MemberLiterals → Option (List (String × String))
  | [] => some []
  | (k, v) :: members => do
    let key ← text? k
    let value ← text? v
    let pairs ← readPairs? members
    pure ((key, value) :: pairs)

/-- A literal of a text is spelled in it. -/
theorem exists_spellsPieces {cs : List Char} {ts : List Token} (h : SpellsTokens cs ts)
    {pieces : List Piece} (hmem : .string pieces ∈ ts) : ∃ literal, SpellsPieces literal pieces := by
  induction h with
  | nil => exact absurd hmem List.not_mem_nil
  | cons _ htoken _ ih =>
    rcases List.mem_cons.mp hmem with rfl | hmem
    · cases htoken with
      | mark h => simp [marks] at h
      | literal h => exact ⟨_, h⟩
    · exact ih hmem

/-- The two literals of a member can be spelled. -/
def Spelled (literals : MemberLiterals) : Prop :=
  (∃ cs, SpellsPieces cs literals.1) ∧ ∃ cs, SpellsPieces cs literals.2

theorem spelled_of_mem {text : String} {members : List MemberLiterals}
    (h : SpellsObject text members) {m : MemberLiterals} (hm : m ∈ members) :
    Spelled m := by
  have hliteral : ∀ pieces, .string pieces ∈ memberTokens (stringMember m) →
      ∃ cs, SpellsPieces cs pieces := fun pieces hp =>
    exists_spellsPieces h (List.mem_cons_of_mem _ (List.mem_append_left _
      (mem_bodyTokens hp (List.mem_map_of_mem hm))))
  exact ⟨hliteral m.1 (by simp [memberTokens, stringMember]),
    hliteral m.2 (by simp [memberTokens, stringMember])⟩

/-- **Literals are read as the strings that they stand for**, and as no others. -/
theorem readPairs?_eq_some_iff : ∀ {members : List MemberLiterals},
    (∀ m ∈ members, Spelled m) → ∀ pairs : List (String × String),
      readPairs? members = some pairs ↔ List.Forall₂ StandsForPair members pairs
  | [], _, pairs => by simp [readPairs?, eq_comm]
  | (k, v) :: members, h, pairs => by
    obtain ⟨⟨_, hkey⟩, _, hvalue⟩ := h _ List.mem_cons_self
    have hrest := readPairs?_eq_some_iff fun m hm => h m (List.mem_cons_of_mem _ hm)
    simp only [readPairs?, bind, pure, Option.bind_eq_some_iff, Option.some.injEq, hrest,
      List.forall₂_cons_left_iff, StandsForPair, standsFor_iff hkey, standsFor_iff hvalue,
      Prod.exists]
    constructor
    · rintro ⟨key, hk, value, hv, rest, hrest, rfl⟩
      exact ⟨key, value, rest, ⟨hk, hv⟩, hrest, rfl⟩
    · rintro ⟨key, value, rest, ⟨hk, hv⟩, hrest, rfl⟩
      exact ⟨key, hk, value, hv, rest, hrest, rfl⟩

/-! ## In two steps -/

/-- A member of a tree whose value is a string. -/
def treeMember (literals : MemberLiterals) : List Piece × Document :=
  (literals.1, .string literals.2)

/-- What the reader of trees makes of a member. -/
def takeTree (before : List (List Piece × Document)) (literals : MemberLiterals) :
    Except Fault (List (List Piece × Document)) := .ok (before ++ [treeMember literals])

/-- Members are put behind each other, whatever their literals stand for. -/
theorem foldlM_takeTree : ∀ (members : List MemberLiterals)
    (before : List (List Piece × Document)),
    members.foldlM takeTree before = .ok (before ++ members.map treeMember)
  | [], before => by rw [List.map_nil, List.append_nil]; rfl
  | m :: members, before => by
    show members.foldlM takeTree (before ++ [treeMember m]) = _
    rw [foldlM_takeTree members, List.append_assoc]
    rfl

/-- An object of strings is read as its tree. -/
theorem read_strings (depth : Nat) (members : List MemberLiterals) (rest : List Token) :
    Document.read (depth + 1)
        (.openBrace :: (bodyTokens (members.map stringMember) ++ .closeBrace :: rest)) =
      .ok (.object (members.map treeMember), rest) := by
  have hread : ∀ pieces ts, Document.read depth (.string pieces :: ts) = .ok (.string pieces, ts) :=
    fun pieces ts => by cases depth <;> rfl
  rw [Document.read, @Reader.members_strings _ _ takeTree ?_, foldlM_takeTree]
  · rfl
  · intro s m ts
    simp only [Reader.colon, hread, takeTree, treeMember, bind, Except.bind, Except.map]

theorem memberValues?_strings : ∀ (members : List MemberLiterals) (m : OrderedMap Json),
    Document.memberValues? (members.map treeMember) m =
      (readPairs? members).map fun pairs =>
        m.insertAll (pairs.map fun pair => (pair.1, .string pair.2))
  | [], m => rfl
  | (k, v) :: members, m => by
    rw [List.map_cons, treeMember, Document.memberValues?, readPairs?]
    cases text? k with
    | none => rfl
    | some key =>
      rw [Document.value?]
      cases text? v with
      | none => rfl
      | some value =>
        show Document.memberValues? _ (m.insert key (.string value)) = _
        rw [memberValues?_strings members]
        cases readPairs? members <;> rfl

/-- The object of texts, its keys sorted. -/
def sortedObject (data : OrderedMap String) : Json :=
  .object (Document.sortMembers (data.mapValues .string))

/-- **The value of an object of strings.** -/
theorem parse?_of_spells {text : String} {members : List MemberLiterals}
    (h : SpellsObject text members) :
    parse? text = (readPairs? members).map fun pairs => sortedObject (.ofList pairs) := by
  have hrun : Reader.run (Document.read depthLimit) text =
      .ok (.object (members.map treeMember)) := by
    rw [Reader.run, tokens_of_spells h, depthLimit, read_strings]
    rfl
  rw [parse?, hrun]
  simp only [Document.value?, memberValues?_strings, Option.map_map]
  refine congrArg (Option.map · _) (funext fun pairs => ?_)
  rw [sortedObject, ← OrderedMap.ofList_map]
  rfl

/-! ## In one step -/

/-- What the reader of texts makes of a member. -/
def takeText (m : OrderedMap String) (literals : MemberLiterals) :
    Except Fault (OrderedMap String) := do
  let key ← Reader.decode literals.1
  let value ← Reader.decode literals.2
  .ok (m.insert key value)

theorem foldlM_takeText : ∀ (members : List MemberLiterals) (m : OrderedMap String),
    members.foldlM takeText m =
      match readPairs? members with
      | some pairs => .ok (m.insertAll pairs)
      | none => .error .malformed
  | [], m => rfl
  | (k, v) :: members, m => by
    rw [List.foldlM_cons, takeText, readPairs?]
    simp only [Reader.decode]
    cases text? k with
    | none => rfl
    | some key =>
      cases text? v with
      | none => rfl
      | some value =>
        show List.foldlM takeText (m.insert key value) members = _
        rw [foldlM_takeText members]
        cases readPairs? members <;> rfl

/-- **The texts of an object of strings.** -/
theorem run_texts_of_spells {text : String} {members : List MemberLiterals}
    (h : SpellsObject text members) :
    Reader.run Reader.texts text =
      match readPairs? members with
      | some pairs => .ok (.ofList pairs)
      | none => .error .malformed := by
  have hstep : ∀ s m ts, Reader.textMember s m.1 (.colon :: .string m.2 :: ts) =
      (takeText s m).map (·, ts) := fun s m ts => by
    simp only [Reader.textMember, takeText, Reader.colon, Reader.text, bind, Except.bind]
    cases Reader.decode m.1 with
    | error e => rfl
    | ok key => cases Reader.decode m.2 <;> rfl
  rw [Reader.run, tokens_of_spells h, Reader.texts, Reader.members_strings hstep, foldlM_takeText]
  cases readPairs? members <;> rfl

end Json

namespace Submission

open Json

/-! ## The order of the keys -/

/-- The key of the first entry is not after the key of the second. -/
def byKey (a b : String × String) : Bool := decide (a.1 ≤ b.1)

theorem byKey_trans (a b c : String × String) (hab : byKey a b = true) (hbc : byKey b c = true) :
    byKey a c = true :=
  decide_eq_true (le_trans (of_decide_eq_true hab) (of_decide_eq_true hbc))

theorem byKey_total (a b : String × String) : (byKey a b || byKey b a) = true := by
  simpa [byKey] using le_total a.1 b.1

/-- In two steps the same texts come out, sorted by their keys. -/
theorem entries_ofJson_sortedObject (data : OrderedMap String) :
    (ofJson (sortedObject data)).entries = data.entries.mergeSort byKey := by
  have hsort : Document.sortMembers (data.mapValues .string) =
      (data.entries.mergeSort byKey).map fun e => (e.1, .string e.2) :=
    (List.map_mergeSort (r := byKey) (f := fun e => (e.1, Json.string e.2))
      fun _ _ _ _ => rfl).symm
  have htexts : ((data.entries.mergeSort byKey).map fun e => (e.1, Json.string e.2)).map
      (fun e => (e.1, textOf e.2)) = data.entries.mergeSort byKey := by
    rw [List.map_map]
    exact List.map_id _
  rw [sortedObject, ofJson, hsort, htexts]
  refine OrderedMap.entries_insertAll_of_nodup _ _ ?_
  rw [OrderedMap.keys_empty, List.nil_append]
  exact ((List.mergeSort_perm _ _).map Prod.fst).nodup_iff.mpr data.nodup_keys

theorem entries_perm (data : OrderedMap String) :
    (ofJson (sortedObject data)).entries.Perm data.entries := by
  rw [entries_ofJson_sortedObject]
  exact List.mergeSort_perm _ _

/-- In two steps the keys come out in the order of their bytes. -/
theorem keys_sorted (data : OrderedMap String) :
    (ofJson (sortedObject data)).keys.Pairwise fun a b =>
      Text.Utf8.encodeString a < Text.Utf8.encodeString b := by
  have hle : (ofJson (sortedObject data)).keys.Pairwise (· ≤ ·) := by
    rw [OrderedMap.keys, entries_ofJson_sortedObject, List.pairwise_map]
    exact (List.pairwise_mergeSort byKey_trans byKey_total data.entries).imp fun h => of_decide_eq_true h
  have hne : (ofJson (sortedObject data)).keys.Pairwise (· ≠ ·) := OrderedMap.nodup _
  exact (hle.and hne).imp fun h => Text.Utf8.encodeString_lt (lt_of_le_of_ne h.1 h.2)

/-! ## Both ways -/

/-- **The two ways to read a submission agree** on every object whose members are strings. When its
literals stand for keys and values, both ways give every key the last of its values, one with the
keys in the order of their bytes and the other in the order in which they come first, and every form
judges both alike, to the messages and the order of the valid data. When a literal stands for no
string, both ways refuse the text. -/
theorem readers_agree {text : String} {members : List MemberLiterals}
    (hspell : SpellsObject text members) :
    (∀ pairs, List.Forall₂ StandsForPair members pairs →
      ∃ value data, parse? text = some value ∧ Reader.run Reader.texts text = .ok data ∧
        (∀ key, (ofJson value).get? key = pairs.reverse.lookup key) ∧
        (∀ key, data.get? key = pairs.reverse.lookup key) ∧
        (∀ key, key ∈ (ofJson value).keys ↔ key ∈ data.keys) ∧
        ((ofJson value).keys.Pairwise fun a b =>
          Text.Utf8.encodeString a < Text.Utf8.encodeString b) ∧
        data.keys = (pairs.map Prod.fst).eraseDups ∧
        ∀ form registry,
          validate form (ofJson value) registry = validate form data registry) ∧
    ((¬ ∃ pairs, List.Forall₂ StandsForPair members pairs) →
      parse? text = none ∧ Reader.run Reader.texts text = .error .malformed) := by
  have hpairs := readPairs?_eq_some_iff fun m hm => spelled_of_mem hspell hm
  have hparse := parse?_of_spells hspell
  have hrun := run_texts_of_spells hspell
  constructor
  · intro pairs hstands
    rw [(hpairs pairs).mpr hstands] at hparse hrun
    have hperm := entries_perm (.ofList pairs)
    have hget := OrderedMap.get?_eq_of_perm hperm
    refine ⟨_, _, hparse, hrun, fun key => ?_, OrderedMap.get?_ofList pairs,
      fun key => (hperm.map Prod.fst).mem_iff, keys_sorted _, OrderedMap.keys_ofList pairs,
      fun form registry => validate_congr (fun field _ _ => hget field.name) registry⟩
    rw [hget, OrderedMap.get?_ofList]
  · intro hnone
    have hread : readPairs? members = none :=
      Option.eq_none_iff_forall_ne_some.mpr fun pairs h => hnone ⟨pairs, (hpairs pairs).mp h⟩
    rw [hread] at hparse hrun
    exact ⟨hparse, hrun⟩

/-- An object with white space, escapes, a repeated key and a character of two units. -/
def scrambled : String :=
  "\x7b \"b\" : \"1\",\n\"\\u0061\":\"x\\n\",\t\"b\":\"\\ud83d\\uDE00\" \x7d\r\n"

/-- The literals of `scrambled`. -/
def scrambledMembers : List MemberLiterals :=
  [([.char 'b'], [.char '1']), ([.unit 0x61], [.char 'x', .char '\n']),
    ([.char 'b'], [.unit 0xD83D, .unit 0xDE00])]

/-- An object with the first unit of a pair alone. -/
def unpaired : String := "\x7b\"a\":\"\\ud800\"\x7d"

/-- The literals of `unpaired`. -/
def unpairedMembers : List MemberLiterals := [([.char 'a'], [.unit 0xD800])]

theorem spellsObject_unpaired : SpellsObject unpaired unpairedMembers := by decide +kernel

theorem readPairs?_unpaired : readPairs? unpairedMembers = none := by decide +kernel

theorem readers_agree_scrambled :
    SpellsObject scrambled scrambledMembers ∧
    (∃ value data, parse? scrambled = some value ∧ Reader.run Reader.texts scrambled = .ok data ∧
      (ofJson value).get? "b" = some "😀" ∧ data.get? "b" = some "😀" ∧
      (ofJson value).get? "a" = some "x\n" ∧ data.keys = ["b", "a"] ∧
      ∀ form registry, validate form (ofJson value) registry = validate form data registry) ∧
    SpellsObject unpaired unpairedMembers ∧ parse? unpaired = none ∧
      Reader.run Reader.texts unpaired = .error .malformed := by
  have hspell : SpellsObject scrambled scrambledMembers := by decide +kernel
  have hpairs : List.Forall₂ StandsForPair scrambledMembers [("b", "1"), ("a", "x\n"), ("b", "😀")] :=
    (readPairs?_eq_some_iff (fun _ hm => spelled_of_mem hspell hm) _).mp (by decide +kernel)
  have hnone : ¬ ∃ pairs, List.Forall₂ StandsForPair unpairedMembers pairs := by
    rintro ⟨pairs, hpairs⟩
    rw [← readPairs?_eq_some_iff fun _ hm => spelled_of_mem spellsObject_unpaired hm,
      readPairs?_unpaired] at hpairs
    exact absurd hpairs (by simp)
  obtain ⟨value, data, hvalue, hdata, hget, hget', -, -, hkeys, hjudged⟩ :=
    (readers_agree hspell).1 _ hpairs
  exact ⟨hspell, ⟨value, data, hvalue, hdata, hget "b", hget' "b", hget "a", hkeys, hjudged⟩,
    spellsObject_unpaired, (readers_agree spellsObject_unpaired).2 hnone⟩

/-- Not every object of strings is read: a surrogate without its partner stands for no character. -/
theorem not_all_objects_read :
    ¬ ∀ text members, SpellsObject text members →
      ∃ value data, parse? text = some value ∧ Reader.run Reader.texts text = .ok data := by
  intro h
  obtain ⟨value, _, hvalue, -⟩ := h unpaired unpairedMembers spellsObject_unpaired
  rw [parse?_of_spells spellsObject_unpaired, readPairs?_unpaired] at hvalue
  exact absurd hvalue (by simp)

end Submission

end WebForm
