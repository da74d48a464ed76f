import Mathlib.Data.List.Basic
import WebForm.DomainName
import WebForm.Proofs.DomainName.Composition
import WebForm.Proofs.DomainName.Punycode

/-!
# The ASCII form of a domain name

A domain name is brought to its ASCII form label by label. The form is written in host-name letters
and dots, and it is its own ASCII form: a label that is written in Punycode is read back as the
label it was written for, and any other is kept.

* `IsNameText` says that a text is written in host-name letters and dots.
* `Fits` collects the conditions on the labels of a name taken together.

Results:
* `label?_ascii`: the ASCII form of a label is read as the same label.
* `mapName?_of_isNameText`: mapping and composing leave the characters of ASCII forms alone.
* `toAscii?_eq_some_iff`: the ASCII form in terms of the labels.
* `at_not_mem_of_toAscii?`: a name with `@` in it has no ASCII form.
* `isNameText_of_toAscii?`: an ASCII form is written in host-name letters and dots.
* `toAscii?_toAscii?`: an ASCII form is its own.
* `toAscii?_of_isPlain`: a name of plain labels is its own ASCII form.
-/

namespace WebForm.DomainName

/-! ## Characters -/

/-- A property of the ASCII characters, checked one by one. -/
theorem of_toNat_lt {P : Char → Prop} (h : ∀ n : Fin 0x80, P (Char.ofNat n)) {c : Char}
    (hc : c.toNat < 0x80) : P c := by
  have hn := h ⟨c.toNat, hc⟩
  rwa [Char.ofNat_toNat] at hn

theorem toNat_lt_of_isHostChar {c : Char} (h : isHostChar c = true) : c.toNat < 0x80 := by
  rw [isHostChar, Bool.or_eq_true, Bool.or_eq_true, beq_iff_eq] at h
  rcases h with (h | h) | rfl
  · have hle : c.val ≤ 'z'.val := of_decide_eq_true (Bool.and_eq_true_iff.mp h).2
    exact Nat.lt_of_le_of_lt (UInt32.le_iff_toNat_le.mp hle) (by decide)
  · have hle : c.val ≤ '9'.val := of_decide_eq_true (Bool.and_eq_true_iff.mp h).2
    exact Nat.lt_of_le_of_lt (UInt32.le_iff_toNat_le.mp hle) (by decide)
  · decide

theorem toLower_of_isHostChar {c : Char} (h : isHostChar c = true) : c.toLower = c :=
  of_toNat_lt (P := fun c => isHostChar c = true → c.toLower = c) (by decide +kernel)
    (toNat_lt_of_isHostChar h) h

theorem isHostChar_of_isDigit {c : Char} (h : Punycode.isDigit c = true) : isHostChar c = true := by
  rw [isHostChar, show (c.isLower || c.isDigit) = true from h, Bool.true_or]

theorem isNameChar_of_toNat_lt {c : Char} (h : c.toNat < 0x80) : isNameChar c = isHostChar c :=
  if_pos h

theorem dot_not_mem_of_isHostChar {label : List Char} (h : ∀ c ∈ label, isHostChar c = true) :
    '.' ∉ label := fun hmem =>
  absurd (h '.' hmem) (by decide)

/-- The text is written in host-name letters and dots. -/
def IsNameText (text : List Char) : Prop := ∀ c ∈ text, isHostChar c = true ∨ c = '.'

namespace IsNameText

variable {text : List Char}

theorem toNat_lt (h : IsNameText text) {c : Char} (hc : c ∈ text) : c.toNat < 0x80 := by
  rcases h c hc with hhost | rfl
  · exact toNat_lt_of_isHostChar hhost
  · decide

/-- A character that is neither a host-name letter nor a dot does not stand in the text. -/
theorem not_mem (h : IsNameText text) {c : Char} (hhost : isHostChar c = false) (hdot : c ≠ '.') :
    c ∉ text := by
  intro hc
  rcases h c hc with htrue | heq
  · rw [hhost] at htrue
    cases htrue
  · exact hdot heq

/-- Text put together from host-name letters, with dots in between. -/
theorem join {pieces : List (List Char)} (h : ∀ piece ∈ pieces, ∀ c ∈ piece, isHostChar c = true) :
    IsNameText (Text.join '.' pieces) := by
  intro c hc
  rcases Text.mem_join hc with hdot | ⟨piece, hpiece, hc⟩
  · exact Or.inr hdot
  · exact Or.inl (h piece hpiece c hc)

end IsNameText

/-! ## Lists of optional results -/

/-- All results of a list are there. -/
theorem mapM_eq_some_iff {α β : Type} {f : α → Option β} :
    ∀ {xs : List α} {ys : List β}, xs.mapM f = some ys ↔ xs.map f = ys.map some
  | [], ys => by
    rw [List.mapM_nil, List.map_nil]
    cases ys <;> simp
  | x :: xs, ys => by
    have ih : ∀ {ys : List β}, xs.mapM f = some ys ↔ xs.map f = ys.map some := mapM_eq_some_iff
    rw [List.mapM_cons, List.map_cons]
    cases ys with
    | nil => cases f x <;> cases xs.mapM f <;> simp
    | cons y ys =>
      rw [List.map_cons, List.cons.injEq, ← ih]
      cases f x <;> cases xs.mapM f <;> simp

/-! ## Mapping -/

/-- **Mapping and composing leave host-name letters and dots alone.** -/
theorem mapName?_of_isNameText {text : List Char} (h : IsNameText text) :
    mapName? text = some text := by
  have hmap : text.mapM mapChar? = some (text.map fun c => [c]) := by
    rw [mapM_eq_some_iff, List.map_map]
    refine List.map_congr_left fun c hc => ?_
    have hlower : c.toLower = c := by
      rcases h c hc with hhost | rfl
      · exact toLower_of_isHostChar hhost
      · decide
    rw [mapChar?, if_pos (h.toNat_lt hc), hlower, Function.comp_apply]
  have hascii : (text.all fun c => c.toNat < 0x80) = true :=
    List.all_eq_true.mpr fun c hc => decide_eq_true (h.toNat_lt hc)
  rw [mapName?, hmap, Option.map_some, ← List.flatMap_def, List.flatMap_singleton', compose,
    if_pos hascii]

/-- A character that is mapped to itself and stands alone is in the mapped name. -/
theorem mem_of_mapName? {name mapped : List Char} {c : Char} (h : mapName? name = some mapped)
    (halone : StandsAlone c) (hself : mapChar? c = some [c]) (hc : c ∈ name) : c ∈ mapped := by
  obtain ⟨parts, hparts, rfl⟩ := Option.map_eq_some_iff.mp h
  have hmem : some [c] ∈ parts.map some := by
    rw [← mapM_eq_some_iff.mp hparts, ← hself]
    exact List.mem_map_of_mem hc
  obtain ⟨part, hpart, heq⟩ := List.mem_map.mp hmem
  cases heq
  exact halone.mem_compose (List.mem_flatten.mpr ⟨[c], hpart, List.mem_singleton_self c⟩)

/-! ## Labels -/

theorem marked?_marker (rest : List Char) : marked? (marker ++ rest) = some rest := rfl

theorem all_isNameChar_of_isValid {label : List Char} (h : isValid label = true) :
    label.all isNameChar = true := by
  simp only [isValid, Bool.and_eq_true] at h
  exact h.1.1.1.1.2

/-- Every character of a written label is a host-name letter. -/
theorem isHostChar_of_mem_encode {label : List Char} (h : isValid label = true) {c : Char}
    (hc : c ∈ Punycode.encode label) : isHostChar c = true := by
  rcases Punycode.mem_encode hc with ⟨hmem, hlt⟩ | rfl | hdigit
  · rw [← isNameChar_of_toNat_lt hlt]
    exact List.all_eq_true.mp (all_isNameChar_of_isValid h) c hmem
  · decide
  · exact isHostChar_of_isDigit hdigit

/-- A label that is not all host-name letters has characters beyond ASCII. -/
theorem basicOf_ne_of_not_host {label : List Char} (h : isValid label = true)
    (hhost : label.all isHostChar = false) : Punycode.basicOf label ≠ label := by
  intro hbasic
  refine absurd (List.all_eq_true.mpr fun c hc => ?_) (Bool.eq_false_iff.mp hhost)
  have hlt : c.toNat < 0x80 := by
    rw [← hbasic, Punycode.basicOf, List.mem_filter] at hc
    exact of_decide_eq_true hc.2
  rw [← isNameChar_of_toNat_lt hlt]
  exact List.all_eq_true.mp (all_isNameChar_of_isValid h) c hc

theorem all_isHostChar_marker_encode {label : List Char} (h : isValid label = true) :
    (marker ++ Punycode.encode label).all isHostChar = true := by
  rw [List.all_append, Bool.and_eq_true]
  exact ⟨by decide, List.all_eq_true.mpr fun c hc => isHostChar_of_mem_encode h hc⟩

/-- A label in Punycode is read as the label that it is written for. -/
theorem label?_marker_encode {label : List Char} (h : isValid label = true)
    (hhost : label.all isHostChar = false) :
    label? (marker ++ Punycode.encode label) =
      some ⟨label, marker ++ Punycode.encode label⟩ := by
  have hlast : ((Punycode.encode label).getLast? != some '-') = true := by
    simpa using Punycode.getLast?_encode (basicOf_ne_of_not_host h hhost)
  rw [label?, marked?_marker]
  simp only [all_isHostChar_marker_encode h, hlast, Punycode.decode?_encode, h, hhost,
    Bool.and_self, Bool.not_false, if_true]

variable {label : List Char} {l : Label}

/-- The ways in which a label comes to its ASCII form: it is kept, in host-name letters, or it is
written in Punycode. -/
theorem label?_cases (h : label? label = some l) :
    (l.ascii = label ∧ label.all isHostChar = true) ∨
      (isValid label = true ∧ label.all isHostChar = false ∧
        l = ⟨label, marker ++ Punycode.encode label⟩) := by
  unfold label? at h
  split at h
  · rename_i rest hmarked
    split_ifs at h with hascii
    rw [Bool.and_eq_true] at hascii
    split at h
    · split_ifs at h with hvalid
      cases h
      exact Or.inl ⟨rfl, hascii.1⟩
    · cases h
  · split_ifs at h with hvalid hhost
    · cases h
      exact Or.inl ⟨rfl, hhost⟩
    · cases h
      exact Or.inr ⟨hvalid, Bool.eq_false_iff.mpr hhost, rfl⟩

theorem isNameChar_of_mem (h : label? label = some l) {c : Char} (hc : c ∈ label) :
    isNameChar c = true := by
  rcases label?_cases h with ⟨-, hhost⟩ | ⟨hvalid, -, -⟩
  · have htrue := List.all_eq_true.mp hhost c hc
    rw [isNameChar_of_toNat_lt (toNat_lt_of_isHostChar htrue), htrue]
  · exact List.all_eq_true.mp (all_isNameChar_of_isValid hvalid) c hc

/-- **The ASCII form of a label is read as the same label.** -/
theorem label?_ascii (h : label? label = some l) : label? l.ascii = some l := by
  rcases label?_cases h with ⟨hkept, -⟩ | ⟨hvalid, hhost, rfl⟩
  · rw [hkept, h]
  · exact label?_marker_encode hvalid hhost

theorem isHostChar_of_mem_ascii (h : label? label = some l) {c : Char} (hc : c ∈ l.ascii) :
    isHostChar c = true := by
  rcases label?_cases h with ⟨hkept, hhost⟩ | ⟨hvalid, -, rfl⟩
  · rw [hkept] at hc
    exact List.all_eq_true.mp hhost c hc
  · exact List.all_eq_true.mp (all_isHostChar_marker_encode hvalid) c hc

/-! ## Names -/

/-- The labels may stand together in one name: their directions agree, and neither a label nor the
name is too long. -/
def Fits (labels : List Label) : Prop :=
  ((labels.any fun l => l.text.any runsLeftward) = true →
    ∀ l ∈ labels, runsTogether l.text = true) ∧
  (∀ l ∈ labels, hasLabelLength l.ascii = true) ∧
  (Text.join '.' (labels.map (·.ascii))).length ≤ maxLength

/-- The ASCII form in terms of the labels of the name. -/
theorem toAscii?_eq_some_iff {name ascii : List Char} :
    toAscii? name = some ascii ↔ ∃ mapped labels, mapName? name = some mapped ∧
      (Text.split '.' mapped).map label? = labels.map some ∧ Fits labels ∧
      Text.join '.' (labels.map (·.ascii)) = ascii := by
  simp only [toAscii?, Option.bind_eq_bind, Option.bind_eq_some_iff, mapM_eq_some_iff,
    Option.ite_none_right_eq_some, Option.some.injEq]
  refine exists_congr fun mapped => ?_
  rw [exists_and_left]
  refine and_congr_right fun _ => exists_congr fun labels => and_congr_right fun _ => ?_
  refine and_congr_left fun _ => ?_
  simp only [Fits, Bool.and_eq_true, Bool.or_eq_true, Bool.not_eq_true', decide_eq_true_eq,
    List.all_eq_true]
  rw [or_iff_not_imp_left, Bool.not_eq_false, and_assoc]

section Labels

variable {pieces : List (List Char)} {labels : List Label}

theorem exists_label?_of_mem (h : pieces.map label? = labels.map some) (hl : l ∈ labels) :
    ∃ piece ∈ pieces, label? piece = some l :=
  List.mem_map.mp (h ▸ List.mem_map_of_mem hl)

/-- Labels of a mapped name are written in host-name letters, -/
theorem isHostChar_of_mem_written (h : pieces.map label? = labels.map some) :
    ∀ written ∈ labels.map (·.ascii), ∀ c ∈ written, isHostChar c = true := by
  intro written hwritten c hc
  obtain ⟨l, hl, rfl⟩ := List.mem_map.mp hwritten
  obtain ⟨piece, -, hpiece⟩ := exists_label?_of_mem h hl
  exact isHostChar_of_mem_ascii hpiece hc

/-- and are read as themselves. -/
theorem map_label?_written (h : pieces.map label? = labels.map some) :
    (labels.map (·.ascii)).map label? = labels.map some := by
  rw [List.map_map]
  refine List.map_congr_left fun l hl => ?_
  obtain ⟨piece, -, hpiece⟩ := exists_label?_of_mem h hl
  exact label?_ascii hpiece

end Labels

variable {name ascii : List Char}

/-- **A name with `@` in it has no ASCII form.** -/
theorem at_not_mem_of_toAscii? (h : toAscii? name = some ascii) : '@' ∉ name := by
  intro hat
  obtain ⟨mapped, labels, hmapped, hlabels, -, -⟩ := toAscii?_eq_some_iff.mp h
  have hmem : '@' ∈ mapped := mem_of_mapName? hmapped standsAlone_at (by decide) hat
  obtain ⟨piece, hpiece, hc⟩ := Text.exists_mem_split hmem (show '@' ≠ '.' by decide)
  have hlabel : label? piece ∈ labels.map some := hlabels ▸ List.mem_map_of_mem hpiece
  obtain ⟨l, -, hl⟩ := List.mem_map.mp hlabel
  exact absurd (isNameChar_of_mem hl.symm hc) (by decide)

/-- **An ASCII form is written in host-name letters and dots.** -/
theorem isNameText_of_toAscii? (h : toAscii? name = some ascii) : IsNameText ascii := by
  obtain ⟨mapped, labels, -, hlabels, -, rfl⟩ := toAscii?_eq_some_iff.mp h
  exact IsNameText.join (isHostChar_of_mem_written hlabels)

/-- **An ASCII form is its own.** -/
theorem toAscii?_toAscii? (h : toAscii? name = some ascii) : toAscii? ascii = some ascii := by
  have htext := isNameText_of_toAscii? h
  obtain ⟨mapped, labels, -, hlabels, hfits, hascii⟩ := toAscii?_eq_some_iff.mp h
  -- A name has a piece at least, so it has a label.
  have hne : labels.map (·.ascii) ≠ [] := by
    intro hnil
    have hlength := congrArg List.length hlabels
    rw [List.map_eq_nil_iff.mp hnil, List.length_map] at hlength
    exact Text.split_ne_nil '.' mapped (List.eq_nil_of_length_eq_zero hlength)
  have hsplit : Text.split '.' ascii = labels.map (·.ascii) := by
    rw [← hascii]
    exact Text.split_join hne fun written hwritten =>
      dot_not_mem_of_isHostChar (isHostChar_of_mem_written hlabels written hwritten)
  refine toAscii?_eq_some_iff.mpr ⟨ascii, labels, mapName?_of_isNameText htext, ?_, hfits, hascii⟩
  rw [hsplit]
  exact map_label?_written hlabels

/-- Names that are mapped alike have the same ASCII form. -/
theorem toAscii?_congr {other : List Char} (h : mapName? other = mapName? name) :
    toAscii? other = toAscii? name := by
  rw [toAscii?, toAscii?, h]

/-! ## Plain names -/

/-- The label is in host-name letters, has its hyphens in place and is neither empty nor too
long. -/
structure IsPlain (label : List Char) : Prop where
  host : ∀ c ∈ label, isHostChar c = true
  hyphens : hyphensInPlace label = true
  length : hasLabelLength label = true

theorem joinersInPlace_of_isHostChar {before label : List Char}
    (h : ∀ c ∈ label, isHostChar c = true) : joinersInPlace before label = true := by
  induction label generalizing before with
  | nil => rfl
  | cons c cs ih =>
    have hc := h c List.mem_cons_self
    have hjoiner : (c == nonJoiner || c == joiner) = false := by
      rw [Bool.or_eq_false_iff, beq_eq_false_iff_ne, beq_eq_false_iff_ne]
      refine ⟨?_, ?_⟩
      · rintro rfl
        exact absurd hc (by decide)
      · rintro rfl
        exact absurd hc (by decide)
    rw [joinersInPlace, hjoiner, if_neg Bool.false_ne_true, Bool.true_and]
    exact ih fun d hd => h d (List.mem_cons_of_mem _ hd)

theorem runsLeftward_of_isHostChar {c : Char} (h : isHostChar c = true) :
    runsLeftward c = false := by
  have hclass : Unicode.Bidi.of c = .en ∨ Unicode.Bidi.of c = .es ∨ Unicode.Bidi.of c = .cs ∨
      Unicode.Bidi.of c = .l := by
    rw [Unicode.Bidi.of, Unicode.value?_bidiClasses (toNat_lt_of_isHostChar h)]
    split_ifs
    · exact Or.inl rfl
    · exact Or.inr (Or.inl rfl)
    · exact Or.inr (Or.inr (Or.inl rfl))
    · exact Or.inr (Or.inr (Or.inr rfl))
  rw [runsLeftward]
  rcases hclass with h | h | h | h <;> rw [h]

namespace IsPlain

/-- The marker has hyphens where a plain label has none. -/
theorem marked?_eq_none (h : IsPlain label) : marked? label = none := by
  unfold marked?
  split
  · have := h.hyphens
    simp [hyphensInPlace] at this
  · rfl

theorem isValid (h : IsPlain label) : isValid label = true := by
  have hlt : ∀ c ∈ label, c.toNat < 0x80 := fun c hc => toNat_lt_of_isHostChar (h.host c hc)
  have hne : label ≠ [] := by
    rintro rfl
    exact absurd h.length (by decide)
  have hnames : label.all isNameChar = true :=
    List.all_eq_true.mpr fun c hc => by rw [isNameChar_of_toNat_lt (hlt c hc), h.host c hc]
  have hcompose : compose label = label :=
    if_pos (List.all_eq_true.mpr fun c hc => decide_eq_true (hlt c hc))
  have hmark : startsWithMark label = false := by
    obtain ⟨c, cs, rfl⟩ := List.exists_cons_of_ne_nil hne
    exact Unicode.contains_marks (hlt c List.mem_cons_self)
  rw [DomainName.isValid, hnames, hcompose, h.hyphens, hmark, joinersInPlace_of_isHostChar h.host,
    List.isEmpty_eq_false_iff.mpr hne]
  simp

theorem label?_eq (h : IsPlain label) : label? label = some ⟨label, label⟩ := by
  rw [label?, h.marked?_eq_none]
  simp only [h.isValid, List.all_eq_true.mpr h.host, if_true]

end IsPlain

/-- **A name of plain labels is its own ASCII form.** -/
theorem toAscii?_of_isPlain {labels : List (List Char)} (hne : labels ≠ [])
    (h : ∀ label ∈ labels, IsPlain label)
    (hlength : (Text.join '.' labels).length ≤ maxLength) :
    toAscii? (Text.join '.' labels) = some (Text.join '.' labels) := by
  have htext := IsNameText.join fun label hlabel => (h label hlabel).host
  have hsplit : Text.split '.' (Text.join '.' labels) = labels :=
    Text.split_join hne fun label hlabel => dot_not_mem_of_isHostChar (h label hlabel).host
  have hascii : (labels.map fun label => (⟨label, label⟩ : Label)).map (·.ascii) = labels := by
    rw [List.map_map]
    exact List.map_id labels
  refine toAscii?_eq_some_iff.mpr
    ⟨_, labels.map fun label => ⟨label, label⟩, mapName?_of_isNameText htext, ?_, ?_, by rw [hascii]⟩
  · rw [hsplit, List.map_map]
    exact List.map_congr_left fun label hlabel => (h label hlabel).label?_eq
  · refine ⟨fun hany => ?_, ?_, by rwa [hascii]⟩
    · obtain ⟨l, hl, hleft⟩ := List.any_eq_true.mp hany
      obtain ⟨label, hlabel, rfl⟩ := List.mem_map.mp hl
      obtain ⟨c, hc, hrun⟩ := List.any_eq_true.mp hleft
      rw [runsLeftward_of_isHostChar ((h label hlabel).host c hc)] at hrun
      cases hrun
    · intro l hl
      obtain ⟨label, hlabel, rfl⟩ := List.mem_map.mp hl
      exact (h label hlabel).length

end WebForm.DomainName
