import WebForm.Proofs.Html.TagReader

/-!
# Forms read back from their HTML

What a form is written as can be read by the grammar of tags, and gives the form back: one `form`
tag, one `input` tag for each field, the end tag, each tag with the attributes whose names are
acceptable, in their order and with their values. Nothing that stands in a name, a label, a rule or
a value can add a tag or an attribute, take one away, or change one.

* `tagPieces` are the tags of a form. They do not depend on how the form is laid out.
* `pagePieces` are the same tags with the line ends of a layout between them.

Results:
* `readOn_inputs`, `readOn_markup`: the inputs and the whole form, from any place between tags.
* `readTags_page`: the texts that are written read back as these pieces, in every layout.
-/

namespace WebForm.Html

/-! ## What a form should read back as -/

/-- The `input` tag of a field. -/
def inputPiece (constraints : Bool) (field : Field) : Piece :=
  .start "input" (writtenAttributes (inputAttributes field constraints))

/-- The tags of a form. -/
def tagPieces (form : Form) (constraints : Bool) : List Piece :=
  .start "form" (writtenAttributes form.attributes) ::
    (form.toList.map (inputPiece constraints) ++ [.finish "form"])

/-- The line end before and behind the inputs, in a layout that spreads them. A form without fields
has none. -/
def layoutPieces (form : Form) (layout : Layout) : List Piece :=
  if layout.spread = true ∧ form.toList ≠ [] then [.newline] else []

/-- The tags of a form and the line ends between them. -/
def pagePieces (form : Form) (layout : Layout) : List Piece :=
  .start "form" (writtenAttributes form.attributes) ::
    (layoutPieces form layout ++ form.toList.map (inputPiece layout.constraints) ++
      layoutPieces form layout ++ [.finish "form"])

/-- The tags of a text, without the line ends between them. -/
def readTagsOnly (text : String) : Option (List Piece) :=
  (readTags text).map fun pieces => pieces.filter (· ≠ .newline)

theorem filter_layoutPieces (form : Form) (layout : Layout) :
    (layoutPieces form layout).filter (· ≠ .newline) = [] := by
  unfold layoutPieces
  split <;> rfl

theorem filter_map_inputPiece (constraints : Bool) (fields : List Field) :
    (fields.map (inputPiece constraints)).filter (· ≠ .newline) =
      fields.map (inputPiece constraints) := by
  rw [List.filter_eq_self]
  intro piece hp
  obtain ⟨field, -, rfl⟩ := List.mem_map.mp hp
  rfl

/-- Without its line ends, a page is the tags of its form. -/
theorem filter_pagePieces (form : Form) (layout : Layout) :
    (pagePieces form layout).filter (· ≠ .newline) = tagPieces form layout.constraints := by
  unfold pagePieces tagPieces
  rw [List.filter_cons_of_pos (by simp), List.filter_append, List.filter_append,
    List.filter_append, filter_layoutPieces, filter_map_inputPiece, List.nil_append,
    List.append_nil]
  rfl

/-! ## Reading part after part -/

theorem isName_form : IsName "form".toList :=
  isName_of_isAttributeName (show isAttributeName "form" = true by decide)

theorem isName_input : IsName "input".toList :=
  isName_of_isAttributeName (show isAttributeName "input" = true by decide)

/-- Between tags, reading on after a part that leaves the reader between tags. -/
theorem readOn_append {pieces pieces' : List Piece} {cs : List Char}
    (h : readOn pieces cs = ⟨.between, pieces'⟩) (rest : List Char) :
    readOn pieces (cs ++ rest) = readOn pieces' rest := by
  unfold readOn at h ⊢
  rw [List.foldl_append, h]

/-- The inputs of fields. -/
theorem readOn_inputs (constraints : Bool) : ∀ (fields : List Field) (pieces : List Piece),
    readOn pieces (fields.flatMap fun field =>
        startTag "input" (inputAttributes field constraints)) =
      ⟨.between, (fields.map (inputPiece constraints)).reverse ++ pieces⟩
  | [], _ => rfl
  | field :: fields, pieces => by
    rw [List.flatMap_cons, readOn_append (readOn_startTag isName_input _ pieces),
      readOn_inputs constraints fields, List.map_cons, List.reverse_cons, List.append_assoc]
    rfl

/-- The inputs of a form are nothing iff it has no fields. -/
theorem inputs_eq_nil_iff (form : Form) (constraints : Bool) :
    inputs form constraints = [] ↔ form.toList = [] := by
  unfold inputs
  rw [List.flatMap_eq_nil_iff, List.eq_nil_iff_forall_not_mem]
  exact forall₂_congr fun field _ => by simp [startTag]

/-- The line end of a layout. -/
theorem readOn_newline (form : Form) (layout : Layout) (pieces : List Piece) :
    readOn pieces
        (if layout.spread && !(inputs form layout.constraints).isEmpty then ['\n'] else []) =
      ⟨.between, layoutPieces form layout ++ pieces⟩ := by
  have hiff : (layout.spread && !(inputs form layout.constraints).isEmpty) = true ↔
      layout.spread = true ∧ form.toList ≠ [] := by
    rw [Bool.and_eq_true, Bool.not_eq_true', List.isEmpty_eq_false_iff, Ne, inputs_eq_nil_iff]
  unfold layoutPieces
  by_cases h : layout.spread = true ∧ form.toList ≠ []
  · rw [if_pos (hiff.mpr h), if_pos h]
    rfl
  · rw [if_neg (mt hiff.mp h), if_neg h]
    rfl

/-- The end tag of a form. -/
theorem readOn_finish (pieces : List Piece) :
    readOn pieces "</form>".toList = ⟨.between, .finish "form" :: pieces⟩ := by
  rfl

theorem reverse_layoutPieces (form : Form) (layout : Layout) :
    (layoutPieces form layout).reverse = layoutPieces form layout := by
  unfold layoutPieces
  split <;> rfl

/-- **A whole form**, from any place between tags. -/
theorem readOn_markup (form : Form) (layout : Layout) (pieces : List Piece) :
    readOn pieces (markup form layout) =
      ⟨.between, (pagePieces form layout).reverse ++ pieces⟩ := by
  unfold markup
  simp only [List.append_assoc]
  rw [readOn_append (readOn_startTag isName_form _ pieces),
    readOn_append (readOn_newline form layout _), inputs,
    readOn_append (readOn_inputs layout.constraints form.toList _), ← inputs,
    readOn_append (readOn_newline form layout _), readOn_finish]
  simp [pagePieces, reverse_layoutPieces]

/-- A text whose characters leave the reader between tags is read. -/
theorem readTags_ofList {cs : List Char} {pieces : List Piece}
    (h : readOn [] cs = ⟨.between, pieces⟩) :
    readTags (String.ofList cs) = some pieces.reverse := by
  unfold readTags
  rw [String.toList_ofList, h]

theorem readTags_page_eq (form : Form) (layout : Layout) :
    readTags (page form layout) = some (pagePieces form layout ++ [.newline]) := by
  have h : readOn [] (markup form layout ++ ['\n']) =
      ⟨.between, .newline :: (pagePieces form layout).reverse⟩ := by
    rw [readOn_append (readOn_markup form layout []), List.append_nil]
    rfl
  rw [page, readTags_ofList h, List.reverse_cons, List.reverse_reverse]

theorem readTags_snippet_eq (form : Form) :
    readTags (snippet form) = some (pagePieces form .minified) := by
  rw [snippet, readTags_ofList (readOn_markup form .minified []), List.append_nil,
    List.reverse_reverse]

/-- **A form reads back from its HTML.** A page reads back as the `form` tag, one `input` tag for
each field and the end tag, with the line ends of its layout and one at the end; a snippet as the
same without line ends. The tags alone are the same in every layout and in the snippet. -/
theorem readTags_page (form : Form) (layout : Layout) :
    readTags (page form layout) = some (pagePieces form layout ++ [.newline]) ∧
      readTags (snippet form) = some (tagPieces form false) ∧
      (∀ spread, readTagsOnly (page form ⟨spread, layout.constraints⟩) =
        some (tagPieces form layout.constraints)) ∧
      readTagsOnly (snippet form) = some (tagPieces form false) := by
  have hsnippet : pagePieces form .minified = tagPieces form false := by
    simp [pagePieces, tagPieces, layoutPieces, Layout.minified]
  refine ⟨readTags_page_eq form layout, ?_, fun spread => ?_, ?_⟩
  · rw [readTags_snippet_eq, hsnippet]
  · rw [readTagsOnly, readTags_page_eq, Option.map_some, List.filter_append, filter_pagePieces]
    simp
  · rw [readTagsOnly, readTags_snippet_eq, Option.map_some, filter_pagePieces]
    rfl

end WebForm.Html
