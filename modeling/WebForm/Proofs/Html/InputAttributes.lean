import WebForm.Proofs.Html.NativeConstraint

/-!
# The attributes of an input

The input of a field gets attributes from three layers: the name, the type and the label of the
field; the native constraints of its rules, when they are asked for; and the attributes that the
field is given of its own. A later layer overrides an earlier one in its place.

* `basics` is the first layer, `rulesFor` are the rules of the second.
* `Supplies` says which layer the value of an attribute comes from.

Results:
* `get?_ofRules_eq_some_iff`, `keys_ofRules`: the native constraints of a list of rules, each with
  its last value at its first place.
* `get?_inputAttributes`: the layers are asked from the last to the first.
* `keys_inputAttributes`: the names of the layers, one layer behind the other.
* `inputAttributes_merged`: names, values and order together.
-/

namespace WebForm

namespace NativeConstraint

/-- The attributes that a list of rules sets, one for each rule that sets one. -/
def namesOf (rules : List Rule) : List String :=
  rules.filterMap fun rule => (ofRule rule.name rule.argument).map Prod.fst

/-- An attribute of a list of rules stands where a rule first sets it. -/
theorem keys_ofRules (rules : List Rule) : (ofRules rules).keys = (namesOf rules).eraseDups := by
  rw [ofRules, OrderedMap.keys_ofList, List.map_filterMap, namesOf]

/-- An attribute of a list of rules has the value of the last rule that sets it. -/
theorem get?_ofRules_eq_some_iff {rules : List Rule} {constraint limit : String} :
    (ofRules rules).get? constraint = some limit ↔
      ∃ rule, IsSource rules constraint limit rule := by
  constructor
  · intro h
    exact exists_isSource ((ofRules rules).mem_entries_iff.mpr h)
  · rintro ⟨rule, hrule, before, after, rfl, hafter⟩
    rw [ofRules, OrderedMap.get?_ofList_eq_some_iff]
    refine ⟨before.filterMap fun rule => ofRule rule.name rule.argument,
      after.filterMap fun rule => ofRule rule.name rule.argument, by simp [hrule], fun hmem => ?_⟩
    obtain ⟨e, he, rfl⟩ := List.mem_map.mp hmem
    obtain ⟨later, hlater, hset⟩ := List.mem_filterMap.mp he
    exact hafter later hlater e.2 hset

/-- The attributes that rules can set are these five. -/
theorem mem_of_mem_namesOf {rules : List Rule} {constraint : String}
    (h : constraint ∈ namesOf rules) :
    constraint ∈ ["required", "minlength", "maxlength", "min", "max"] := by
  obtain ⟨rule, -, hrule⟩ := List.mem_filterMap.mp h
  obtain ⟨⟨_, limit⟩, hset, rfl⟩ := Option.map_eq_some_iff.mp hrule
  unfold ofRule at hset
  split at hset
  case h_1 =>
    obtain ⟨rfl, -⟩ := Prod.mk.inj (Option.some.inj hset)
    simp
  case h_6 => cases hset
  all_goals
    obtain ⟨rfl, -⟩ := eq_of_map_pair hset
    simp

end NativeConstraint

namespace Html

open NativeConstraint

/-! ## The layers -/

/-- What an input says of its field whatever the rules: its name, its type, and its label when it
has one. -/
def basics (field : Field) : List (String × String) :=
  [("name", field.name), ("type", field.inputType)] ++ field.label?.toList.map ("placeholder", ·)

/-- The rules that the input shows: those of the field, when they are asked for. -/
def rulesFor (field : Field) (constraints : Bool) : List Rule :=
  if constraints then field.rules?.getD [] else []

/-- The value of an attribute comes from the field's own attributes; from the last rule that sets
it, when the field has none of its own; from the name, the type or the label of the field, when no
rule sets it either. -/
inductive Supplies (field : Field) (constraints : Bool) (name value : String) : Prop
  | own (h : field.attributes.get? name = some value)
  | rule {rule : Rule} (hown : name ∉ field.attributes.keys)
      (h : IsSource (rulesFor field constraints) name value rule)
  | basic (hown : name ∉ field.attributes.keys)
      (hrules : name ∉ namesOf (rulesFor field constraints)) (h : (name, value) ∈ basics field)

theorem inputAttributes_eq (field : Field) (constraints : Bool) :
    inputAttributes field constraints =
      ((OrderedMap.ofList (basics field)).merge (ofRules (rulesFor field constraints))).merge
        field.attributes := by
  have hnative : (if constraints then (field.rules?.map ofRules).getD .empty else .empty) =
      ofRules (rulesFor field constraints) := by
    unfold rulesFor
    cases constraints with
    | false => rfl
    | true => cases field.rules? <;> rfl
  rw [← hnative]
  rfl

theorem nodup_map_fst_basics (field : Field) : ((basics field).map Prod.fst).Nodup := by
  unfold basics
  cases field.label? with
  | none => simp
  | some label => simp

theorem keys_ofList_basics (field : Field) :
    (OrderedMap.ofList (basics field)).keys = (basics field).map Prod.fst := by
  rw [OrderedMap.keys_ofList, OrderedMap.eraseDups_of_nodup (nodup_map_fst_basics field)]

theorem get?_ofList_basics {field : Field} {name value : String} :
    (OrderedMap.ofList (basics field)).get? name = some value ↔ (name, value) ∈ basics field := by
  have hentries : (OrderedMap.ofList (basics field)).entries = basics field :=
    OrderedMap.entries_insertAll_of_nodup _ _ (nodup_map_fst_basics field)
  rw [← OrderedMap.mem_entries_iff, hentries]

/-- No rule sets the name, the type or the label. -/
theorem not_mem_basics_of_mem_namesOf {field : Field} {rules : List Rule} {name : String}
    (h : name ∈ namesOf rules) : name ∉ (basics field).map Prod.fst := by
  intro hbasic
  have hname : name ∈ ["name", "type", "placeholder"] := by
    unfold basics at hbasic
    cases hlabel : field.label? with
    | none =>
      rw [hlabel] at hbasic
      simp only [List.mem_cons, List.map_cons, List.map_nil, List.append_nil, Option.toList_none,
        List.not_mem_nil, or_false] at hbasic ⊢
      exact hbasic.imp_right Or.inl
    | some label =>
      rw [hlabel] at hbasic
      exact hbasic
  have hrule := mem_of_mem_namesOf h
  simp only [List.mem_cons, List.not_mem_nil, or_false] at hname hrule
  rcases hname with rfl | rfl | rfl <;> revert hrule <;> decide

/-! ## The merge -/

/-- The layers are asked from the last to the first. -/
theorem get?_inputAttributes (field : Field) (constraints : Bool) (name : String) :
    (inputAttributes field constraints).get? name =
      (field.attributes.get? name).or
        (((ofRules (rulesFor field constraints)).get? name).or
          ((OrderedMap.ofList (basics field)).get? name)) := by
  rw [inputAttributes_eq, OrderedMap.get?_merge, OrderedMap.get?_merge]

/-- The names of one layer stand behind those of the layer before. -/
theorem keys_inputAttributes (field : Field) (constraints : Bool) :
    let front := (basics field).map Prod.fst ++ (namesOf (rulesFor field constraints)).eraseDups
    (inputAttributes field constraints).keys =
      front ++ field.attributes.keys.filter (· ∉ front) := by
  have hnew : (namesOf (rulesFor field constraints)).eraseDups.filter
      (· ∉ (basics field).map Prod.fst) = (namesOf (rulesFor field constraints)).eraseDups := by
    rw [List.filter_eq_self]
    intro name hname
    exact decide_eq_true (not_mem_basics_of_mem_namesOf (List.mem_eraseDups.mp hname))
  rw [inputAttributes_eq, OrderedMap.keys_merge, OrderedMap.keys_merge, keys_ofList_basics,
    keys_ofRules, hnew]

/-- What an attribute of an input is, and which layer says so. -/
theorem get?_inputAttributes_eq_some_iff {field : Field} {constraints : Bool}
    {name value : String} :
    (inputAttributes field constraints).get? name = some value ↔
      Supplies field constraints name value := by
  have hrules : (ofRules (rulesFor field constraints)).get? name = none ↔
      name ∉ namesOf (rulesFor field constraints) := by
    rw [OrderedMap.get?_eq_none_iff, keys_ofRules, List.mem_eraseDups]
  rw [get?_inputAttributes, Option.or_eq_some_iff, Option.or_eq_some_iff, hrules,
    OrderedMap.get?_eq_none_iff, get?_ofRules_eq_some_iff, get?_ofList_basics]
  constructor
  · rintro (h | ⟨hown, ⟨rule, h⟩ | ⟨hrules, h⟩⟩)
    · exact .own h
    · exact .rule hown h
    · exact .basic hown hrules h
  · rintro (h | ⟨hown, h⟩ | ⟨hown, hrules, h⟩)
    · exact Or.inl h
    · exact Or.inr ⟨hown, Or.inl ⟨_, h⟩⟩
    · exact Or.inr ⟨hown, Or.inr ⟨hrules, h⟩⟩

/-- An input has the attributes of its layers. -/
theorem mem_keys_inputAttributes {field : Field} {constraints : Bool} {name : String} :
    name ∈ (inputAttributes field constraints).keys ↔
      name ∈ field.attributes.keys ∨ name ∈ namesOf (rulesFor field constraints) ∨
        name ∈ (basics field).map Prod.fst := by
  rw [keys_inputAttributes]
  simp only [List.mem_append, List.mem_filter, List.mem_eraseDups, decide_eq_true_eq]
  tauto

/-- **Three layers, the last one first.** The attributes of an input
have distinct names;
have the values that the field's own attributes, the last rule that sets them, or the name, type and
label of the field supply, in this order;
are there when one of these supplies them;
stand in the order of name, type and label, then of the first rules that set them, then of the
field's own attributes that are not there yet: whatever overrides a value leaves it where it is. -/
theorem inputAttributes_merged (field : Field) (constraints : Bool) :
    let attributes := inputAttributes field constraints
    let ruled := namesOf (rulesFor field constraints)
    let front := (basics field).map Prod.fst ++ ruled.eraseDups
    attributes.keys.Nodup ∧
    (∀ name value, attributes.get? name = some value ↔ Supplies field constraints name value) ∧
    (∀ name, name ∈ attributes.keys ↔
      name ∈ field.attributes.keys ∨ name ∈ ruled ∨ name ∈ (basics field).map Prod.fst) ∧
    attributes.keys = front ++ field.attributes.keys.filter (· ∉ front) := by
  refine ⟨OrderedMap.nodup _, fun name value => ?_, fun name => ?_, ?_⟩
  · exact get?_inputAttributes_eq_some_iff
  · exact mem_keys_inputAttributes
  · exact keys_inputAttributes field constraints

/-- The limit of the first `minLength` is replaced by that of the last, and the limit of `lessThan`
by the field's own. -/
example : (inputAttributes ageField true).toList =
    [("name", "age"), ("type", "text"), ("minlength", "1"), ("required", ""), ("max", "59")] := by
  decide +kernel

end Html

end WebForm
