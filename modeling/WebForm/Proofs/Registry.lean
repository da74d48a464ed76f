import Mathlib.Data.List.Nodup
import WebForm.Registry

/-!
# Registries that hold the built-in rules

Most forms are validated by a registry that started with the built-in rules and was given a few
more. What such a registry says about a built-in rule is what the rule says, whatever else it holds.

Results:
* `HoldsBuiltins.execute_eq`: a built-in rule is known, and asked as it stands.
* `holdsBuiltins_builtin`: the registry of the built-in rules holds them.
* `HoldsBuiltins.register`: a rule of another name leaves them alone.
-/

namespace WebForm

theorem Builtin.mem_all (rule : Builtin) : rule ∈ Builtin.all := by
  cases rule <;> decide

theorem Builtin.nodup_names : (Builtin.all.map Builtin.name).Nodup := by decide

theorem Builtin.name_inj {b b' : Builtin} : b.name = b'.name ↔ b = b' :=
  ⟨List.inj_on_of_nodup_map nodup_names b.mem_all b'.mem_all, congrArg _⟩

namespace Registry

/-- Every built-in rule stands under its name. -/
def HoldsBuiltins (registry : Registry) : Prop :=
  ∀ rule : Builtin, registry.predicates.get? rule.name = some rule.accepts

variable {registry : Registry}

theorem HoldsBuiltins.execute_eq (h : registry.HoldsBuiltins) (rule : Builtin) (value : String)
    (argument : Option String) :
    registry.execute rule.name value argument = .ok (rule.accepts value argument) := by
  unfold execute
  rw [h rule]

theorem HoldsBuiltins.hasRule (h : registry.HoldsBuiltins) (rule : Builtin) :
    registry.hasRule rule.name = true := by
  rw [Registry.hasRule, OrderedMap.contains, h rule]
  rfl

theorem entries_predicates_builtin (messages : Catalog) :
    (builtin messages).predicates.entries =
      Builtin.all.map fun rule => (rule.name, rule.accepts) := by
  have hinsert : (builtin messages).predicates =
      OrderedMap.empty.insertAll (Builtin.all.map fun rule => (rule.name, rule.accepts)) := rfl
  rw [hinsert, OrderedMap.entries_insertAll_of_nodup]
  · rfl
  · rw [OrderedMap.keys_empty, List.nil_append, List.map_map]
    exact Builtin.nodup_names

/-- The registry of the built-in rules holds them. -/
theorem holdsBuiltins_builtin (messages : Catalog) : (builtin messages).HoldsBuiltins := by
  intro rule
  rw [← OrderedMap.mem_entries_iff, entries_predicates_builtin]
  exact List.mem_map_of_mem rule.mem_all

/-- A rule of another name leaves the built-in rules alone. -/
theorem HoldsBuiltins.register (h : registry.HoldsBuiltins) {name : String}
    (hname : ∀ rule : Builtin, rule.name ≠ name) (predicate : Predicate) :
    (registry.register name predicate).HoldsBuiltins := fun rule =>
  (registry.predicates.get?_insert_of_ne predicate (hname rule)).trans (h rule)

end Registry

end WebForm
