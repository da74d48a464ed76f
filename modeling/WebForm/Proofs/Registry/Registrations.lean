import WebForm.Proofs.Registry
import WebForm.Proofs.Text.ByteOrder

/-!
# Registries under any sequence of registrations

A registry starts empty or with the built-in rules, and is given more rules one after another. It
can be asked whether a rule is there, for the names of all rules, and to run a rule. These three
views are computed apart from each other; they agree after any registrations.

* `Origin` is how a registry starts, `registerAll` gives it rules in turn.
* `Serves` says which predicate a name stands for after that: the one that was registered last under
  it, or the built-in one.

Results:
* `get?_registerAll_eq_some_iff`: a registry holds the predicates that serve, each under its name.
* `hasRule_iff`, `mem_ruleNames_iff`, `execute_eq_ok_iff`: the three views, each by the predicates
  of the registry.
* `ruleNames_sorted`: the names are in the order of their bytes, each once.
* `views_agree`: the views after any registrations.
-/

namespace WebForm.Registry

/-- How a registry starts. -/
inductive Origin where
  | empty
  | builtin
  deriving DecidableEq, Repr

/-- The registry at its start. -/
def Origin.start (origin : Origin) (messages : Catalog) : Registry :=
  match origin with
  | empty => Registry.empty messages
  | builtin => Registry.builtin messages

/-- Register rules from left to right. -/
def registerAll (registry : Registry) (rules : List (String × Predicate)) : Registry :=
  rules.foldl (fun registry rule => registry.register rule.1 rule.2) registry

/-- The predicate that a name stands for: the one registered last under it; the built-in one, when
there is none and the registry started with the built-in rules. -/
inductive Serves (origin : Origin) (rules : List (String × Predicate)) (name : String)
    (predicate : Predicate) : Prop
  | registered (h : OrderedMap.IsLast rules name predicate)
  | builtin {rule : Builtin} (horigin : origin = .builtin) (hnew : name ∉ rules.map Prod.fst)
      (hname : rule.name = name) (hpredicate : rule.accepts = predicate)

variable {registry : Registry} {name : String}

/-! ## What a registry holds -/

theorem predicates_registerAll : ∀ (rules : List (String × Predicate)) (registry : Registry),
    (registry.registerAll rules).predicates = registry.predicates.insertAll rules
  | [], _ => rfl
  | rule :: rules, registry => predicates_registerAll rules (registry.register rule.1 rule.2)

/-- Registrations change no message. -/
theorem messages_registerAll : ∀ (rules : List (String × Predicate)) (registry : Registry),
    (registry.registerAll rules).messages = registry.messages
  | [], _ => rfl
  | rule :: rules, registry => messages_registerAll rules (registry.register rule.1 rule.2)

theorem messages_start (origin : Origin) (messages : Catalog) :
    (origin.start messages).messages = messages := by
  cases origin <;> rfl

theorem get?_start_eq_some_iff {origin : Origin} {messages : Catalog} {predicate : Predicate} :
    (origin.start messages).predicates.get? name = some predicate ↔
      origin = .builtin ∧ ∃ rule : Builtin, rule.name = name ∧ rule.accepts = predicate := by
  cases origin with
  | empty => simp [Origin.start, Registry.empty]
  | builtin =>
    rw [← OrderedMap.mem_entries_iff, Origin.start, entries_predicates_builtin, List.mem_map]
    simp only [Prod.mk.injEq, true_and]
    exact exists_congr fun rule => and_iff_right rule.mem_all

/-- A registry holds the predicates that serve. -/
theorem get?_registerAll_eq_some_iff {origin : Origin} {messages : Catalog}
    {rules : List (String × Predicate)} {predicate : Predicate} :
    ((origin.start messages).registerAll rules).predicates.get? name = some predicate ↔
      Serves origin rules name predicate := by
  rw [predicates_registerAll, OrderedMap.get?_insertAll_eq_some_iff, get?_start_eq_some_iff]
  constructor
  · rintro (h | ⟨hnew, horigin, rule, hname, hpredicate⟩)
    · exact .registered h
    · exact .builtin horigin hnew hname hpredicate
  · rintro (h | ⟨horigin, hnew, hname, hpredicate⟩)
    · exact Or.inl h
    · exact Or.inr ⟨hnew, horigin, _, hname, hpredicate⟩

/-! ## The views -/

theorem hasRule_iff : registry.hasRule name = true ↔ name ∈ registry.predicates.keys :=
  registry.predicates.contains_iff

theorem mem_ruleNames_iff : name ∈ registry.ruleNames ↔ name ∈ registry.predicates.keys :=
  (List.mergeSort_perm _ _).mem_iff

/-- A rule runs with the predicate that the registry holds. -/
theorem execute_of_get? {predicate : Predicate}
    (h : registry.predicates.get? name = some predicate) (value : String)
    (argument : Option String) :
    registry.execute name value argument = .ok (predicate value argument) := by
  unfold execute
  rw [h]

/-- A rule that the registry does not hold is reported by its name. -/
theorem execute_of_not_mem (h : name ∉ registry.predicates.keys) (value : String)
    (argument : Option String) : registry.execute name value argument = .error ⟨name⟩ := by
  unfold execute
  rw [registry.predicates.get?_eq_none_iff.mpr h]

/-- A rule runs exactly when the registry holds it. -/
theorem exists_execute_eq_ok_iff {value : String} {argument : Option String} :
    (∃ verdict, registry.execute name value argument = .ok verdict) ↔
      name ∈ registry.predicates.keys := by
  by_cases h : name ∈ registry.predicates.keys
  · obtain ⟨predicate, hpredicate⟩ := Option.ne_none_iff_exists'.mp
      (mt registry.predicates.get?_eq_none_iff.mp (not_not_intro h))
    exact iff_of_true ⟨_, execute_of_get? hpredicate value argument⟩ h
  · refine iff_of_false ?_ h
    rintro ⟨verdict, hverdict⟩
    rw [execute_of_not_mem h] at hverdict
    cases hverdict

/-- The names are in the order of their bytes, each once. -/
theorem ruleNames_sorted (registry : Registry) :
    registry.ruleNames.Pairwise fun a b =>
      Text.Utf8.encodeString a < Text.Utf8.encodeString b := by
  have hle : registry.ruleNames.Pairwise (· ≤ ·) := by
    have htrans : ∀ a b c : String, decide (a ≤ b) = true → decide (b ≤ c) = true →
        decide (a ≤ c) = true := fun a b c hab hbc =>
      decide_eq_true (le_trans (of_decide_eq_true hab) (of_decide_eq_true hbc))
    have htotal : ∀ a b : String, (decide (a ≤ b) || decide (b ≤ a)) = true := fun a b => by
      simpa using le_total a b
    exact (List.pairwise_mergeSort htrans htotal _).imp of_decide_eq_true
  have hne : registry.ruleNames.Pairwise (· ≠ ·) :=
    (List.mergeSort_perm _ _).symm.nodup registry.predicates.nodup
  exact (hle.and hne).imp fun h => Text.Utf8.encodeString_lt (lt_of_le_of_ne h.1 h.2)

/-- A registration leaves every other name alone. -/
theorem get?_register_of_ne (registry : Registry) {other : String} (h : other ≠ name)
    (predicate : Predicate) :
    (registry.register name predicate).predicates.get? other = registry.predicates.get? other :=
  registry.predicates.get?_insert_of_ne predicate h

/-- **The views of a registry agree.** After any registrations, from either start:
a rule is there exactly when its name is among the names, and exactly when it runs;
a name that a predicate serves runs that predicate, and any other is reported as not found;
one more registration changes nothing for any other name, and no message;
the messages are those of the start;
the names are in the order of their bytes, each once. -/
theorem views_agree (origin : Origin) (messages : Catalog) (rules : List (String × Predicate)) :
    let registry := (origin.start messages).registerAll rules
    (∀ name, (registry.hasRule name = true ↔ name ∈ registry.ruleNames) ∧
      ∀ value argument, registry.hasRule name = true ↔
        ∃ verdict, registry.execute name value argument = .ok verdict) ∧
    (∀ name value argument,
      (∀ predicate, Serves origin rules name predicate →
        registry.execute name value argument = .ok (predicate value argument)) ∧
      ((∀ predicate, ¬ Serves origin rules name predicate) →
        registry.execute name value argument = .error ⟨name⟩)) ∧
    (∀ name predicate,
      (∀ other, other ≠ name →
        (registry.register name predicate).hasRule other = registry.hasRule other ∧
        (other ∈ (registry.register name predicate).ruleNames ↔ other ∈ registry.ruleNames) ∧
        ∀ value argument, (registry.register name predicate).execute other value argument =
          registry.execute other value argument) ∧
      (registry.register name predicate).messages = registry.messages) ∧
    registry.messages = messages ∧
    registry.ruleNames.Pairwise fun a b =>
      Text.Utf8.encodeString a < Text.Utf8.encodeString b := by
  intro registry
  refine ⟨fun name => ⟨?_, fun value argument => ?_⟩, fun name value argument => ⟨?_, ?_⟩,
    fun name predicate => ⟨?_, rfl⟩, ?_, ruleNames_sorted registry⟩
  · rw [hasRule_iff, mem_ruleNames_iff]
  · rw [hasRule_iff, exists_execute_eq_ok_iff]
  · intro predicate hserves
    exact execute_of_get? (get?_registerAll_eq_some_iff.mpr hserves) value argument
  · intro hnone
    refine execute_of_not_mem ?_ value argument
    rw [← OrderedMap.get?_eq_none_iff, Option.eq_none_iff_forall_ne_some]
    exact fun predicate h => hnone predicate (get?_registerAll_eq_some_iff.mp h)
  · intro other hother
    have hget := get?_register_of_ne registry hother predicate
    have hhas : (registry.register name predicate).hasRule other = registry.hasRule other := by
      rw [hasRule, hasRule, OrderedMap.contains, OrderedMap.contains, hget]
    refine ⟨hhas, ?_, fun value argument => ?_⟩
    · rw [mem_ruleNames_iff, mem_ruleNames_iff, ← hasRule_iff, ← hasRule_iff, hhas]
    · rw [execute, execute, hget]
  · exact (messages_registerAll rules _).trans (messages_start origin messages)

/-- A built-in rule is replaced twice, and two names are added that are easily overlooked. -/
def replacedTwice : List (String × Predicate) :=
  [("required", fun _ _ => false), ("", fun value _ => value.isEmpty), ("é", fun _ _ => true),
    ("required", fun value _ => value == "x")]

theorem views_agree_replacedTwice :
    let registry := (Origin.builtin.start .empty).registerAll replacedTwice
    registry.execute "required" "x" none = .ok true ∧
      registry.execute "" "x" none = .ok false ∧
      registry.execute "ignore" "x" none = .ok true ∧
      registry.execute "Required" "x" none = .error ⟨"Required"⟩ ∧
      (registry.register "required" fun _ _ => false).execute "" "x" none = .ok false := by
  intro registry
  obtain ⟨-, hserves, hother, -⟩ := views_agree .builtin .empty replacedTwice
  have hempty : Serves .builtin replacedTwice "" fun value _ => value.isEmpty :=
    .registered ⟨[_], _, rfl, by decide⟩
  have hignore : Serves .builtin replacedTwice "ignore" Builtin.ignore.accepts :=
    .builtin rfl (by decide) rfl rfl
  refine ⟨?_, (hserves "" "x" none).1 _ hempty, (hserves "ignore" "x" none).1 _ hignore, ?_, ?_⟩
  · exact (hserves "required" "x" none).1 _ (.registered ⟨replacedTwice.take 3, [], rfl, by decide⟩)
  · refine (hserves "Required" "x" none).2 fun predicate h => ?_
    cases h with
    | registered h => exact absurd (OrderedMap.IsLast.mem h) (by decide)
    | @builtin rule _ _ hname => cases rule <;> exact absurd hname (by decide)
  · exact ((hother "required" _).1 "" (by decide)).2.2 "x" none |>.trans
      ((hserves "" "x" none).1 _ hempty)

end WebForm.Registry
