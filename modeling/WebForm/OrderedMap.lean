/-!
# Maps that remember the order of insertion

`OrderedMap α` is a finite map from strings to `α` in which every key has a position: that of its
first insertion. Inserting a key again replaces its value and leaves it where it is. Form
attributes, submitted data, message templates and rename maps are all of this type, because their
order shows in whatever is printed from them.

Results:
* `keys_insert`, `get?_insert_self`, `get?_insert_of_ne`: what an insertion does to the order and to
  the values.
* `entries_insert_of_not_mem`: a new key goes to the end.
* `mem_entries_iff`: the entries are exactly the pairs that `get?` answers.
* `keys_ofList`, `get?_ofList_eq_some_iff`: pairs inserted from left to right leave each key at its
  first place with its last value.
* `ofList_entries`: the pairs of a map build it again.
* `keys_merge`, `get?_merge`: the order of an overlay, and what it answers.
* `map_keys_getD`: looking every key up gives the values.
-/

namespace WebForm

/-- Pairs in insertion order, no key twice. -/
structure OrderedMap (α : Type) where
  /-- The pairs, oldest key first. -/
  entries : List (String × α)
  /-- Every key has one position. -/
  nodup_keys : (entries.map Prod.fst).Nodup

namespace OrderedMap

variable {α : Type}

/-! ## Insertion into a list of pairs -/

/-- Give `key` the value `value`: in place when the key is there, at the end otherwise. -/
def put (key : String) (value : α) : List (String × α) → List (String × α)
  | [] => [(key, value)]
  | (k, v) :: rest =>
    if k = key then (key, value) :: rest else (k, v) :: put key value rest

theorem map_fst_put (key : String) (value : α) (l : List (String × α)) :
    (put key value l).map Prod.fst =
      if key ∈ l.map Prod.fst then l.map Prod.fst else l.map Prod.fst ++ [key] := by
  induction l with
  | nil => simp [put]
  | cons e rest ih =>
    obtain ⟨k, v⟩ := e
    by_cases h : k = key
    · simp [put, h]
    · have h' : ¬ key = k := fun e => h e.symm
      simp only [put, h, if_false, List.map_cons, ih, List.mem_cons, h', false_or]
      split <;> simp

theorem nodup_map_fst_put {l : List (String × α)} (h : (l.map Prod.fst).Nodup) (key : String)
    (value : α) : ((put key value l).map Prod.fst).Nodup := by
  rw [map_fst_put]
  split
  · exact h
  · rename_i hk
    rw [List.nodup_append]
    refine ⟨h, by simp, fun a ha b hb => ?_⟩
    simp only [List.mem_singleton] at hb
    subst hb
    exact fun e => hk (e ▸ ha)

theorem mem_put {key : String} {value : α} {l : List (String × α)} {e : String × α}
    (h : e ∈ put key value l) : e = (key, value) ∨ e ∈ l := by
  induction l with
  | nil => exact Or.inl (List.mem_singleton.mp h)
  | cons first rest ih =>
    obtain ⟨k, v⟩ := first
    unfold put at h
    split at h
    · rcases List.mem_cons.mp h with h | h
      · exact Or.inl h
      · exact Or.inr (List.mem_cons_of_mem _ h)
    · rcases List.mem_cons.mp h with h | h
      · exact Or.inr (h ▸ List.mem_cons_self)
      · exact (ih h).imp id (List.mem_cons_of_mem _)

theorem put_of_not_mem {key : String} (value : α) {l : List (String × α)}
    (h : key ∉ l.map Prod.fst) : put key value l = l ++ [(key, value)] := by
  induction l with
  | nil => rfl
  | cons first rest ih =>
    obtain ⟨k, v⟩ := first
    simp only [List.map_cons, List.mem_cons, not_or] at h
    have hk : ¬ k = key := fun e => h.1 e.symm
    simp [put, hk, ih h.2]

theorem lookup_put (key k : String) (value : α) (l : List (String × α)) :
    (put key value l).lookup k = if k = key then some value else l.lookup k := by
  induction l with
  | nil =>
    by_cases h : k = key
    · simp [put, h]
    · simp [put, h, List.lookup_cons, beq_false_of_ne h]
  | cons e rest ih =>
    obtain ⟨k', v⟩ := e
    by_cases h : k' = key
    · subst h
      by_cases hk : k = k'
      · simp [put, hk]
      · simp [put, hk, List.lookup_cons, beq_false_of_ne hk]
    · simp only [put, h, if_false, List.lookup_cons, ih]
      by_cases hk : k = k'
      · subst hk
        simp [h]
      · simp [beq_false_of_ne hk]

theorem put_map {β : Type} (f : α → β) (key : String) (value : α) (l : List (String × α)) :
    put key (f value) (l.map fun e => (e.1, f e.2)) =
      (put key value l).map fun e => (e.1, f e.2) := by
  induction l with
  | nil => rfl
  | cons e rest ih =>
    obtain ⟨k, v⟩ := e
    by_cases h : k = key
    · simp [put, h]
    · simp [put, h, ih]

theorem lookup_eq_some_iff_mem {l : List (String × α)} (h : (l.map Prod.fst).Nodup) {k : String}
    {v : α} : l.lookup k = some v ↔ (k, v) ∈ l := by
  induction l with
  | nil => simp
  | cons e rest ih =>
    obtain ⟨k', v'⟩ := e
    simp only [List.map_cons, List.nodup_cons, List.mem_map, Prod.exists, exists_and_right,
      exists_eq_right, not_exists] at h
    by_cases hk : k = k'
    · subst hk
      simp only [List.lookup_cons, beq_self_eq_true, Option.some.injEq, List.mem_cons, Prod.mk.injEq,
        true_and]
      exact ⟨fun e => Or.inl e.symm, fun e => e.elim Eq.symm fun hm => absurd hm (h.1 v)⟩
    · simp only [List.lookup_cons, beq_false_of_ne hk, List.mem_cons, Prod.mk.injEq, hk, false_and,
        false_or]
      exact ih h.2

/-! ## The map -/

/-- No entries. -/
def empty : OrderedMap α := ⟨[], by simp⟩

instance : Inhabited (OrderedMap α) := ⟨empty⟩

/-- Two maps are equal when their entries are, order included. -/
@[ext] theorem ext {m n : OrderedMap α} (h : m.entries = n.entries) : m = n := by
  cases m
  cases n
  simp only at h
  subst h
  rfl

instance [DecidableEq α] : DecidableEq (OrderedMap α) := fun m n =>
  decidable_of_iff (m.entries = n.entries) ⟨ext, fun h => h ▸ rfl⟩

/-- The pairs, oldest key first. -/
def toList (m : OrderedMap α) : List (String × α) := m.entries

/-- The keys, oldest first. -/
def keys (m : OrderedMap α) : List String := m.entries.map Prod.fst

/-- The values, in the order of their keys. -/
def values (m : OrderedMap α) : List α := m.entries.map Prod.snd

/-- How many keys there are. -/
def size (m : OrderedMap α) : Nat := m.entries.length

/-- No key is present. -/
def isEmpty (m : OrderedMap α) : Bool := m.entries.isEmpty

/-- The value under a key. -/
def get? (m : OrderedMap α) (key : String) : Option α := m.entries.lookup key

/-- The key is present. -/
def contains (m : OrderedMap α) (key : String) : Bool := (m.get? key).isSome

/-- Give a key a value; a key that is present keeps its position. -/
def insert (m : OrderedMap α) (key : String) (value : α) : OrderedMap α :=
  ⟨put key value m.entries, nodup_map_fst_put m.nodup_keys key value⟩

/-- Insert pairs from left to right. -/
def insertAll (m : OrderedMap α) (pairs : List (String × α)) : OrderedMap α :=
  pairs.foldl (fun m e => m.insert e.1 e.2) m

/-- The map that inserting the pairs from left to right builds: the position of a key is its first,
its value the last. -/
def ofList (pairs : List (String × α)) : OrderedMap α := empty.insertAll pairs

/-- Overlay: the entries of `upper` win, new keys follow the old ones. -/
def merge (m upper : OrderedMap α) : OrderedMap α := m.insertAll upper.entries

/-- The maps have the same entries, in whatever order. -/
def sameEntries [DecidableEq α] (m n : OrderedMap α) : Bool :=
  m.size == n.size && m.entries.all fun e => n.get? e.1 == some e.2

/-- Same keys in the same order, values mapped. -/
def mapValues {β : Type} (f : α → β) (m : OrderedMap α) : OrderedMap β :=
  ⟨m.entries.map fun e => (e.1, f e.2), by
    rw [List.map_map]
    exact m.nodup_keys⟩

/-! ## What an insertion does -/

@[simp] theorem keys_empty : (empty : OrderedMap α).keys = [] := rfl

@[simp] theorem get?_empty (key : String) : (empty : OrderedMap α).get? key = none := rfl

theorem nodup (m : OrderedMap α) : m.keys.Nodup := m.nodup_keys

/-- An insertion adds its key at the end unless the key is present. -/
theorem keys_insert (m : OrderedMap α) (key : String) (value : α) :
    (m.insert key value).keys = if key ∈ m.keys then m.keys else m.keys ++ [key] :=
  map_fst_put key value m.entries

theorem get?_insert (m : OrderedMap α) (key k : String) (value : α) :
    (m.insert key value).get? k = if k = key then some value else m.get? k :=
  lookup_put key k value m.entries

@[simp] theorem get?_insert_self (m : OrderedMap α) (key : String) (value : α) :
    (m.insert key value).get? key = some value := by
  simp [get?_insert]

theorem get?_insert_of_ne (m : OrderedMap α) {key k : String} (value : α) (h : k ≠ key) :
    (m.insert key value).get? k = m.get? k := by
  simp [get?_insert, h]

/-- An insertion adds no other entry. -/
theorem mem_entries_insert {m : OrderedMap α} {key : String} {value : α} {e : String × α}
    (h : e ∈ (m.insert key value).entries) : e = (key, value) ∨ e ∈ m.entries :=
  mem_put h

/-- A new key goes to the end, with its value. -/
theorem entries_insert_of_not_mem {m : OrderedMap α} {key : String} (value : α)
    (h : key ∉ m.keys) : (m.insert key value).entries = m.entries ++ [(key, value)] :=
  put_of_not_mem value h

/-- The entries are the pairs that look-up answers. -/
theorem mem_entries_iff (m : OrderedMap α) {k : String} {v : α} :
    (k, v) ∈ m.entries ↔ m.get? k = some v :=
  (lookup_eq_some_iff_mem m.nodup_keys).symm

/-- A key is absent exactly when look-up answers nothing. -/
theorem get?_eq_none_iff (m : OrderedMap α) {key : String} : m.get? key = none ↔ key ∉ m.keys := by
  unfold get? keys
  rw [List.lookup_eq_none_iff, List.mem_map]
  constructor
  · rintro h ⟨e, he, rfl⟩
    exact absurd (h e he) (by simp)
  · intro h e he
    have hne : key ≠ e.1 := fun heq => h ⟨e, he, heq.symm⟩
    simpa using hne

theorem contains_iff (m : OrderedMap α) {key : String} : m.contains key = true ↔ key ∈ m.keys := by
  rw [contains, Option.isSome_iff_ne_none, ne_eq, m.get?_eq_none_iff, Decidable.not_not]

/-- The values, read off the keys. -/
theorem map_keys_getD (m : OrderedMap α) (default : α) :
    (m.keys.map fun key => (m.get? key).getD default) = m.values := by
  unfold keys values
  rw [List.map_map]
  refine List.map_congr_left fun e he => ?_
  rw [Function.comp_apply, m.mem_entries_iff.mp he, Option.getD_some]

/-! ## What insertions in turn do -/

theorem insertAll_append (m : OrderedMap α) (pairs more : List (String × α)) :
    m.insertAll (pairs ++ more) = (m.insertAll pairs).insertAll more :=
  List.foldl_append

/-- Insertions in turn add the new keys at the end, each once. -/
theorem keys_insertAll : ∀ (pairs : List (String × α)) (m : OrderedMap α),
    (m.insertAll pairs).keys = m.keys ++ ((pairs.map Prod.fst).removeAll m.keys).eraseDups
  | [], m => by simp [insertAll, List.removeAll]
  | (key, value) :: rest, m => by
    show ((m.insert key value).insertAll rest).keys = _
    rw [keys_insertAll rest, keys_insert, List.map_cons, List.cons_removeAll]
    by_cases h : key ∈ m.keys
    · simp [h]
    · have hremove : (rest.map Prod.fst).removeAll (m.keys ++ [key]) =
          ((rest.map Prod.fst).removeAll m.keys).filter fun k => !k == key := by
        unfold List.removeAll
        rw [List.filter_filter]
        refine List.filter_congr fun k _ => ?_
        simp [Bool.and_comm, Bool.beq_eq_decide_eq]
      simp [h, hremove, List.eraseDups_cons]

/-- Insertions in turn leave a key with the last value that it was given. -/
theorem get?_insertAll : ∀ (pairs : List (String × α)) (m : OrderedMap α) (key : String),
    (m.insertAll pairs).get? key = (pairs.reverse.lookup key).or (m.get? key)
  | [], m, key => rfl
  | (k, value) :: rest, m, key => by
    show ((m.insert k value).insertAll rest).get? key = _
    rw [get?_insertAll rest, get?_insert, List.reverse_cons, List.lookup_append, Option.or_assoc]
    by_cases h : key = k
    · simp [h]
    · simp [h, List.lookup_cons, beq_false_of_ne h]

/-- Pairs inserted from left to right leave each key at its first place. -/
theorem keys_ofList (pairs : List (String × α)) :
    (ofList pairs).keys = (pairs.map Prod.fst).eraseDups := by
  have hremove : (pairs.map Prod.fst).removeAll [] = pairs.map Prod.fst :=
    List.filter_eq_self.mpr fun _ _ => rfl
  rw [ofList, keys_insertAll, keys_empty, List.nil_append, hremove]

/-- Pairs inserted from left to right leave an empty map when there are none. -/
theorem isEmpty_ofList (pairs : List (String × α)) : (ofList pairs).isEmpty = pairs.isEmpty := by
  have hkeys : (ofList pairs).isEmpty = (ofList pairs).keys.isEmpty := List.isEmpty_map.symm
  rw [hkeys, keys_ofList]
  cases pairs with
  | nil => rfl
  | cons e pairs =>
    rw [List.map_cons, List.eraseDups_cons]
    rfl

/-- Pairs inserted from left to right leave each key with its last value. -/
theorem get?_ofList (pairs : List (String × α)) (key : String) :
    (ofList pairs).get? key = pairs.reverse.lookup key := by
  rw [ofList, get?_insertAll, get?_empty, Option.or_none]

/-- The pair is the last one of its key. -/
def IsLast (pairs : List (String × α)) (key : String) (value : α) : Prop :=
  ∃ before after, pairs = before ++ (key, value) :: after ∧ key ∉ after.map Prod.fst

theorem IsLast.mem {pairs : List (String × α)} {key : String} {value : α}
    (h : IsLast pairs key value) : key ∈ pairs.map Prod.fst := by
  obtain ⟨before, after, rfl, -⟩ := h
  simp

/-- Look-up from the end finds the last pair of the key. -/
theorem lookup_reverse_eq_some_iff {pairs : List (String × α)} {key : String} {value : α} :
    pairs.reverse.lookup key = some value ↔ IsLast pairs key value := by
  rw [List.lookup_eq_some_iff]
  constructor
  · rintro ⟨later, earlier, hpairs, hlater⟩
    refine ⟨earlier.reverse, later.reverse, ?_, fun hmem => ?_⟩
    · rw [List.reverse_eq_iff] at hpairs
      simp [hpairs]
    · obtain ⟨e, he, rfl⟩ := List.mem_map.mp hmem
      simpa using hlater e (List.mem_reverse.mp he)
  · rintro ⟨before, after, rfl, hafter⟩
    refine ⟨after.reverse, before.reverse, by simp, fun e he => ?_⟩
    have hne : key ≠ e.1 := fun h => hafter (h ▸ List.mem_map_of_mem (List.mem_reverse.mp he))
    simpa using hne

theorem lookup_reverse_eq_none_iff {pairs : List (String × α)} {key : String} :
    pairs.reverse.lookup key = none ↔ key ∉ pairs.map Prod.fst := by
  rw [← get?_ofList, get?_eq_none_iff, keys_ofList, List.mem_eraseDups]

/-- After insertions in turn a key has the last value that it was given, or the one it had. -/
theorem get?_insertAll_eq_some_iff {pairs : List (String × α)} {m : OrderedMap α} {key : String}
    {value : α} : (m.insertAll pairs).get? key = some value ↔
      IsLast pairs key value ∨ key ∉ pairs.map Prod.fst ∧ m.get? key = some value := by
  rw [get?_insertAll, Option.or_eq_some_iff, lookup_reverse_eq_some_iff,
    lookup_reverse_eq_none_iff]

/-- Pairs inserted from left to right leave each key with the value of its last pair. -/
theorem get?_ofList_eq_some_iff {pairs : List (String × α)} {key : String} {value : α} :
    (ofList pairs).get? key = some value ↔ IsLast pairs key value := by
  rw [get?_ofList, lookup_reverse_eq_some_iff]

/-- Distinct new keys go to the end in turn. -/
theorem entries_insertAll_of_nodup : ∀ (pairs : List (String × α)) (m : OrderedMap α),
    (m.keys ++ pairs.map Prod.fst).Nodup → (m.insertAll pairs).entries = m.entries ++ pairs
  | [], m, _ => (List.append_nil _).symm
  | (key, value) :: rest, m, h => by
    have hnew : key ∉ m.keys := fun hk =>
      (List.nodup_append.mp h).2.2 key hk key List.mem_cons_self rfl
    have hkeys : (m.insert key value).keys = m.keys ++ [key] := by
      rw [keys_insert, if_neg hnew]
    show ((m.insert key value).insertAll rest).entries = _
    rw [entries_insertAll_of_nodup rest, entries_insert_of_not_mem value hnew, List.append_assoc]
    · rfl
    · rw [hkeys, List.append_assoc]
      exact h

/-- Values may be mapped before they are inserted or afterwards. -/
theorem insertAll_mapValues {β : Type} (f : α → β) : ∀ (pairs : List (String × α)) (m : OrderedMap α),
    (m.mapValues f).insertAll (pairs.map fun e => (e.1, f e.2)) = (m.insertAll pairs).mapValues f
  | [], m => rfl
  | (key, value) :: rest, m => by
    have hinsert : (m.mapValues f).insert key (f value) = (m.insert key value).mapValues f :=
      ext (put_map f key value m.entries)
    show ((m.mapValues f).insert key (f value)).insertAll _ = _
    rw [hinsert, insertAll_mapValues f rest]
    rfl

/-- Mapped pairs build the mapped map. -/
theorem ofList_map {β : Type} (f : α → β) (pairs : List (String × α)) :
    ofList (pairs.map fun e => (e.1, f e.2)) = (ofList pairs).mapValues f :=
  insertAll_mapValues f pairs empty

/-- Inserting the pairs of a map in turn builds the map. -/
@[simp] theorem ofList_entries (m : OrderedMap α) : ofList m.entries = m :=
  ext (entries_insertAll_of_nodup m.entries empty m.nodup_keys)

/-- Distinct keys are left as they are. -/
theorem eraseDups_of_nodup : ∀ {keys : List String}, keys.Nodup → keys.eraseDups = keys
  | [], _ => rfl
  | key :: keys, h => by
    obtain ⟨hkey, hkeys⟩ := List.nodup_cons.mp h
    have hfilter : (keys.filter fun k => !k == key) = keys :=
      List.filter_eq_self.mpr fun k hk => by
        have hne : k ≠ key := fun e => hkey (e ▸ hk)
        simp [hne]
    rw [List.eraseDups_cons, hfilter, eraseDups_of_nodup hkeys]

/-- An overlay puts the new keys behind the old ones. -/
theorem keys_merge (m upper : OrderedMap α) :
    (m.merge upper).keys = m.keys ++ upper.keys.filter (· ∉ m.keys) := by
  have hremove : (upper.entries.map Prod.fst).removeAll m.keys =
      upper.keys.filter (· ∉ m.keys) :=
    List.filter_congr fun key _ => by simp
  rw [merge, keys_insertAll, hremove, eraseDups_of_nodup (upper.nodup.filter _)]

/-- An overlay answers with the upper map where that has the key. -/
theorem get?_merge (m upper : OrderedMap α) (key : String) :
    (m.merge upper).get? key = (upper.get? key).or (m.get? key) := by
  rw [merge, get?_insertAll, ← get?_ofList, ofList_entries]

end OrderedMap

end WebForm
