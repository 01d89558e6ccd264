import Autostart.SortedMap
import Mathlib.Data.List.Sort

/-!
# Lookups in sorted maps

What each operation on a sorted map does to its lookups. The order of the pairs adds that a map
lists exactly what it looks up, and that the lookups determine the map.
-/

namespace Autostart.SortedMap

variable {κ α : Type}

section Lists

variable [LT κ] [DecidableEq κ] [DecidableLT κ]

/-- A binding changes what its own key looks up, and nothing else. -/
theorem lookup_put (k k' : κ) (a : α) (l : List (κ × α)) :
    lookup k (put k' a l) = if k = k' then some a else lookup k l := by
  induction l with
  | nil => rfl
  | cons q rest ih =>
    obtain ⟨k₀, b⟩ := q
    rw [put]
    split
    · rfl
    · split
      · next h => subst h; by_cases hk : k = k' <;> simp [lookup, hk]
      · next h =>
        rw [lookup, lookup, ih]
        by_cases hk : k = k₀
        · simp [hk, Ne.symm h]
        · simp [hk]

omit [LT κ] [DecidableLT κ] in
/-- A test on the keys keeps or drops what each key looks up. -/
theorem lookup_filter (k : κ) (keep : κ → Bool) (l : List (κ × α)) :
    lookup k (l.filter fun p => keep p.1) = if keep k then lookup k l else none := by
  induction l with
  | nil => simp [lookup]
  | cons q rest ih =>
    obtain ⟨k₀, b⟩ := q
    by_cases hk : k = k₀
    · subst hk
      by_cases h : keep k <;> simp [List.filter, lookup, h, ih]
    · by_cases h : keep k₀ <;> simp [List.filter, lookup, h, hk, ih]

omit [LT κ] [DecidableLT κ] in
/-- What is looked up is among the pairs. -/
theorem mem_of_lookup_eq_some {k : κ} {a : α} {l : List (κ × α)} (h : lookup k l = some a) :
    (k, a) ∈ l := by
  induction l with
  | nil => simp [lookup] at h
  | cons q rest ih =>
    obtain ⟨k₀, b⟩ := q
    rw [lookup] at h
    split at h
    · next hk => simp_all
    · exact List.mem_cons_of_mem _ (ih h)

end Lists

variable [LT κ] [DecidableEq κ] [DecidableLT κ]

section Order

variable [KeyOrder κ]

omit [DecidableLT κ] in
/-- A pair of an ascending list is what its key looks up. -/
theorem lookup_eq_some_of_mem {k : κ} {a : α} {l : List (κ × α)}
    (hl : l.Pairwise fun a b => a.1 < b.1) (h : (k, a) ∈ l) : lookup k l = some a := by
  induction l with
  | nil => simp at h
  | cons q rest ih =>
    obtain ⟨k₀, b⟩ := q
    obtain ⟨hhead, htail⟩ := List.pairwise_cons.1 hl
    rcases List.mem_cons.1 h with h | h
    · obtain ⟨rfl, rfl⟩ := Prod.mk.inj h
      simp [lookup]
    · have hne : k ≠ k₀ := fun e => KeyOrder.irrefl k₀ (e ▸ hhead _ h)
      simp [lookup, hne, ih htail h]

omit [DecidableLT κ] in
/-- A map lists exactly the pairs that it looks up. -/
theorem mem_toList_iff {m : SortedMap κ α} {k : κ} {a : α} :
    (k, a) ∈ m.toList ↔ m.find? k = some a :=
  ⟨lookup_eq_some_of_mem m.ordered, mem_of_lookup_eq_some⟩

omit [DecidableLT κ] in
/-- The keys of a map are those that look up a value. -/
theorem mem_keys_iff {m : SortedMap κ α} {k : κ} : k ∈ m.keys ↔ (m.find? k).isSome := by
  simp [keys, Option.isSome_iff_exists, mem_toList_iff]

omit [DecidableEq κ] [DecidableLT κ] in
/-- The keys of a map are different from each other. -/
theorem nodup_keys (m : SortedMap κ α) : m.keys.Nodup := by
  unfold keys
  rw [List.nodup_iff_pairwise_ne, List.pairwise_map]
  refine m.ordered.imp fun {a b} hlt (heq : a.1 = b.1) => ?_
  rw [heq] at hlt
  exact KeyOrder.irrefl b.1 hlt

omit [DecidableLT κ] in
/-- Maps with the same lookups are the same. -/
theorem ext_find? {m n : SortedMap κ α} (h : ∀ k, m.find? k = n.find? k) : m = n := by
  -- The order is strict, so no two pairs stand in both orders.
  have : Std.Irrefl fun a b : κ × α => a.1 < b.1 := ⟨fun a => KeyOrder.irrefl a.1⟩
  have : Std.Antisymm fun a b : κ × α => a.1 < b.1 :=
    ⟨fun a _ hab hba => absurd (KeyOrder.trans hab hba) (KeyOrder.irrefl a.1)⟩
  have hlist : m.toList = n.toList :=
    m.ordered.eq_of_mem_iff n.ordered fun (k, a) => by
      rw [mem_toList_iff, mem_toList_iff, h]
  cases m
  cases n
  simp_all

/-- A key looks up the value that it was bound to last. -/
@[simp]
theorem find?_insert (m : SortedMap κ α) (k k' : κ) (a : α) :
    (m.insert k' a).find? k = if k = k' then some a else m.find? k :=
  lookup_put k k' a m.toList

end Order

omit [DecidableLT κ] in
/-- The empty map looks up nothing. -/
@[simp]
theorem find?_empty (k : κ) : (empty : SortedMap κ α).find? k = none :=
  rfl

omit [DecidableLT κ] in
/-- A key that fails the test looks up nothing any more. -/
@[simp]
theorem find?_filterKeys (m : SortedMap κ α) (keep : κ → Bool) (k : κ) :
    (m.filterKeys keep).find? k = if keep k then m.find? k else none :=
  lookup_filter k keep m.toList

omit [DecidableLT κ] in
/-- An erased key looks up nothing, and every other key what it did. -/
@[simp]
theorem find?_erase (m : SortedMap κ α) (k k' : κ) :
    (m.erase k').find? k = if k = k' then none else m.find? k := by
  by_cases h : k = k' <;> simp [erase, h]

end Autostart.SortedMap
