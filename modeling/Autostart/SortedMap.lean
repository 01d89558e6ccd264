/-!
# Sorted maps

A finite map kept as a list of pairs in ascending order of their keys. Lookups, insertion and
removal walk the list. The order is part of the type, so two maps with the same lookups are the same
map, and listing a map needs no sorting.
-/

namespace Autostart

/-- Keys stand in a strict order in which any two different ones can be compared. -/
class KeyOrder (κ : Type) [LT κ] : Prop where
  /-- No key is before itself. -/
  irrefl (a : κ) : ¬ a < a
  /-- What is before a key is before all that follow it. -/
  trans {a b c : κ} : a < b → b < c → a < c
  /-- Of two different keys one is before the other. -/
  connected {a b : κ} : ¬ a < b → ¬ b < a → a = b

/-- The strict order of a linear order. -/
theorem KeyOrder.of_linear {κ : Type} [LT κ] [LE κ] [Std.IsLinearOrder κ] [Std.LawfulOrderLT κ] :
    KeyOrder κ where
  irrefl _ := Std.lt_irrefl
  trans := Std.lt_trans
  connected h h' := Std.le_antisymm (Std.not_lt.1 h') (Std.not_lt.1 h)

instance : KeyOrder String :=
  .of_linear

instance : KeyOrder (List String) :=
  .of_linear

/-- A finite map, as its pairs in ascending order of their keys. -/
structure SortedMap (κ : Type) (α : Type) [LT κ] where
  /-- The pairs of the map. -/
  toList : List (κ × α)
  /-- The keys ascend. -/
  ordered : toList.Pairwise fun a b => a.1 < b.1

namespace SortedMap

variable {κ α : Type}

section Lists

variable [LT κ] [DecidableEq κ] [DecidableLT κ]

/-- The value of `k` among the pairs. -/
def lookup (k : κ) : List (κ × α) → Option α
  | [] => none
  | (k', a) :: rest => if k = k' then some a else lookup k rest

/-- The pairs with `k` bound to `a`, at its place in the order. -/
def put (k : κ) (a : α) : List (κ × α) → List (κ × α)
  | [] => [(k, a)]
  | (k', b) :: rest =>
    if k < k' then (k, a) :: (k', b) :: rest
    else if k = k' then (k, a) :: rest
    else (k', b) :: put k a rest

/-- A pair of `put k a l` is the new one or one of `l`. -/
theorem mem_put {k : κ} {a : α} {l : List (κ × α)} {p : κ × α} (h : p ∈ put k a l) :
    p = (k, a) ∨ p ∈ l := by
  induction l with
  | nil => simpa [put] using h
  | cons q rest ih =>
    obtain ⟨k', b⟩ := q
    rw [put] at h
    split at h
    · simpa using h
    · split at h
      · rcases List.mem_cons.1 h with h | h
        · exact .inl h
        · exact .inr (List.mem_cons_of_mem _ h)
      · rcases List.mem_cons.1 h with h | h
        · exact .inr (h ▸ List.mem_cons_self)
        · exact (ih h).imp_right (List.mem_cons_of_mem _)

end Lists

variable [LT κ] [DecidableEq κ] [DecidableLT κ] [KeyOrder κ]

/-- Binding a key keeps the order. -/
theorem pairwise_put {k : κ} {a : α} {l : List (κ × α)}
    (h : l.Pairwise fun a b => a.1 < b.1) : (put k a l).Pairwise fun a b => a.1 < b.1 := by
  induction l with
  | nil => simp [put]
  | cons q rest ih =>
    obtain ⟨k', b⟩ := q
    obtain ⟨hhead, htail⟩ := List.pairwise_cons.1 h
    rw [put]
    split
    · next hlt =>
      refine List.pairwise_cons.2 ⟨fun p hp => ?_, h⟩
      rcases List.mem_cons.1 hp with rfl | hp
      · exact hlt
      · exact KeyOrder.trans hlt (hhead p hp)
    · next hlt =>
      split
      · next heq => exact List.pairwise_cons.2 ⟨heq ▸ hhead, htail⟩
      · next hne =>
        refine List.pairwise_cons.2 ⟨fun p hp => ?_, ih htail⟩
        rcases mem_put hp with rfl | hp
        · exact Decidable.byContradiction fun h => hne (KeyOrder.connected hlt h)
        · exact hhead p hp

omit [DecidableEq κ] [DecidableLT κ] [KeyOrder κ] in
/-- The map with no pair. -/
def empty : SortedMap κ α :=
  ⟨[], List.Pairwise.nil⟩

/-- The value bound to `k`. -/
def find? (m : SortedMap κ α) (k : κ) : Option α :=
  lookup k m.toList

/-- Whether a value is bound to `k`. -/
def contains (m : SortedMap κ α) (k : κ) : Bool :=
  (m.find? k).isSome

/-- The map with `k` bound to `a`, in place of any earlier value. -/
def insert (m : SortedMap κ α) (k : κ) (a : α) : SortedMap κ α :=
  ⟨put k a m.toList, pairwise_put m.ordered⟩

/-- The map without the pairs whose key fails the test. -/
def filterKeys (m : SortedMap κ α) (keep : κ → Bool) : SortedMap κ α :=
  ⟨m.toList.filter fun p => keep p.1, m.ordered.filter _⟩

/-- The map without `k`. -/
def erase (m : SortedMap κ α) (k : κ) : SortedMap κ α :=
  m.filterKeys (· ≠ k)

/-- The keys, in ascending order. -/
def keys (m : SortedMap κ α) : List κ :=
  m.toList.map (·.1)

/-- The values, in ascending order of their keys. -/
def values (m : SortedMap κ α) : List α :=
  m.toList.map (·.2)

/-- The number of pairs. -/
def size (m : SortedMap κ α) : Nat :=
  m.toList.length

/-- Whether the map has no pair. -/
def isEmpty (m : SortedMap κ α) : Bool :=
  m.toList.isEmpty

end SortedMap

end Autostart
