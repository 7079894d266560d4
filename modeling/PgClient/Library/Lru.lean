import Mathlib.Data.List.MinMax
import Mathlib.Data.List.Sigma

/-!
The cache that evicts the least recently used entry, as a reference: every entry carries
the time of its last use, and the victim is the entry whose last use is the earliest.
-/

namespace Lru

structure Item (K V : Type) where
  key : K
  value : V
  lastUse : Nat

structure Reference (K V : Type) where
  capacity : Nat
  items : List (Item K V)
  clock : Nat

/-- What a cache is asked to do. -/
inductive Op (K V : Type) where
  | get (key : K)
  | insert (key : K) (value : V)
  | remove (key : K)
  | clear

namespace Reference

variable {K V : Type}

def new (capacity : Nat) : Reference K V := { capacity, items := [], clock := 0 }

def victim (r : Reference K V) : Option (Item K V) := r.items.argmin Item.lastUse

variable [DecidableEq K]

def find (r : Reference K V) (key : K) : Option (Item K V) :=
  r.items.find? fun item => item.key = key

def without (r : Reference K V) (key : K) : Reference K V :=
  { r with items := r.items.filter fun item => item.key ≠ key }

/-- The entry under a key is used now. -/
def use (r : Reference K V) (key : K) (value : V) : Reference K V :=
  { r with
    items := { key, value, lastUse := r.clock } :: (r.without key).items
    clock := r.clock + 1 }

/-- The values that an operation answers with, and the cache afterwards. -/
def step (r : Reference K V) : Op K V → List V × Reference K V
  | .get key =>
      match r.find key with
      | some item => ([item.value], r.use key item.value)
      | none => ([], r)
  | .insert key value =>
      if (r.find key).isNone ∧ r.capacity ≤ r.items.length then
        match r.victim with
        | some item => ([item.value], (r.without item.key).use key value)
        | none => ([], r.use key value)
      else ([], r.use key value)
  | .remove key => ((r.find key).toList.map Item.value, r.without key)
  | .clear => (r.items.map Item.value, { r with items := [] })

/-- What the operations answer one after another, and the cache in the end. -/
def run (r : Reference K V) : List (Op K V) → List (List V) × Reference K V
  | [] => ([], r)
  | op :: ops => ((r.step op).1 :: ((r.step op).2.run ops).1, ((r.step op).2.run ops).2)

/-- The entries stand under different keys, the last use of each before that of the one
in front of it. -/
structure Recent (r : Reference K V) : Prop where
  keys : (r.items.map Item.key).Nodup
  sorted : r.items.Pairwise fun item later => later.lastUse < item.lastUse
  past : ∀ item ∈ r.items, item.lastUse < r.clock

omit [DecidableEq K] in
theorem recent_new (capacity : Nat) : (new capacity : Reference K V).Recent :=
  ⟨List.nodup_nil, .nil, nofun⟩

theorem Recent.without {r : Reference K V} (h : r.Recent) (key : K) : (r.without key).Recent where
  keys := (h.keys.sublist (List.filter_sublist.map Item.key))
  sorted := h.sorted.sublist List.filter_sublist
  past := fun item hMem => h.past item (List.mem_filter.mp hMem).1

theorem Recent.use {r : Reference K V} (h : r.Recent) (key : K) (value : V) :
    (r.use key value).Recent where
  keys := by
    simp only [Reference.use, List.map_cons, List.nodup_cons]
    refine ⟨?_, (h.without key).keys⟩
    simp [Reference.without]
  sorted := List.pairwise_cons.mpr ⟨fun item hMem => (h.without key).past item hMem,
    (h.without key).sorted⟩
  past := by
    intro item hMem
    cases List.mem_cons.mp hMem with
    | inl hNew =>
        subst hNew
        exact Nat.lt_succ_self _
    | inr hOld => exact Nat.lt_succ_of_lt ((h.without key).past item hOld)

omit [DecidableEq K] in
theorem Recent.clear {r : Reference K V} : ({ r with items := [] } : Reference K V).Recent :=
  ⟨List.nodup_nil, .nil, nofun⟩

/-- Every operation keeps the entries in the order of their last uses. -/
theorem Recent.step {r : Reference K V} (h : r.Recent) (op : Op K V) : (r.step op).2.Recent := by
  cases op with
  | get key =>
      simp only [Reference.step]
      split
      · exact h.use key _
      · exact h
  | insert key value =>
      simp only [Reference.step]
      split
      · split
        · exact (h.without _).use key value
        · exact h.use key value
      · exact h.use key value
  | remove key => exact h.without key
  | clear => exact Recent.clear

theorem Recent.find_of_mem {r : Reference K V} (h : r.Recent) {item : Item K V}
    (hMem : item ∈ r.items) : r.find item.key = some item := by
  cases hFind : r.find item.key with
  | none =>
      have hNone := List.find?_eq_none.mp hFind item hMem
      simp at hNone
  | some found =>
      have hKey : found.key = item.key := by simpa using List.find?_some hFind
      rw [List.inj_on_of_nodup_map h.keys (List.mem_of_find?_eq_some hFind) hMem hKey]

omit [DecidableEq K] in
/-- In that order the victim stands last. -/
theorem Recent.victim_eq {r : Reference K V} (h : r.Recent) : r.victim = r.items.getLast? := by
  rw [victim]
  cases List.eq_nil_or_concat r.items with
  | inl hNil => rw [hNil]; rfl
  | inr hConcat =>
      obtain ⟨items, item, hItems⟩ := hConcat
      rw [List.concat_eq_append] at hItems
      have hSorted := h.sorted
      rw [hItems] at hSorted ⊢
      rw [List.getLast?_append, List.argmin_concat]
      cases hMin : items.argmin Item.lastUse with
      | none => rfl
      | some first =>
          have hLess := (List.pairwise_append.mp hSorted).2.2 first (List.argmin_mem hMin) item
            List.mem_cons_self
          simp [hLess]

end Reference
end Lru
