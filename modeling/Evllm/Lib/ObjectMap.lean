/-
# Maps of mutable objects

A JavaScript `Map` whose values are objects: the map stores references, the
objects live in a heap. `insert` stores a new object under a key and leaves
the object that was stored there, which code may still hold, as it is;
`mutate` changes an object in place, whether or not it is still stored.

Every stored reference is allocated and stored under one key only; the
structure carries both facts.

Key definitions: `ObjectMap`, `ObjectMap.get`, `ObjectMap.insert`,
`ObjectMap.mutate`.
Key theorems: `ObjectMap.get_insert`, `ObjectMap.get_mutate`,
`ObjectMap.deref_mutate`.
-/
import Evllm.Lib.JsMap

namespace Lib

universe u v

variable {κ : Type u} {α : Type v} [DecidableEq κ]

/-- A reference to an object: its address in the heap. -/
abbrev Ref := ℕ

structure ObjectMap (κ : Type u) [DecidableEq κ] (α : Type v) where
  refs : JsMap κ Ref
  heap : List α
  allocated : ∀ k r, refs.get k = some r → r < heap.length
  injective : ∀ k k' r, refs.get k = some r → refs.get k' = some r → k = k'

namespace ObjectMap

def empty : ObjectMap κ α := ⟨.empty, [], by simp, by simp⟩

/-- The reference stored under `k`. -/
def ref (m : ObjectMap κ α) (k : κ) : Option Ref := m.refs.get k

def deref (m : ObjectMap κ α) (r : Ref) : Option α := m.heap[r]?

def get (m : ObjectMap κ α) (k : κ) : Option α := (m.ref k).bind m.deref

def has (m : ObjectMap κ α) (k : κ) : Bool := m.refs.has k

/-- The object `r` is stored under some key. -/
def stored (m : ObjectMap κ α) (r : Ref) : Bool := decide (r ∈ m.refs.values)

def keys (m : ObjectMap κ α) : List κ := m.refs.keys

/-- The stored objects, in the order of their keys. -/
def values (m : ObjectMap κ α) : List α := m.refs.values.filterMap m.deref

/-- Store the new object `a` under `k`. -/
def insert (m : ObjectMap κ α) (k : κ) (a : α) : ObjectMap κ α where
  refs := m.refs.set k m.heap.length
  heap := m.heap ++ [a]
  allocated := fun k' r h => by
    rw [JsMap.get_set] at h
    split_ifs at h
    · simp [← Option.some.inj h]
    · exact Nat.lt_trans (m.allocated k' r h) (by simp)
  injective := fun k₁ k₂ r h₁ h₂ => by
    rw [JsMap.get_set] at h₁ h₂
    split_ifs at h₁ h₂ with e₁ e₂ e₂
    · rw [← e₁, ← e₂]
    · exact absurd (m.allocated _ _ h₂) (by simp [← Option.some.inj h₁])
    · exact absurd (m.allocated _ _ h₁) (by simp [← Option.some.inj h₂])
    · exact m.injective _ _ _ h₁ h₂

/-- Change the object `r` in place. -/
def mutate (m : ObjectMap κ α) (r : Ref) (f : α → α) : ObjectMap κ α where
  refs := m.refs
  heap := m.heap.modify r f
  allocated := fun k r' h => by simpa using m.allocated k r' h
  injective := m.injective

section Lemmas

variable (m : ObjectMap κ α) {k k' : κ} {r r' : Ref} {a : α} {f : α → α}

@[simp] theorem ref_empty : (empty : ObjectMap κ α).ref k = none := rfl

@[simp] theorem get_empty : (empty : ObjectMap κ α).get k = none := rfl

theorem deref_of_ref (h : m.ref k = some r) : ∃ a, m.deref r = some a :=
  ⟨_, List.getElem?_eq_getElem (m.allocated k r h)⟩

theorem stored_iff : m.stored r = true ↔ ∃ k, m.ref k = some r := by
  simp only [stored, decide_eq_true_eq, JsMap.mem_values_iff]
  rfl

theorem get_eq_deref (h : m.ref k = some r) : m.get k = m.deref r := by simp [get, h]

theorem get_eq_some_iff : m.get k = some a ↔ ∃ r, m.ref k = some r ∧ m.deref r = some a := by
  simp [get, Option.bind_eq_some_iff]

theorem mem_values_iff : a ∈ m.values ↔ ∃ k, m.get k = some a := by
  simp only [values, List.mem_filterMap, JsMap.mem_values_iff, get_eq_some_iff]
  constructor
  · rintro ⟨r, ⟨k, hk⟩, hr⟩
    exact ⟨k, r, hk, hr⟩
  · rintro ⟨k, r, hk, hr⟩
    exact ⟨r, ⟨k, hk⟩, hr⟩

theorem values_eq : m.values = m.keys.filterMap m.get := by
  unfold values keys
  rw [JsMap.values_eq, List.filterMap_filterMap]
  rfl

theorem get_eq_none_iff : m.get k = none ↔ m.ref k = none := by
  constructor
  · intro h
    cases hr : m.ref k with
    | none => rfl
    | some r =>
      obtain ⟨a, ha⟩ := m.deref_of_ref hr
      rw [m.get_eq_deref hr, ha] at h
      cases h
  · intro h
    simp [get, h]

theorem has_eq_false_iff : m.has k = false ↔ m.get k = none := by
  rw [get_eq_none_iff]
  exact JsMap.has_eq_false_iff m.refs k

theorem mem_keys_iff : k ∈ m.keys ↔ ∃ a, m.get k = some a := by
  have hrefs : k ∈ m.keys ↔ ∃ r, m.ref k = some r := m.refs.mem_keys_iff k
  rw [hrefs]
  constructor
  · rintro ⟨r, hr⟩
    obtain ⟨a, ha⟩ := m.deref_of_ref hr
    exact ⟨a, by rw [m.get_eq_deref hr, ha]⟩
  · rintro ⟨a, ha⟩
    obtain ⟨r, hr, -⟩ := m.get_eq_some_iff.mp ha
    exact ⟨r, hr⟩

theorem nodup_keys : m.keys.Nodup := m.refs.nodup_keys

theorem keys_insert : (m.insert k a).keys = if k ∈ m.keys then m.keys else m.keys ++ [k] := by
  split_ifs with hk
  · exact JsMap.keys_set_of_mem _ hk
  · exact JsMap.keys_set_of_not_mem _ hk

@[simp] theorem keys_mutate : (m.mutate r f).keys = m.keys := rfl

theorem ref_insert : (m.insert k a).ref k' = if k = k' then some m.heap.length else m.ref k' :=
  JsMap.get_set m.refs k k' m.heap.length

theorem deref_insert_of_lt (h : r < m.heap.length) : (m.insert k a).deref r = m.deref r :=
  List.getElem?_append_left h

theorem deref_insert_new : (m.insert k a).deref m.heap.length = some a := by
  simp [deref, insert]

theorem deref_insert : (m.insert k a).deref r = if r = m.heap.length then some a else m.deref r := by
  split_ifs with hr
  · rw [hr, deref_insert_new]
  · by_cases hlt : r < m.heap.length
    · rw [deref_insert_of_lt m hlt]
    · have hlen : (m.insert k a).heap.length = m.heap.length + 1 := by simp [insert]
      have hgt : m.heap.length < r := Nat.lt_of_le_of_ne (Nat.le_of_not_lt hlt) (Ne.symm hr)
      unfold deref
      rw [List.getElem?_eq_none (by omega), List.getElem?_eq_none (by omega)]

theorem deref_insert_of_some (h : m.deref r = some a) (b : α) : (m.insert k b).deref r = some a := by
  rw [deref_insert_of_lt m (List.getElem?_eq_some_iff.mp h).1, h]

theorem get_insert : (m.insert k a).get k' = if k = k' then some a else m.get k' := by
  unfold get
  rw [ref_insert]
  split_ifs with hk
  · simp [deref_insert_new]
  · cases hr : m.ref k' with
    | none => rfl
    | some r => simp [deref_insert_of_lt m (m.allocated k' r hr)]

@[simp] theorem ref_mutate : (m.mutate r f).ref k = m.ref k := rfl

theorem deref_mutate : (m.mutate r f).deref r' = if r = r' then (m.deref r').map f else m.deref r' := by
  simp only [deref, mutate, List.getElem?_modify]
  split_ifs <;> simp

theorem get_mutate : (m.mutate r f).get k = if m.ref k = some r then (m.get k).map f else m.get k := by
  unfold get
  rw [ref_mutate]
  cases hr : m.ref k with
  | none => simp
  | some r' =>
    simp only [Option.bind_some, deref_mutate, Option.some.injEq, eq_comm]

end Lemmas

/-! ### Properties of the objects -/

section Objects

variable {m : ObjectMap κ α} {k : κ} {r : Ref} {a : α} {f : α → α} {P : α → Prop} {id : α → κ}

/-- Every object has the property, also one that is stored under no key any
more. -/
def Objects (P : α → Prop) (m : ObjectMap κ α) : Prop := ∀ r a, m.deref r = some a → P a

theorem objects_empty : Objects P (empty : ObjectMap κ α) := fun _ _ h => nomatch h

theorem Objects.mono {Q : α → Prop} (h : Objects P m) (hPQ : ∀ a, P a → Q a) : Objects Q m :=
  fun r a ha => hPQ a (h r a ha)

theorem Objects.get (h : Objects P m) (ha : m.get k = some a) : P a := by
  obtain ⟨r, -, hr⟩ := m.get_eq_some_iff.mp ha
  exact h r a hr

theorem Objects.insert (h : Objects P m) (ha : P a) : Objects P (m.insert k a) := by
  intro r b hb
  rw [deref_insert] at hb
  split_ifs at hb
  · cases hb
    exact ha
  · exact h r b hb

theorem Objects.mutate (h : Objects P m) (hf : ∀ a, P a → P (f a)) : Objects P (m.mutate r f) := by
  intro r' b hb
  rw [deref_mutate] at hb
  split_ifs at hb
  · obtain ⟨a, ha, rfl⟩ := Option.map_eq_some_iff.mp hb
    exact hf a (h r' a ha)
  · exact h r' b hb

/-- Every object is stored under the key that `id` reads off it. -/
def Named (id : α → κ) (m : ObjectMap κ α) : Prop := ∀ k a, m.get k = some a → id a = k

theorem named_empty : Named id (empty : ObjectMap κ α) := fun _ _ h => nomatch h

theorem Named.insert (h : Named id m) (a : α) : Named id (m.insert (id a) a) := by
  intro k b hb
  rw [get_insert] at hb
  split_ifs at hb with hk
  · cases hb
    exact hk
  · exact h k b hb

theorem Named.mutate (h : Named id m) (hf : ∀ a, id (f a) = id a) : Named id (m.mutate r f) := by
  intro k b hb
  rw [get_mutate] at hb
  split_ifs at hb
  · obtain ⟨a, ha, rfl⟩ := Option.map_eq_some_iff.mp hb
    exact (hf a).trans (h k a ha)
  · exact h k b hb

end Objects

end ObjectMap

end Lib
