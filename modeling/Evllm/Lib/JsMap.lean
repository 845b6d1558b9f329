/-
# Insertion-ordered maps

A JavaScript `Map`: a list of entries with distinct keys. `set` on a present
key replaces the value in place, on an absent key appends, so `values` lists
the entries in the order of their first insertion.

Key definitions: `JsMap`, `JsMap.get`, `JsMap.set`, `JsMap.delete`,
`JsMap.filter`, `JsMap.mapValues`.
Key theorems: `JsMap.get_set`, `JsMap.get_delete`, `JsMap.get_mapValues`,
`JsMap.mem_values_iff`, `JsMap.values_eq`.
-/
import Mathlib.Data.List.Nodup
import Mathlib.Tactic.Common

namespace Lib

universe u v

variable {κ : Type u} {ν : Type v} [DecidableEq κ]

namespace Entries

/-- The value stored under `k`. -/
def lookup (k : κ) : List (κ × ν) → Option ν
  | [] => none
  | (k', v) :: es => if k' = k then some v else lookup k es

/-- Replace the value under `k` in place, or append it. -/
def assign (k : κ) (v : ν) : List (κ × ν) → List (κ × ν)
  | [] => [(k, v)]
  | (k', v') :: es => if k' = k then (k, v) :: es else (k', v') :: assign k v es

theorem lookup_assign (k k' : κ) (v : ν) : ∀ es : List (κ × ν),
    lookup k' (assign k v es) = if k = k' then some v else lookup k' es
  | [] => by simp [assign, lookup]
  | (a, w) :: es => by
    by_cases ha : a = k
    · subst ha
      by_cases hk : a = k' <;> simp [assign, lookup, hk]
    · by_cases hk : k = k'
      · subst hk
        simp [assign, lookup, ha, lookup_assign k k v es]
      · have ih := lookup_assign k k' v es
        simp only [hk, if_false] at ih ⊢
        simp only [assign, ha, if_false, lookup, ih]

theorem keys_assign (k : κ) (v : ν) : ∀ es : List (κ × ν),
    (assign k v es).map Prod.fst = if k ∈ es.map Prod.fst then es.map Prod.fst else es.map Prod.fst ++ [k]
  | [] => by simp [assign]
  | (a, w) :: es => by
    by_cases ha : a = k
    · simp [assign, ha]
    · have ih := keys_assign k v es
      simp only [assign, ha, if_false, List.map_cons, ih, List.mem_cons, Ne.symm ha, false_or]
      split_ifs <;> rfl

theorem mem_keys_assign (k k' : κ) (v : ν) : ∀ es : List (κ × ν),
    k' ∈ (assign k v es).map Prod.fst ↔ k' = k ∨ k' ∈ es.map Prod.fst
  | [] => by simp [assign]
  | (a, w) :: es => by
    by_cases ha : a = k
    · subst ha
      simp [assign]
    · have ih := mem_keys_assign k k' v es
      simp only [assign, ha, if_false, List.map_cons, List.mem_cons, ih]
      tauto

theorem assign_keys_nodup (k : κ) (v : ν) : ∀ es : List (κ × ν),
    (es.map Prod.fst).Nodup → ((assign k v es).map Prod.fst).Nodup
  | [], _ => by simp [assign]
  | (a, w) :: es, h => by
    by_cases ha : a = k
    · subst ha
      simpa [assign] using h
    · simp only [List.map_cons, List.nodup_cons] at h
      simp only [assign, ha, if_false, List.map_cons, List.nodup_cons, mem_keys_assign]
      exact ⟨by simpa [ha] using h.1, assign_keys_nodup k v es h.2⟩

theorem lookup_eq_some_iff (k : κ) (v : ν) : ∀ es : List (κ × ν), (es.map Prod.fst).Nodup →
    (lookup k es = some v ↔ (k, v) ∈ es)
  | [], _ => by simp [lookup]
  | (a, w) :: es, h => by
    simp only [List.map_cons, List.nodup_cons] at h
    have ih := lookup_eq_some_iff k v es h.2
    by_cases ha : a = k
    · subst ha
      have hno : (a, v) ∉ es := fun hm => h.1 (List.mem_map.mpr ⟨_, hm, rfl⟩)
      simp only [lookup, if_true, Option.some.injEq, List.mem_cons, Prod.mk.injEq, true_and, hno, or_false]
      exact eq_comm
    · simp [lookup, ha, Ne.symm ha, ih]

/-- Entries with distinct keys may stand in any order. -/
theorem lookup_perm {es es' : List (κ × ν)} (h : (es.map Prod.fst).Nodup) (hperm : es.Perm es') (k : κ) :
    lookup k es = lookup k es' := by
  have h' : (es'.map Prod.fst).Nodup := (hperm.map Prod.fst).nodup_iff.mp h
  refine Option.ext fun v => ?_
  rw [lookup_eq_some_iff k v es h, lookup_eq_some_iff k v es' h', hperm.mem_iff]

theorem lookup_eq_none_iff (k : κ) : ∀ es : List (κ × ν),
    lookup k es = none ↔ k ∉ es.map Prod.fst
  | [] => by simp [lookup]
  | (a, w) :: es => by
    have ih := lookup_eq_none_iff k es
    by_cases ha : a = k
    · simp [lookup, ha]
    · simp only [lookup, ha, if_false, ih, List.map_cons, List.mem_cons, not_or]
      exact ⟨fun h => ⟨Ne.symm ha, h⟩, fun h => h.2⟩

theorem lookup_map (k : κ) (f : ν → ν) : ∀ es : List (κ × ν),
    lookup k (es.map fun e => (e.1, f e.2)) = (lookup k es).map f
  | [] => rfl
  | (a, w) :: es => by
    by_cases ha : a = k
    · simp [lookup, ha]
    · simp [lookup, ha, lookup_map k f es]

theorem lookup_filter_ne (k k' : κ) : ∀ es : List (κ × ν),
    lookup k' (es.filter fun e => e.1 ≠ k) = if k = k' then none else lookup k' es
  | [] => by simp [lookup]
  | (a, w) :: es => by
    have ih := lookup_filter_ne k k' es
    by_cases ha : a = k
    · subst ha
      by_cases hk : a = k' <;> simp_all [lookup]
    · by_cases hk : k = k'
      · subst hk
        simp_all [lookup]
      · simp_all [lookup]

end Entries

/-- A JavaScript `Map`. -/
structure JsMap (κ : Type u) (ν : Type v) where
  entries : List (κ × ν)
  keys_nodup : (entries.map Prod.fst).Nodup

namespace JsMap

/-- `new Map()`. -/
def empty : JsMap κ ν := ⟨[], by simp⟩

instance : Inhabited (JsMap κ ν) := ⟨empty⟩

def get (m : JsMap κ ν) (k : κ) : Option ν := Entries.lookup k m.entries

def has (m : JsMap κ ν) (k : κ) : Bool := (m.get k).isSome

def set (m : JsMap κ ν) (k : κ) (v : ν) : JsMap κ ν :=
  ⟨Entries.assign k v m.entries, Entries.assign_keys_nodup k v _ m.keys_nodup⟩

def delete (m : JsMap κ ν) (k : κ) : JsMap κ ν :=
  ⟨m.entries.filter fun e => e.1 ≠ k, m.keys_nodup.sublist (List.filter_sublist.map _)⟩

/-- `for (const [k, v] of m) m.set(k, f(v))`. -/
def mapValues (m : JsMap κ ν) (f : ν → ν) : JsMap κ ν :=
  ⟨m.entries.map fun e => (e.1, f e.2), by simpa [Function.comp_def] using m.keys_nodup⟩

/-- `for (const [k, v] of m) if (!p(k, v)) m.delete(k)`. -/
def filter (m : JsMap κ ν) (p : κ → ν → Bool) : JsMap κ ν :=
  ⟨m.entries.filter fun e => p e.1 e.2, m.keys_nodup.sublist (List.filter_sublist.map _)⟩

def values (m : JsMap κ ν) : List ν := m.entries.map Prod.snd

def keys (m : JsMap κ ν) : List κ := m.entries.map Prod.fst

def size (m : JsMap κ ν) : ℕ := m.entries.length

@[simp] theorem get_empty (k : κ) : (empty : JsMap κ ν).get k = none := rfl

theorem get_set (m : JsMap κ ν) (k k' : κ) (v : ν) :
    (m.set k v).get k' = if k = k' then some v else m.get k' :=
  Entries.lookup_assign k k' v m.entries

@[simp] theorem get_set_self (m : JsMap κ ν) (k : κ) (v : ν) : (m.set k v).get k = some v := by
  simp [get_set]

theorem get_set_ne (m : JsMap κ ν) {k k' : κ} (v : ν) (h : k ≠ k') :
    (m.set k v).get k' = m.get k' := by
  simp [get_set, h]

theorem get_delete (m : JsMap κ ν) (k k' : κ) :
    (m.delete k).get k' = if k = k' then none else m.get k' :=
  Entries.lookup_filter_ne k k' m.entries

theorem get_mapValues (m : JsMap κ ν) (f : ν → ν) (k : κ) : (m.mapValues f).get k = (m.get k).map f :=
  Entries.lookup_map k f m.entries

theorem has_eq_false_iff (m : JsMap κ ν) (k : κ) : m.has k = false ↔ m.get k = none := by
  simp [has]

theorem get_eq_some_iff (m : JsMap κ ν) (k : κ) (v : ν) :
    m.get k = some v ↔ (k, v) ∈ m.entries :=
  Entries.lookup_eq_some_iff k v m.entries m.keys_nodup

theorem mem_values_iff (m : JsMap κ ν) (v : ν) : v ∈ m.values ↔ ∃ k, m.get k = some v := by
  simp only [values, List.mem_map, Prod.exists, exists_eq_right, get_eq_some_iff]

theorem mem_values_of_get {m : JsMap κ ν} {k : κ} {v : ν} (h : m.get k = some v) : v ∈ m.values :=
  (mem_values_iff m v).mpr ⟨k, h⟩

theorem mem_keys_iff (m : JsMap κ ν) (k : κ) : k ∈ m.keys ↔ ∃ v, m.get k = some v := by
  rw [← not_iff_not, not_exists]
  have hnone := Entries.lookup_eq_none_iff k m.entries
  unfold keys
  rw [← hnone]
  exact Option.eq_none_iff_forall_ne_some

omit [DecidableEq κ] in
theorem nodup_keys (m : JsMap κ ν) : m.keys.Nodup := m.keys_nodup

theorem keys_set_of_mem {m : JsMap κ ν} {k : κ} (v : ν) (h : k ∈ m.keys) : (m.set k v).keys = m.keys :=
  (Entries.keys_assign k v m.entries).trans (if_pos h)

theorem keys_set_of_not_mem {m : JsMap κ ν} {k : κ} (v : ν) (h : k ∉ m.keys) : (m.set k v).keys = m.keys ++ [k] :=
  (Entries.keys_assign k v m.entries).trans (if_neg h)

theorem values_eq (m : JsMap κ ν) : m.values = m.keys.filterMap m.get := by
  have hget : ∀ e ∈ m.entries, m.get e.1 = some e.2 := fun e he => (get_eq_some_iff m e.1 e.2).mpr he
  unfold values keys
  generalize m.entries = es at hget
  induction es with
  | nil => rfl
  | cons e es ih =>
    rw [List.map_cons, List.map_cons, List.filterMap_cons, hget e List.mem_cons_self,
      ih fun e' he' => hget e' (List.mem_cons_of_mem _ he')]

omit [DecidableEq κ] in
theorem length_values (m : JsMap κ ν) : m.values.length = m.size := by simp [values, size]

theorem get_filter {m : JsMap κ ν} {p : κ → ν → Bool} {k : κ} {v : ν} :
    (m.filter p).get k = some v ↔ m.get k = some v ∧ p k v = true := by
  rw [get_eq_some_iff, get_eq_some_iff]
  exact List.mem_filter

omit [DecidableEq κ] in
theorem size_filter_le (m : JsMap κ ν) (p : κ → ν → Bool) : (m.filter p).size ≤ m.size := List.length_filter_le _ _

theorem size_delete_le (m : JsMap κ ν) (k : κ) : (m.delete k).size ≤ m.size := List.length_filter_le _ _

theorem size_set_le (m : JsMap κ ν) (k : κ) (v : ν) : (m.set k v).size ≤ m.size + 1 := by
  have hkeys : (m.set k v).size = (m.set k v).keys.length := by simp [keys, size]
  have hold : m.size = m.keys.length := by simp [keys, size]
  rw [hkeys, hold]
  by_cases hmem : k ∈ m.keys
  · rw [keys_set_of_mem v hmem]
    omega
  · simp [keys_set_of_not_mem v hmem]

end JsMap

/-! ### The size of a set of values -/

section Distinct

variable {α : Type*} [DecidableEq α]

theorem filter_ne_of_not_mem {a : α} {as : List α} (h : a ∉ as) : as.filter (fun b => !b == a) = as := by
  rw [List.filter_eq_self]
  intro b hb
  simpa using fun heq : b = a => h (heq ▸ hb)

theorem length_eraseDups_le : ∀ as : List α, as.eraseDups.length ≤ as.length
  | [] => by simp
  | a :: as => by
    rw [List.eraseDups_cons, List.length_cons, List.length_cons]
    have hrest := length_eraseDups_le (as.filter fun b => !b == a)
    have hfilter := List.length_filter_le (fun b => !b == a) as
    omega
  termination_by as => as.length
  decreasing_by exact Nat.lt_succ_of_le (List.length_filter_le _ _)

/-- `new Set(values).size === values.length`. -/
theorem length_eraseDups_eq_iff : ∀ {as : List α}, as.eraseDups.length = as.length ↔ as.Nodup
  | [] => by simp
  | a :: as => by
    rw [List.eraseDups_cons, List.length_cons, List.length_cons, Nat.add_right_cancel_iff, List.nodup_cons]
    constructor
    · intro h
      have hrest := length_eraseDups_le (as.filter fun b => !b == a)
      have hfilter := List.length_filter_le (fun b => !b == a) as
      have hall := List.length_filter_eq_length_iff.mp (by omega : (as.filter fun b => !b == a).length = as.length)
      have hmem : a ∉ as := fun ha => by simpa using hall a ha
      rw [filter_ne_of_not_mem hmem] at h
      exact ⟨hmem, length_eraseDups_eq_iff.mp h⟩
    · rintro ⟨hmem, hnodup⟩
      rw [filter_ne_of_not_mem hmem]
      exact length_eraseDups_eq_iff.mpr hnodup

end Distinct

end Lib
