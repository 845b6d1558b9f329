/-
# Maps of objects up to their addresses

Two maps of mutable objects are alike if the same keys lead to equal objects,
though the objects live at other addresses and the keys may stand in another
order. `Alike le ρ m m'` says so of two maps: `ρ` relates an address of one to
the address of the same object in the other, also of an object that is stored
under no key any more, and is one to one. Storing a new object under the same
key in both, or changing related objects in place, keeps maps alike.

Of the order of the keys no more is asked than that keys which tie in `le`
stand in the same order, so that sorting the values shows no difference.

Key definitions: `ObjectMap.Alike`, `ObjectMap.insertAll`, `JsMap.setAll`.
Key theorems: `Alike.get`, `Alike.insert`, `Alike.mutate`, `Alike.of_get`,
`Alike.sorted_values`, `get_fill`, `keys_fill`, `ObjectMap.alike_refilled`,
`JsMap.same_refilled`.
-/
import Evllm.Lib.ObjectMap
import Evllm.Lib.StableSort

namespace Lib

universe u v

variable {κ : Type u} {α : Type v} [DecidableEq κ]

namespace ObjectMap

structure Alike (le : κ → κ → Prop) [DecidableRel le] (ρ : Ref → Ref → Prop) (m m' : ObjectMap κ α) : Prop where
  ref : ∀ k, Option.Rel ρ (m.ref k) (m'.ref k)
  object : ∀ r r', ρ r r' → ∃ a, m.deref r = some a ∧ m'.deref r' = some a
  unique : ∀ r s s', ρ r s → ρ r s' → s = s'
  injective : ∀ r r' s, ρ r s → ρ r' s → r = r'
  ties : SameTies le m.keys m'.keys

/-- The addresses of `ρ` and those of two new objects. -/
def withNew (ρ : Ref → Ref → Prop) (m m' : ObjectMap κ α) (r r' : Ref) : Prop :=
  ρ r r' ∨ r = m.heap.length ∧ r' = m'.heap.length

theorem lt_of_deref {m : ObjectMap κ α} {r : Ref} {a : α} (h : m.deref r = some a) : r < m.heap.length :=
  (List.getElem?_eq_some_iff.mp h).1

section Alike

variable {le : κ → κ → Prop} [DecidableRel le] {ρ : Ref → Ref → Prop} {m m' : ObjectMap κ α}

theorem Alike.deref (h : Alike le ρ m m') {r r' : Ref} (hr : ρ r r') : m.deref r = m'.deref r' := by
  obtain ⟨a, ha, ha'⟩ := h.object r r' hr
  rw [ha, ha']

theorem Alike.get (h : Alike le ρ m m') (k : κ) : m.get k = m'.get k := by
  have hrel := h.ref k
  unfold ObjectMap.get
  generalize m.ref k = x at hrel
  generalize m'.ref k = y at hrel
  cases hrel with
  | none => rfl
  | some hr => exact h.deref hr

theorem Alike.has (h : Alike le ρ m m') (k : κ) : m.has k = m'.has k := by
  rw [Bool.eq_iff_iff, ← not_iff_not, Bool.not_eq_true, Bool.not_eq_true, has_eq_false_iff, has_eq_false_iff, h.get k]

theorem Alike.mem_keys_iff (h : Alike le ρ m m') {k : κ} : k ∈ m.keys ↔ k ∈ m'.keys := by
  rw [m.mem_keys_iff, m'.mem_keys_iff, h.get k]

/-- Both hold the same objects. -/
theorem Alike.values_perm (h : Alike le ρ m m') : m.values.Perm m'.values := by
  have hget : m.get = m'.get := funext h.get
  have hkeys : m.keys.Perm m'.keys := (List.perm_ext_iff_of_nodup m.nodup_keys m'.nodup_keys).mpr fun k => h.mem_keys_iff
  rw [values_eq, values_eq, hget]
  exact hkeys.filterMap _

theorem Alike.insert (h : Alike le ρ m m') (k : κ) (a : α) :
    Alike le (withNew ρ m m') (m.insert k a) (m'.insert k a) := by
  have hlt : ∀ r r', ρ r r' → r < m.heap.length ∧ r' < m'.heap.length := by
    intro r r' hr
    obtain ⟨b, hb, hb'⟩ := h.object r r' hr
    exact ⟨lt_of_deref hb, lt_of_deref hb'⟩
  refine ⟨fun k' => ?_, fun r r' hr => ?_, fun r s s' hs hs' => ?_, fun r r' s hr hr' => ?_, ?_⟩
  · rw [ref_insert, ref_insert]
    split_ifs
    · exact .some (.inr ⟨rfl, rfl⟩)
    · have hold := h.ref k'
      generalize m.ref k' = x at hold
      generalize m'.ref k' = y at hold
      cases hold with
      | none => exact .none
      | some hr => exact .some (.inl hr)
  · obtain hr | ⟨rfl, rfl⟩ := hr
    · obtain ⟨b, hb, hb'⟩ := h.object r r' hr
      exact ⟨b, deref_insert_of_some m hb a, deref_insert_of_some m' hb' a⟩
    · exact ⟨a, deref_insert_new m, deref_insert_new m'⟩
  · obtain hs | ⟨rfl, rfl⟩ := hs <;> obtain hs' | ⟨hr, rfl⟩ := hs'
    · exact h.unique r s s' hs hs'
    · exact absurd hr (Nat.ne_of_lt (hlt r s hs).1)
    · exact absurd rfl (Nat.ne_of_lt (hlt _ _ hs').1)
    · rfl
  · obtain hr | ⟨rfl, rfl⟩ := hr <;> obtain hr' | ⟨rfl, hs⟩ := hr'
    · exact h.injective r r' s hr hr'
    · exact absurd hs (Nat.ne_of_lt (hlt r s hr).2)
    · exact absurd rfl (Nat.ne_of_lt (hlt _ _ hr').2)
    · rfl
  · rw [keys_insert, keys_insert]
    by_cases hk : k ∈ m.keys
    · rw [if_pos hk, if_pos (h.mem_keys_iff.mp hk)]
      exact h.ties
    · rw [if_neg hk, if_neg (fun hk' => hk (h.mem_keys_iff.mpr hk'))]
      exact h.ties.append [k]

theorem Alike.mutate (h : Alike le ρ m m') {r r' : Ref} (hr : ρ r r') (f : α → α) :
    Alike le ρ (m.mutate r f) (m'.mutate r' f) := by
  refine ⟨h.ref, fun s s' hs => ?_, h.unique, h.injective, h.ties⟩
  obtain ⟨a, ha, ha'⟩ := h.object s s' hs
  have hiff : r = s ↔ r' = s' := by
    constructor
    · rintro rfl
      exact h.unique r r' s' hr hs
    · rintro rfl
      exact h.injective r s r' hr hs
  rw [deref_mutate, deref_mutate, ha, ha']
  by_cases hrs : r = s
  · rw [if_pos hrs, if_pos (hiff.mp hrs)]
    exact ⟨f a, rfl, rfl⟩
  · rw [if_neg hrs, if_neg fun hrs' => hrs (hiff.mpr hrs')]
    exact ⟨a, rfl, rfl⟩

/-- The two maps store under the same key. -/
def underSameKey (m m' : ObjectMap κ α) (r r' : Ref) : Prop := ∃ k, m.ref k = some r ∧ m'.ref k = some r'

/-- Maps with equal objects under the same keys are alike. -/
theorem Alike.of_get (h : ∀ k, m.get k = m'.get k) (hties : SameTies le m.keys m'.keys) :
    Alike le (underSameKey m m') m m' := by
  refine ⟨fun k => ?_, ?_, ?_, ?_, hties⟩
  · cases hr : m.ref k with
    | none =>
      have hnone : m'.ref k = none := by
        rw [← get_eq_none_iff, ← h k, get_eq_none_iff, hr]
      rw [hnone]
      exact .none
    | some r =>
      obtain ⟨a, ha⟩ := m.deref_of_ref hr
      have hget : m'.get k = some a := by rw [← h k, get_eq_deref m hr, ha]
      obtain ⟨r', hr', -⟩ := m'.get_eq_some_iff.mp hget
      rw [hr']
      exact .some ⟨k, hr, hr'⟩
  · rintro r r' ⟨k, hr, hr'⟩
    obtain ⟨a, ha⟩ := m.deref_of_ref hr
    refine ⟨a, ha, ?_⟩
    rw [← get_eq_deref m' hr', ← h k, get_eq_deref m hr, ha]
  · rintro r s s' ⟨k, hr, hs⟩ ⟨k', hr', hs'⟩
    obtain rfl := m.injective k k' r hr hr'
    exact Option.some.inj (hs.symm.trans hs')
  · rintro r r' s ⟨k, hr, hs⟩ ⟨k', hr', hs'⟩
    obtain rfl := m'.injective k k' s hs hs'
    exact Option.some.inj (hr.symm.trans hr')

/-- Sorted by their keys, the objects of both are the same list. -/
theorem Alike.sorted_values [Std.Total le] [IsTrans κ le] (h : Alike le ρ m m') {id : α → κ} (hnamed : Named id m)
    {leα : α → α → Prop} [DecidableRel leα] (hle : ∀ a b, leα a b ↔ le (id a) (id b)) :
    m.values.insertionSort leα = m'.values.insertionSort leα := by
  have hget : m'.get = m.get := funext fun k => (h.get k).symm
  rw [values_eq, values_eq, hget]
  exact insertionSort_filterMap h.ties (fun k hk => m.mem_keys_iff.mp hk) hnamed hle

end Alike

/-- Each object is stored under the key that `id` reads off it. -/
def insertAll (id : α → κ) (m : ObjectMap κ α) (as : List α) : ObjectMap κ α := as.foldl (fun m a => m.insert (id a) a) m

end ObjectMap

/-- Each value is stored under the key that `id` reads off it. -/
def JsMap.setAll (id : α → κ) (m : JsMap κ α) (as : List α) : JsMap κ α := as.foldl (fun m a => m.set (id a) a) m

/-! ### A map filled from a list

Of the map no more is used than what `put` does to its lookups and to the
order of its keys. -/

section Fill

variable {μ : Type*} {get : μ → κ → Option α} {put : μ → α → μ} {keys : μ → List κ} {id : α → κ}

theorem get_fill (hput : ∀ m a k, get (put m a) k = if id a = k then some a else get m k) :
    ∀ {as : List α} {m : μ} {k : κ} {a : α}, (as.map id).Nodup → (∀ a ∈ as, get m (id a) = none) →
    (get (as.foldl put m) k = some a ↔ get m k = some a ∨ a ∈ as ∧ id a = k)
  | [], m, k, a, _, _ => by simp
  | b :: as, m, k, a, hnodup, hnew => by
    rw [List.map_cons, List.nodup_cons] at hnodup
    have hfresh : ∀ c ∈ as, get (put m b) (id c) = none := by
      intro c hc
      have hne : id b ≠ id c := fun heq => hnodup.1 (heq ▸ List.mem_map_of_mem hc)
      rw [hput, if_neg hne, hnew c (List.mem_cons_of_mem b hc)]
    have ih := get_fill hput (k := k) (a := a) hnodup.2 hfresh
    rw [List.foldl_cons, ih, hput, List.mem_cons]
    split_ifs with hk
    · subst hk
      rw [hnew b List.mem_cons_self]
      constructor
      · rintro (hb | ⟨ha, hid⟩)
        · cases hb
          exact .inr ⟨.inl rfl, rfl⟩
        · exact .inr ⟨.inr ha, hid⟩
      · rintro (hb | ⟨rfl | ha, hid⟩)
        · cases hb
        · exact .inl rfl
        · exact .inr ⟨ha, hid⟩
    · constructor
      · rintro (hget | ⟨ha, hid⟩)
        · exact .inl hget
        · exact .inr ⟨.inr ha, hid⟩
      · rintro (hget | ⟨rfl | ha, hid⟩)
        · exact .inl hget
        · exact absurd hid hk
        · exact .inr ⟨ha, hid⟩

omit [DecidableEq κ] in
theorem keys_fill (hput : ∀ m a, id a ∉ keys m → keys (put m a) = keys m ++ [id a]) :
    ∀ {as : List α} {m : μ}, (as.map id).Nodup → (∀ a ∈ as, id a ∉ keys m) →
    keys (as.foldl put m) = keys m ++ as.map id
  | [], m, _, _ => by simp
  | b :: as, m, hnodup, hnew => by
    rw [List.map_cons, List.nodup_cons] at hnodup
    have hkeys := hput m b (hnew b List.mem_cons_self)
    have hfresh : ∀ c ∈ as, id c ∉ keys (put m b) := by
      intro c hc hmem
      rw [hkeys, List.mem_append, List.mem_singleton] at hmem
      obtain hmem | heq := hmem
      · exact hnew c (List.mem_cons_of_mem b hc) hmem
      · exact hnodup.1 (heq ▸ List.mem_map_of_mem hc)
    rw [List.foldl_cons, keys_fill hput hnodup.2 hfresh, hkeys, List.append_assoc]
    rfl

end Fill

/-- From nothing, the map finds what the list holds, and its keys stand in the
order of the list. -/
theorem ObjectMap.insertAll_empty {id : α → κ} {as : List α} (h : (as.map id).Nodup) :
    (∀ k a, (insertAll id empty as).get k = some a ↔ a ∈ as ∧ id a = k) ∧ (insertAll id empty as).keys = as.map id := by
  have hput : ∀ (m : ObjectMap κ α) a k, (m.insert (id a) a).get k = if id a = k then some a else m.get k :=
    fun m a k => m.get_insert
  have hkeys : ∀ (m : ObjectMap κ α) a, id a ∉ m.keys → (m.insert (id a) a).keys = m.keys ++ [id a] :=
    fun m a ha => m.keys_insert.trans (if_neg ha)
  refine ⟨fun k a => ?_, keys_fill hkeys (m := empty) h fun _ _ hmem => (nomatch hmem)⟩
  simpa [insertAll] using get_fill hput (m := empty) (k := k) (a := a) h fun _ _ => rfl

theorem JsMap.setAll_empty {id : α → κ} {as : List α} (h : (as.map id).Nodup) :
    (∀ k a, (setAll id empty as).get k = some a ↔ a ∈ as ∧ id a = k) ∧ (setAll id empty as).keys = as.map id := by
  have hput : ∀ (m : JsMap κ α) a k, (m.set (id a) a).get k = if id a = k then some a else m.get k :=
    fun m a k => m.get_set (id a) k a
  have hkeys : ∀ (m : JsMap κ α) a, id a ∉ m.keys → (m.set (id a) a).keys = m.keys ++ [id a] :=
    fun m a ha => JsMap.keys_set_of_not_mem a ha
  refine ⟨fun k a => ?_, keys_fill hkeys (m := empty) h fun _ _ hmem => (nomatch hmem)⟩
  simpa [setAll] using get_fill hput (m := empty) (k := k) (a := a) h fun _ _ => rfl

/-! ### A map filled from its own sorted values -/

section Refill

variable {id : α → κ} (le : κ → κ → Prop) [DecidableRel le] {leα : α → α → Prop} [DecidableRel leα]

omit [DecidableEq κ] in
theorem map_filterMap {g : κ → Option α} : ∀ {ks : List κ}, (∀ k ∈ ks, ∃ a, g k = some a) →
    (∀ k a, g k = some a → id a = k) → (ks.filterMap g).map id = ks
  | [], _, _ => rfl
  | k :: ks, h, hid => by
    obtain ⟨a, ha⟩ := h k List.mem_cons_self
    rw [List.filterMap_cons, ha, List.map_cons, hid k a ha,
      map_filterMap (fun k' hk' => h k' (List.mem_cons_of_mem k hk')) hid]

omit [DecidableEq κ] in
/-- The ids of the sorted values are the sorted keys. -/
theorem map_sorted {as : List α} {ks : List κ} (has : as.map id = ks) (hle : ∀ a b, leα a b ↔ le (id a) (id b)) :
    (as.insertionSort leα).map id = ks.insertionSort le := by
  rw [List.map_insertionSort leα le id as fun a _ b _ => hle a b, has]

omit [DecidableEq κ] in
theorem nodup_sorted {as : List α} {ks : List κ} (has : as.map id = ks) (hks : ks.Nodup)
    (hle : ∀ a b, leα a b ↔ le (id a) (id b)) : ((as.insertionSort leα).map id).Nodup := by
  rw [map_sorted le has hle]
  exact (List.perm_insertionSort le ks).nodup_iff.mpr hks

variable [IsTrans κ le]

theorem ObjectMap.map_values {m : ObjectMap κ α} (hnamed : Named id m) : m.values.map id = m.keys := by
  rw [values_eq]
  exact map_filterMap (fun k hk => m.mem_keys_iff.mp hk) hnamed

theorem ObjectMap.alike_refilled {m : ObjectMap κ α} (hnamed : Named id m) (hle : ∀ a b, leα a b ↔ le (id a) (id b)) :
    Alike le (underSameKey m (insertAll id empty (m.values.insertionSort leα))) m
      (insertAll id empty (m.values.insertionSort leα)) := by
  obtain ⟨hget, hkeys⟩ := insertAll_empty (nodup_sorted le (map_values hnamed) m.nodup_keys hle)
  refine .of_get (fun k => Option.ext fun a => ?_) ?_
  · rw [hget k a, List.mem_insertionSort, m.mem_values_iff]
    constructor
    · intro ha
      exact ⟨⟨k, ha⟩, hnamed k a ha⟩
    · rintro ⟨⟨k', ha⟩, rfl⟩
      rwa [hnamed k' a ha]
  · rw [hkeys, map_sorted le (map_values hnamed) hle]
    exact (sameTies_insertionSort m.keys).symm

theorem JsMap.map_values {m : JsMap κ α} (hnamed : ∀ k a, m.get k = some a → id a = k) : m.values.map id = m.keys := by
  rw [values_eq]
  exact map_filterMap (fun k hk => (m.mem_keys_iff k).mp hk) hnamed

theorem JsMap.same_refilled {m : JsMap κ α} (hnamed : ∀ k a, m.get k = some a → id a = k)
    (hle : ∀ a b, leα a b ↔ le (id a) (id b)) :
    (∀ k, m.get k = (setAll id empty (m.values.insertionSort leα)).get k) ∧
      SameTies le m.keys (setAll id empty (m.values.insertionSort leα)).keys := by
  obtain ⟨hget, hkeys⟩ := setAll_empty (nodup_sorted le (map_values hnamed) m.nodup_keys hle)
  refine ⟨fun k => Option.ext fun a => ?_, ?_⟩
  · rw [hget k a, List.mem_insertionSort, m.mem_values_iff]
    constructor
    · intro ha
      exact ⟨⟨k, ha⟩, hnamed k a ha⟩
    · rintro ⟨⟨k', ha⟩, rfl⟩
      rwa [hnamed k' a ha]
  · rw [hkeys, map_sorted le (map_values hnamed) hle]
    exact (sameTies_insertionSort m.keys).symm

end Refill

end Lib
