/-
# Maps built from values with distinct keys

A loop that sets each value under its own key, and fails at the second value
of a key, ends just if the keys are distinct; the map then lists the values in
their order.

Key definitions: `addUnique`, `uniqueMap`, `JsMap.Indexes`.
Key theorem: `uniqueMap_eq_ok`.
-/
import Evllm.Lib.Except
import Evllm.Lib.JsMap

namespace Lib

universe u v

theorem Entries.assign_of_not_mem {κ : Type u} {ν : Type v} [DecidableEq κ] {k : κ} (v : ν) :
    ∀ {es : List (κ × ν)}, k ∉ es.map Prod.fst → Entries.assign k v es = es ++ [(k, v)]
  | [], _ => rfl
  | (a, w) :: es, h => by
    rw [List.map_cons, List.mem_cons, not_or] at h
    rw [Entries.assign, if_neg (Ne.symm h.1), Entries.assign_of_not_mem v h.2, List.cons_append]

section Maps

variable {κ : Type u} {ν : Type v} [DecidableEq κ]

omit [DecidableEq κ] in
theorem JsMap.ext_iff {m m' : JsMap κ ν} : m = m' ↔ m.entries = m'.entries := by
  cases m
  cases m'
  simp

theorem JsMap.get_eq_none_iff (m : JsMap κ ν) (k : κ) : m.get k = none ↔ k ∉ m.keys :=
  Entries.lookup_eq_none_iff k m.entries

theorem JsMap.has_eq_true_iff (m : JsMap κ ν) (k : κ) : m.has k = true ↔ k ∈ m.keys := by
  rw [JsMap.has, JsMap.mem_keys_iff, Option.isSome_iff_exists]

theorem JsMap.entries_set_of_not_mem {m : JsMap κ ν} {k : κ} (v : ν) (h : k ∉ m.keys) :
    (m.set k v).entries = m.entries ++ [(k, v)] := Entries.assign_of_not_mem v h

end Maps

variable {ε κ α : Type u} [DecidableEq κ] (key : α → κ) (error : α → ε)

/-- The turn of the loop. -/
def addUnique (output : JsMap κ α) (a : α) : Except ε (JsMap κ α) := do
  throwIf (output.has (key a) = true) (error a)
  return output.set (key a) a

def uniqueMap (as : List α) : Except ε (JsMap κ α) := as.foldlM (addUnique key error) .empty

omit [DecidableEq κ] in
/-- The map has these values, each under its key. -/
def JsMap.Indexes (m : JsMap κ α) (as : List α) : Prop := m.entries = as.map fun a => (key a, a)

variable {key error}

section Indexes

variable {m : JsMap κ α} {as : List α}

omit [DecidableEq κ] in
theorem JsMap.Indexes.keys (h : m.Indexes key as) : m.keys = as.map key := by
  rw [JsMap.keys, h, List.map_map]
  rfl

omit [DecidableEq κ] in
theorem JsMap.Indexes.values (h : m.Indexes key as) : m.values = as := by
  rw [JsMap.values, h, List.map_map]
  exact List.map_id _

theorem JsMap.Indexes.get (h : m.Indexes key as) {k : κ} {a : α} : m.get k = some a ↔ a ∈ as ∧ key a = k := by
  rw [JsMap.get_eq_some_iff, h, List.mem_map]
  constructor
  · rintro ⟨a', hmem, heq⟩
    obtain ⟨rfl, rfl⟩ := Prod.mk.inj heq
    exact ⟨hmem, rfl⟩
  · rintro ⟨hmem, rfl⟩
    exact ⟨a, hmem, rfl⟩

theorem JsMap.Indexes.has (h : m.Indexes key as) {k : κ} : m.has k = true ↔ ∃ a ∈ as, key a = k := by
  rw [JsMap.has_eq_true_iff, h.keys, List.mem_map]

theorem JsMap.Indexes.set (h : m.Indexes key as) {a : α} (hnew : key a ∉ as.map key) :
    (m.set (key a) a).Indexes key (as ++ [a]) := by
  rw [JsMap.Indexes, JsMap.entries_set_of_not_mem a (by rwa [h.keys]), h, List.map_append]
  rfl

omit [DecidableEq κ] in
/-- Distinct keys index a list. -/
theorem exists_indexes (h : (as.map key).Nodup) : ∃ m : JsMap κ α, m.Indexes key as :=
  ⟨⟨as.map fun a => (key a, a), by simpa [Function.comp_def] using h⟩, rfl⟩

end Indexes

theorem addUnique_eq_ok {output output' : JsMap κ α} {a : α} :
    addUnique key error output a = .ok output' ↔ key a ∉ output.keys ∧ output' = output.set (key a) a := by
  simp only [addUnique, bind_eq_ok, throwIf_eq_ok, pure_eq_ok, JsMap.has_eq_true_iff]
  constructor
  · rintro ⟨_, hnew, rfl⟩
    exact ⟨hnew, rfl⟩
  · rintro ⟨hnew, rfl⟩
    exact ⟨⟨⟩, hnew, rfl⟩

/-- The loop, by induction on the values that are left. -/
theorem addAllUnique_eq_ok : ∀ {as done : List α} {output output' : JsMap κ α}, output.Indexes key done →
    (as.foldlM (addUnique key error) output = .ok output' ↔
      ((as.map key).Nodup ∧ ∀ a ∈ as, key a ∉ done.map key) ∧ output'.Indexes key (done ++ as))
  | [], done, output, output', h => by
    rw [List.foldlM_nil, pure_eq_ok, List.append_nil]
    constructor
    · rintro rfl
      exact ⟨by simp, h⟩
    · rintro ⟨-, h'⟩
      rw [JsMap.ext_iff, h, h']
  | a :: as, done, output, output', h => by
    simp only [List.foldlM_cons, bind_eq_ok, addUnique_eq_ok, h.keys]
    constructor
    · rintro ⟨_, ⟨hnew, rfl⟩, hrest⟩
      obtain ⟨⟨hnodup, hother⟩, hindexes⟩ := (addAllUnique_eq_ok (h.set hnew)).mp hrest
      have hfresh : key a ∉ as.map key := by
        intro hmem
        obtain ⟨b, hb, heq⟩ := List.mem_map.mp hmem
        exact hother b hb (by simp [heq])
      refine ⟨⟨List.nodup_cons.mpr ⟨hfresh, hnodup⟩, List.forall_mem_cons.mpr ⟨hnew, fun b hb hdone => ?_⟩⟩, ?_⟩
      · exact hother b hb (by simp [hdone])
      · rwa [List.append_assoc] at hindexes
    · rintro ⟨⟨hnodup, hall⟩, hindexes⟩
      obtain ⟨hfresh, hnodup⟩ := List.nodup_cons.mp hnodup
      obtain ⟨hnew, hother⟩ := List.forall_mem_cons.mp hall
      refine ⟨_, ⟨hnew, rfl⟩, (addAllUnique_eq_ok (h.set hnew)).mpr ⟨⟨hnodup, fun b hb hkeys => ?_⟩, ?_⟩⟩
      · rw [List.map_append, List.mem_append] at hkeys
        rcases hkeys with hkeys | hkeys
        · exact hother b hb hkeys
        · exact hfresh (List.mem_map.mpr ⟨b, hb, List.mem_singleton.mp hkeys⟩)
      · rwa [List.append_assoc]

/-- **The loop ends just if the keys are distinct.** -/
theorem uniqueMap_eq_ok {as : List α} {output : JsMap κ α} :
    uniqueMap key error as = .ok output ↔ (as.map key).Nodup ∧ output.Indexes key as := by
  have hempty : (JsMap.empty : JsMap κ α).Indexes key [] := rfl
  rw [uniqueMap, addAllUnique_eq_ok hempty]
  simp

end Lib
