/-
# Batteries and their components

A subject is a pack, which is its own root, or a module or a cell one level
below its parent, with its parent's root. `registerComponent` refuses the id of
a subject; `registerBattery` and `acceptInitialOwnership` refuse only the id of
a battery, so a component can be registered again as a pack, which takes it and
everything below it out of the hierarchy.

`Separate` says when that does not happen. In every run of such calls the
subjects form a hierarchy and no subject is ever changed
(`subject_hierarchy`).

Key definitions: `Hierarchy`, `Separate`.
Key theorems: `change_hierarchy`, `subject_hierarchy`.
-/
import Evllm.Contracts.OwnershipHistory

namespace Evllm
namespace Contracts

open Lib Function

/-- A registered subject: a pack, or a component one level below its parent. -/
inductive Placed (r : BatteryOwnershipRegistry) (id : Bytes32) : Prop
  | pack (granularity : (r.subjects id).granularity = .pack) (parentId : (r.subjects id).parentId = 0)
      (root : (r.subjects id).rootBatteryId = id) (battery : (r.batteries id).registered = true)
  | component (granularity : (r.subjects id).granularity ≠ .pack)
      (parent : (r.subjects (r.subjects id).parentId).registered = true)
      (below : (r.subjects id).granularity.toNat = (r.subjects (r.subjects id).parentId).granularity.toNat + 1)
      (root : (r.subjects id).rootBatteryId = (r.subjects (r.subjects id).parentId).rootBatteryId)
      (battery : (r.batteries (r.subjects id).rootBatteryId).registered = true)

def Hierarchy (r : BatteryOwnershipRegistry) : Prop := ∀ id, (r.subjects id).registered = true → Placed r id

/-- The call registers no component as a battery. -/
def Separate (r : BatteryOwnershipRegistry) (call : Msg × OwnershipOp) : Prop :=
  ∀ id, call.2.registers r call.1 = some id → (r.subjects id).registered = true → (r.batteries id).registered = true

theorem deployed_hierarchy (governance : Address) : Hierarchy (.deployed governance) := by
  intro id h
  simp [BatteryOwnershipRegistry.deployed] at h

section Changes

variable {r r' : BatteryOwnershipRegistry} {msg : Msg} {op : OwnershipOp}

/-- What was written of subjects and batteries stays, and `id` is placed as before. -/
theorem Placed.of_kept {id : Bytes32} (h : Placed r id) (hself : r'.subjects id = r.subjects id)
    (hsubjects : ∀ x, (r.subjects x).registered = true → r'.subjects x = r.subjects x)
    (hbatteries : ∀ x, (r.batteries x).registered = true → (r'.batteries x).registered = true) : Placed r' id := by
  cases h with
  | pack granularity parentId root battery =>
    exact .pack (by rw [hself, granularity]) (by rw [hself, parentId]) (by rw [hself, root]) (hbatteries id battery)
  | component granularity parent below root battery =>
    have hparent := hsubjects _ parent
    refine .component (by rwa [hself]) ?_ ?_ ?_ ?_
    · rw [hself, hparent, parent]
    · rw [hself, hparent, below]
    · rw [hself, hparent, root]
    · rw [hself]
      exact hbatteries _ battery

/-- A call that registers no component as a battery keeps every subject. -/
theorem change_subject {id : Bytes32} (hseparate : Separate r (msg, op)) (h : OwnershipChange msg op r r')
    (hr : (r.subjects id).registered = true) : r'.subjects id = r.subjects id := by
  cases h with
  | configured _ subjects | proposed _ _ _ _ _ subjects | closed _ _ _ _ _ subjects | locked _ _ _ subjects
  | transferred _ _ _ _ subjects => rw [subjects]
  | registered x owner named fresh _ subjects =>
    have hne : id ≠ x := by
      rintro rfl
      rw [hseparate id named hr] at fresh
      cases fresh
    rw [subjects, update_of_ne hne]
  | component x parentId granularity fresh _ _ subjects =>
    have hne : id ≠ x := by
      rintro rfl
      rw [hr] at fresh
      cases fresh
    rw [subjects, update_of_ne hne]

/-- The root of a registered subject is a registered battery. -/
theorem Hierarchy.root {id : Bytes32} (h : Hierarchy r) (hid : (r.subjects id).registered = true) :
    (r.batteries (r.subjects id).rootBatteryId).registered = true := by
  cases h id hid with
  | pack _ _ root battery =>
    rw [root]
    exact battery
  | component _ _ _ _ battery => exact battery

theorem change_hierarchy (hseparate : Separate r (msg, op)) (h : OwnershipChange msg op r r') (hr : Hierarchy r) :
    Hierarchy r' := by
  have hsubjects : ∀ x, (r.subjects x).registered = true → r'.subjects x = r.subjects x :=
    fun x => change_subject hseparate h
  have hbatteries : ∀ x, (r.batteries x).registered = true → (r'.batteries x).registered = true :=
    fun x => change_registered h
  have hold : ∀ x, (r.subjects x).registered = true → Placed r' x :=
    fun x hx => (hr x hx).of_kept (hsubjects x hx) hsubjects hbatteries
  intro id hid
  cases h with
  | configured _ subjects | proposed _ _ _ _ _ subjects | closed _ _ _ _ _ subjects | locked _ _ _ subjects
  | transferred _ _ _ _ subjects => exact hold id (by rwa [subjects] at hid)
  | registered x owner named fresh batteries subjects =>
    by_cases hx : id = x
    · have hself : r'.subjects id = ⟨0, id, .pack, true⟩ := by rw [subjects, hx, update_self]
      refine .pack (by rw [hself]) (by rw [hself]) (by rw [hself]) ?_
      rw [batteries, hx, update_self]
    · rw [subjects, update_of_ne hx] at hid
      exact hold id hid
  | component x parentId granularity fresh parent below subjects =>
    by_cases hx : id = x
    · have hself : r'.subjects id = ⟨parentId, (r.subjects parentId).rootBatteryId, granularity, true⟩ := by
        rw [subjects, hx, update_self]
      have hparent := hsubjects parentId parent
      refine .component ?_ ?_ ?_ ?_ ?_
      · rw [hself]
        rintro rfl
        simp [SubjectGranularity.toNat] at below
      · rw [hself, hparent, parent]
      · rw [hself, hparent, below]
      · rw [hself, hparent]
      · rw [hself]
        exact hbatteries _ (hr.root parent)
    · rw [subjects, update_of_ne hx] at hid
      exact hold id hid

end Changes

/-! ### Every run of separate calls -/

theorem guarded_hierarchy {r : BatteryOwnershipRegistry} {ls : List (Msg × OwnershipOp)}
    (hguard : Guarded (attempt ownershipCall) Separate r ls) (hr : Hierarchy r) :
    Hierarchy (run (attempt ownershipCall) r ls) ∧
      ∀ id, (r.subjects id).registered = true → (run (attempt ownershipCall) r ls).subjects id = r.subjects id := by
  refine run_guarded (I := fun r' => Hierarchy r' ∧ ∀ id, (r.subjects id).registered = true →
    r'.subjects id = r.subjects id) (fun s call hseparate hs => ?_) ls hguard ⟨hr, fun _ _ => rfl⟩
  obtain heq | ⟨s', hok, heq⟩ := attempt_cases ownershipCall s call
  · rwa [heq]
  · have hchange := ownership_change hok
    rw [heq]
    refine ⟨change_hierarchy hseparate hchange hs.1, fun id hid => ?_⟩
    have hsame := hs.2 id hid
    rw [change_subject hseparate hchange (by rw [hsame, hid]), hsame]

/-- **Subjects form a hierarchy**, and a registered subject never changes, in
every run in which no component is registered as a battery. -/
theorem subject_hierarchy (governance : Address) (ls ms : List (Msg × OwnershipOp))
    (hguard : Guarded (attempt ownershipCall) Separate (.deployed governance) (ls ++ ms)) :
    Hierarchy (ownershipAfter governance ls) ∧
      ∀ id, ((ownershipAfter governance ls).subjects id).registered = true →
        (ownershipAfter governance (ls ++ ms)).subjects id = (ownershipAfter governance ls).subjects id := by
  obtain ⟨hbefore, hafter⟩ := (guarded_append ls ms _).mp hguard
  have hhierarchy := (guarded_hierarchy hbefore (deployed_hierarchy governance)).1
  have hlater : ownershipAfter governance (ls ++ ms) = run (attempt ownershipCall) (ownershipAfter governance ls) ms :=
    run_append _ _ ls ms
  rw [hlater]
  exact ⟨hhierarchy, (guarded_hierarchy hafter hhierarchy).2⟩

/-! ### A component that becomes a pack -/

/-- A pack, a module of it and a cell of that. -/
def threeSubjects : List (Msg × OwnershipOp) :=
  [(⟨1, 0⟩, .setRegistrar 1 true), (⟨1, 1⟩, .registerBattery 1 1), (⟨1, 2⟩, .registerComponent 2 1 .module),
    (⟨1, 3⟩, .registerComponent 3 2 .cell)]

theorem component_registered_as_pack :
    (ownershipAfter 1 threeSubjects).subjects 2 = ⟨1, 1, .module, true⟩ ∧
    (ownershipAfter 1 (threeSubjects ++ [(⟨1, 4⟩, .registerBattery 2 1)])).subjects 2 = ⟨0, 2, .pack, true⟩ ∧
    ¬Hierarchy (ownershipAfter 1 (threeSubjects ++ [(⟨1, 4⟩, .registerBattery 2 1)])) := by
  refine ⟨rfl, rfl, fun h => ?_⟩
  cases h 3 rfl with
  | pack granularity => cases granularity
  | component _ _ below => cases below

theorem subject_hierarchy_three : Hierarchy (ownershipAfter 1 (threeSubjects.take 3)) ∧
    (ownershipAfter 1 threeSubjects).subjects 2 = (ownershipAfter 1 (threeSubjects.take 3)).subjects 2 := by
  have hguard : Guarded (attempt ownershipCall) Separate (.deployed 1) (threeSubjects.take 3 ++ threeSubjects.drop 3) := by
    refine ⟨nofun, ?_, nofun, nofun, trivial⟩
    intro id hid
    obtain rfl : (1 : Bytes32) = id := Option.some.inj hid
    exact nofun
  have hmain := subject_hierarchy 1 (threeSubjects.take 3) (threeSubjects.drop 3) hguard
  exact ⟨hmain.1, hmain.2 2 rfl⟩

end Contracts
end Evllm
