/-
# The plan of the formal evaluation

`buildFormalPlan` of `src/evaluation/formal.ts` expands a corpus into the cells
of a paired design, one for every case, configuration and repetition, and
`assertExactObservationPlan` of `src/evaluation/final-integrity.ts` compares
observations with such a plan.

Key definitions: `buildFormalPlan`, `assertExactObservationPlan`.
Key theorems: `buildFormalPlan_spec`, `assertExactObservationPlan_iff`.
-/
import Evllm.Evaluation.Conditions
import Evllm.Lib.Digits
import Evllm.Lib.UniqueMap
import Mathlib.Data.List.Perm.Basic

namespace Evllm
namespace Evaluation

open Lib

/-! ### Configurations -/

/-- The id of a configuration, as the corpus and the observations write it. -/
def ModelConditionId.text : ModelConditionId → String
  | .ungroundedModel => "ungrounded-model"
  | .ordinaryRag => "ordinary-rag"
  | .governedEvllm => "governed-evllm"
  | .ablationAccessEnforcement => "ablation-access-enforcement"
  | .ablationSourceStatusIntegrity => "ablation-source-status-integrity"
  | .ablationConflictPrecondition => "ablation-conflict-precondition"
  | .ablationDeterministicRules => "ablation-deterministic-rules"
  | .ablationOutputValidation => "ablation-output-validation"

structure FormalConfiguration where
  id : ModelConditionId
  repetitions : ℕ
  modelBearing : Bool
  deriving DecidableEq, Repr

/-- `FORMAL_CONFIGURATIONS`. -/
def formalConfigurations : List FormalConfiguration :=
  [⟨.ungroundedModel, 5, true⟩, ⟨.ordinaryRag, 5, true⟩, ⟨.governedEvllm, 5, true⟩,
    ⟨.ablationAccessEnforcement, 5, true⟩, ⟨.ablationSourceStatusIntegrity, 5, true⟩,
    ⟨.ablationConflictPrecondition, 5, true⟩, ⟨.ablationDeterministicRules, 5, true⟩,
    ⟨.ablationOutputValidation, 5, true⟩]

/-! ### The plan -/

/-- What the plan reads of a case of the corpus. -/
structure CorpusCase where
  caseId : String
  applicableConditions : List String
  deriving DecidableEq, Repr

structure FormalCorpus where
  caseCount : ℕ
  cases : List CorpusCase
  deriving DecidableEq, Repr

structure FormalPlanItem where
  observationId : String
  caseId : String
  configurationId : ModelConditionId
  repetition : ℕ
  modelBearing : Bool
  deriving DecidableEq, Repr

def planItem (caseId : String) (configuration : FormalConfiguration) (repetition : ℕ) : FormalPlanItem where
  observationId := caseId ++ ":" ++ configuration.id.text ++ ":" ++ toString repetition
  caseId := caseId
  configurationId := configuration.id
  repetition := repetition
  modelBearing := configuration.modelBearing

/-- The turn of the inner loop for one configuration. -/
def planConfiguration (item : CorpusCase) (plan : List FormalPlanItem) (configuration : FormalConfiguration) :
    Except String (List FormalPlanItem) := do
  throwIf (configuration.id.text ∉ item.applicableConditions)
    (item.caseId ++ " does not permit " ++ configuration.id.text)
  return plan ++ (List.range' 1 configuration.repetitions).map (planItem item.caseId configuration)

/-- The turn of the outer loop: the ids seen so far, and the plan. -/
def planCase (seen : List String × List FormalPlanItem) (item : CorpusCase) :
    Except String (List String × List FormalPlanItem) := do
  throwIf (item.caseId ∈ seen.1) ("Duplicate case ID: " ++ item.caseId)
  let plan ← formalConfigurations.foldlM (planConfiguration item) seen.2
  return (item.caseId :: seen.1, plan)

def buildFormalPlan (corpus : FormalCorpus) : Except String (List FormalPlanItem) := do
  throwIf (corpus.caseCount ≠ corpus.cases.length) "Corpus case count mismatch"
  let (_, plan) ← corpus.cases.foldlM planCase ([], [])
  return plan

/-! ### Observations -/

/-- `EvaluationObservationCell`. -/
structure ObservationCell where
  observationId : String
  caseId : String
  repetition : ℕ
  configurationId : Option String
  deriving DecidableEq, Repr

def FormalPlanItem.cell (item : FormalPlanItem) : ObservationCell :=
  ⟨item.observationId, item.caseId, item.repetition, some item.configurationId.text⟩

def uniqueCells (label : String) (cells : List ObservationCell) : Except String (JsMap String ObservationCell) :=
  uniqueMap (·.observationId) (fun cell => label ++ " contains duplicate observation ID " ++ cell.observationId) cells

/-- `ids.join(", ") || "none"`. -/
def joinedIds (ids : List String) : String :=
  if ", ".intercalate ids = "" then "none" else ", ".intercalate ids

/-- The text of the error for one field. -/
def mismatch (label id key expected received : String) : String :=
  label ++ " observation " ++ id ++ " has a mismatched " ++ key ++ ": expected " ++ expected ++ ", received " ++ received

/-- `String(value)` of a field that may be missing. -/
def optionText (value : Option String) : String := value.getD "undefined"

/-- The turn of the loop over the expected cells, each of which was observed. -/
def checkCell (label : String) (observedById : JsMap String ObservationCell) (entry : String × ObservationCell) :
    Except String Unit :=
  match observedById.get entry.1 with
  | none => .ok ()
  | some observed => do
    throwIf (observed.caseId ≠ entry.2.caseId) (mismatch label entry.1 "case_id" entry.2.caseId observed.caseId)
    throwIf (observed.repetition ≠ entry.2.repetition)
      (mismatch label entry.1 "repetition" (toString entry.2.repetition) (toString observed.repetition))
    throwIf (observed.configurationId ≠ entry.2.configurationId)
      (mismatch label entry.1 "configuration_id" (optionText entry.2.configurationId)
        (optionText observed.configurationId))

def assertExactObservationPlan (label : String) (observations plan : List ObservationCell) : Except String Unit := do
  let expectedById ← uniqueCells (label ++ " plan") plan
  let observedById ← uniqueCells (label ++ " observations") observations
  let missing := expectedById.keys.filter fun id => ¬observedById.has id
  let unexpected := observedById.keys.filter fun id => ¬expectedById.has id
  throwIf (0 < missing.length ∨ 0 < unexpected.length)
    (label ++ " observation IDs do not match the frozen plan; missing: " ++ joinedIds missing ++ "; unexpected: " ++
      joinedIds unexpected)
  expectedById.entries.forM (checkCell label observedById)

/-! ### What the plan is -/

/-- The case permits every configuration. -/
def CorpusCase.Permits (item : CorpusCase) : Prop :=
  ∀ configuration ∈ formalConfigurations, configuration.id.text ∈ item.applicableConditions

/-- The cells of one case. -/
def caseCells (item : CorpusCase) : List FormalPlanItem :=
  formalConfigurations.flatMap fun configuration =>
    (List.range' 1 configuration.repetitions).map (planItem item.caseId configuration)

theorem planConfigurations_eq_ok {item : CorpusCase} : ∀ {configurations : List FormalConfiguration}
    {plan plan' : List FormalPlanItem}, configurations.foldlM (planConfiguration item) plan = .ok plan' ↔
      (∀ configuration ∈ configurations, configuration.id.text ∈ item.applicableConditions) ∧
        plan' = plan ++ configurations.flatMap fun configuration =>
          (List.range' 1 configuration.repetitions).map (planItem item.caseId configuration)
  | [], plan, plan' => by
    rw [List.foldlM_nil, pure_eq_ok]
    simp [eq_comm]
  | configuration :: configurations, plan, plan' => by
    simp only [List.foldlM_cons, planConfiguration, bind_eq_ok, throwIf_eq_ok, pure_eq_ok, not_not]
    constructor
    · rintro ⟨_, ⟨_, hpermits, rfl⟩, hrest⟩
      obtain ⟨hall, rfl⟩ := planConfigurations_eq_ok.mp hrest
      exact ⟨List.forall_mem_cons.mpr ⟨hpermits, hall⟩, by rw [List.flatMap_cons, List.append_assoc]⟩
    · rintro ⟨hall, rfl⟩
      obtain ⟨hpermits, hall⟩ := List.forall_mem_cons.mp hall
      refine ⟨_, ⟨⟨⟩, hpermits, rfl⟩, planConfigurations_eq_ok.mpr ⟨hall, ?_⟩⟩
      rw [List.flatMap_cons, List.append_assoc]

theorem planCase_eq_ok {item : CorpusCase} {ids : List String} {plan : List FormalPlanItem}
    {seen : List String × List FormalPlanItem} : planCase (ids, plan) item = .ok seen ↔
      (item.caseId ∉ ids ∧ item.Permits) ∧ seen = (item.caseId :: ids, plan ++ caseCells item) := by
  simp only [planCase, bind_eq_ok, throwIf_eq_ok, pure_eq_ok, planConfigurations_eq_ok]
  constructor
  · rintro ⟨_, hfresh, _, ⟨hpermits, rfl⟩, rfl⟩
    exact ⟨⟨hfresh, hpermits⟩, rfl⟩
  · rintro ⟨⟨hfresh, hpermits⟩, rfl⟩
    exact ⟨⟨⟩, hfresh, _, ⟨hpermits, rfl⟩, rfl⟩

/-- The outer loop, by induction on the cases that are left. -/
theorem planCases_eq_ok : ∀ {items : List CorpusCase} {ids : List String} {plan : List FormalPlanItem}
    {seen : List String × List FormalPlanItem}, items.foldlM planCase (ids, plan) = .ok seen ↔
      ((items.map (·.caseId)).Nodup ∧ (∀ item ∈ items, item.caseId ∉ ids) ∧ ∀ item ∈ items, item.Permits) ∧
        seen = ((items.map (·.caseId)).reverse ++ ids, plan ++ items.flatMap caseCells)
  | [], ids, plan, seen => by
    rw [List.foldlM_nil, pure_eq_ok]
    simp [eq_comm]
  | item :: items, ids, plan, seen => by
    simp only [List.foldlM_cons, bind_eq_ok, planCase_eq_ok]
    constructor
    · rintro ⟨_, ⟨⟨hfresh, hpermits⟩, rfl⟩, hrest⟩
      obtain ⟨⟨hnodup, hother, hall⟩, rfl⟩ := planCases_eq_ok.mp hrest
      have hnew : item.caseId ∉ items.map (·.caseId) := by
        intro hmem
        obtain ⟨other, hother', heq⟩ := List.mem_map.mp hmem
        exact hother other hother' (heq ▸ List.mem_cons_self)
      refine ⟨⟨List.nodup_cons.mpr ⟨hnew, hnodup⟩, ?_, List.forall_mem_cons.mpr ⟨hpermits, hall⟩⟩, ?_⟩
      · exact List.forall_mem_cons.mpr
          ⟨hfresh, fun other hmem hids => hother other hmem (List.mem_cons_of_mem _ hids)⟩
      · simp [List.append_assoc]
    · rintro ⟨⟨hnodup, hother, hall⟩, rfl⟩
      obtain ⟨hnew, hnodup⟩ := List.nodup_cons.mp hnodup
      obtain ⟨hfresh, hother⟩ := List.forall_mem_cons.mp hother
      obtain ⟨hpermits, hall⟩ := List.forall_mem_cons.mp hall
      refine ⟨_, ⟨⟨hfresh, hpermits⟩, rfl⟩, planCases_eq_ok.mpr ⟨⟨hnodup, ?_, hall⟩, by simp [List.append_assoc]⟩⟩
      intro other hmem hids
      rcases List.mem_cons.mp hids with heq | hids
      · exact hnew (List.mem_map.mpr ⟨other, hmem, heq⟩)
      · exact hother other hmem hids

theorem buildFormalPlan_eq_ok {corpus : FormalCorpus} {plan : List FormalPlanItem} :
    buildFormalPlan corpus = .ok plan ↔
      (corpus.caseCount = corpus.cases.length ∧ (corpus.cases.map (·.caseId)).Nodup ∧
        ∀ item ∈ corpus.cases, item.Permits) ∧ plan = corpus.cases.flatMap caseCells := by
  simp only [buildFormalPlan, bind_eq_ok, throwIf_eq_ok, not_not, planCases_eq_ok]
  constructor
  · rintro ⟨_, hcount, _, ⟨⟨hnodup, -, hpermits⟩, rfl⟩, hplan⟩
    exact ⟨⟨hcount, hnodup, hpermits⟩, (pure_eq_ok.mp hplan).symm⟩
  · rintro ⟨⟨hcount, hnodup, hpermits⟩, rfl⟩
    exact ⟨⟨⟩, hcount, _, ⟨⟨hnodup, by simp, hpermits⟩, rfl⟩, rfl⟩

theorem text_injective {c c' : ModelConditionId} (h : c.text = c'.text) : c = c' := by
  cases c <;> cases c' <;> first | rfl | simp [ModelConditionId.text] at h

theorem colon_not_mem_text (c : ModelConditionId) : ':' ∉ c.text.toList := by
  cases c <;> simp [ModelConditionId.text]

/-- The id of a cell tells which cell it is, whatever the id of its case. -/
theorem planItem_injective {caseId caseId' : String} {c c' : FormalConfiguration} {n n' : ℕ}
    (h : (planItem caseId c n).observationId = (planItem caseId' c' n').observationId) :
    caseId = caseId' ∧ c.id = c'.id ∧ n = n' := by
  obtain ⟨hstart, hn⟩ := append_toString_inj h
  have hlist : caseId.toList ++ ':' :: c.id.text.toList = caseId'.toList ++ ':' :: c'.id.text.toList := by
    simpa using congrArg String.toList hstart
  obtain ⟨hcase, htext⟩ := append_cons_inj (colon_not_mem_text c.id) (colon_not_mem_text c'.id) hlist
  exact ⟨String.toList_inj.mp hcase, text_injective (String.toList_inj.mp htext), hn⟩

theorem mem_caseCells {item : CorpusCase} {cell : FormalPlanItem} : cell ∈ caseCells item ↔
    ∃ c ∈ formalConfigurations, ∃ n, 1 ≤ n ∧ n ≤ c.repetitions ∧ cell = planItem item.caseId c n := by
  simp only [caseCells, List.mem_flatMap, List.mem_map, List.mem_range'_1]
  constructor
  · rintro ⟨c, hc, n, ⟨hlow, hhigh⟩, rfl⟩
    exact ⟨c, hc, n, hlow, by omega, rfl⟩
  · rintro ⟨c, hc, n, hlow, hhigh, rfl⟩
    exact ⟨c, hc, n, ⟨hlow, by omega⟩, rfl⟩

theorem caseCells_nodup (item : CorpusCase) : ((caseCells item).map (·.observationId)).Nodup := by
  have hids : (formalConfigurations.map (·.id)).Nodup := by decide
  rw [caseCells, List.map_flatMap, List.nodup_flatMap]
  constructor
  · intro c _
    rw [List.map_map]
    have hrange : (List.range' 1 c.repetitions).Nodup := List.nodup_range'
    exact hrange.map fun n n' h => (planItem_injective h).2.2
  · refine (List.pairwise_map.mp hids).imp fun hne => ?_
    intro id hid hid'
    simp only [List.map_map, List.mem_map] at hid hid'
    obtain ⟨n, -, rfl⟩ := hid
    obtain ⟨n', -, heq⟩ := hid'
    exact hne (planItem_injective heq).2.1.symm

theorem length_caseCells (item : CorpusCase) : (caseCells item).length = 40 := by
  simp [caseCells, formalConfigurations]

/-- **The plan is the paired design**: it is built just if the corpus counts its
cases, has none twice and every case permits every configuration, and it then
has every case under every configuration in every repetition, once. -/
theorem buildFormalPlan_spec (corpus : FormalCorpus) :
    ((∃ plan, buildFormalPlan corpus = .ok plan) ↔
      corpus.caseCount = corpus.cases.length ∧ (corpus.cases.map (·.caseId)).Nodup ∧
        ∀ item ∈ corpus.cases, ∀ c ∈ formalConfigurations, c.id.text ∈ item.applicableConditions) ∧
    ∀ plan, buildFormalPlan corpus = .ok plan →
      (plan.map (·.observationId)).Nodup ∧ plan.length = 40 * corpus.caseCount ∧
        ∀ cell, cell ∈ plan ↔ ∃ item ∈ corpus.cases, ∃ c ∈ formalConfigurations, ∃ n, 1 ≤ n ∧ n ≤ c.repetitions ∧
          cell = planItem item.caseId c n := by
  constructor
  · constructor
    · rintro ⟨plan, h⟩
      exact (buildFormalPlan_eq_ok.mp h).1
    · intro h
      exact ⟨_, buildFormalPlan_eq_ok.mpr ⟨h, rfl⟩⟩
  · intro plan h
    obtain ⟨⟨hcount, hnodup, -⟩, rfl⟩ := buildFormalPlan_eq_ok.mp h
    refine ⟨?_, ?_, ?_⟩
    · rw [List.map_flatMap, List.nodup_flatMap]
      refine ⟨fun item _ => caseCells_nodup item, (List.pairwise_map.mp hnodup).imp fun hne => ?_⟩
      intro id hid hid'
      obtain ⟨cell, hcell, rfl⟩ := List.mem_map.mp hid
      obtain ⟨cell', hcell', heq⟩ := List.mem_map.mp hid'
      obtain ⟨c, -, n, -, -, rfl⟩ := mem_caseCells.mp hcell
      obtain ⟨c', -, n', -, -, rfl⟩ := mem_caseCells.mp hcell'
      exact hne (planItem_injective heq).1.symm
    · rw [List.length_flatMap, hcount]
      simp [length_caseCells, Nat.mul_comm]
    · intro cell
      simp only [List.mem_flatMap, mem_caseCells]

/-! ### What the comparison accepts -/

variable {label : String}

theorem checkCell_eq_ok {observedById : JsMap String ObservationCell} {id : String} {observed expected : ObservationCell}
    (hget : observedById.get id = some observed) (hid : observed.observationId = expected.observationId) :
    checkCell label observedById (id, expected) = .ok ⟨⟩ ↔ observed = expected := by
  simp only [checkCell, hget, bind_eq_ok, throwIf_eq_ok, not_not]
  constructor
  · rintro ⟨_, hcase, _, hrepetition, hconfiguration⟩
    cases observed
    cases expected
    simp_all
  · rintro rfl
    exact ⟨⟨⟩, rfl, ⟨⟩, rfl, rfl⟩

/-- **The comparison accepts just the plan**: the ids of the plan are distinct,
and the observations are its cells, each once, in any order. -/
theorem assertExactObservationPlan_iff (label : String) (observations plan : List ObservationCell) :
    assertExactObservationPlan label observations plan = .ok ⟨⟩ ↔
      (plan.map (·.observationId)).Nodup ∧ observations.Perm plan := by
  simp only [assertExactObservationPlan, uniqueCells, bind_eq_ok, throwIf_eq_ok, uniqueMap_eq_ok, forM_eq_ok, not_or,
    not_lt, Nat.le_zero, List.length_eq_zero_iff, List.filter_eq_nil_iff, decide_eq_true_eq, not_not]
  constructor
  · rintro ⟨expectedById, ⟨hplan, hexpected⟩, observedById, ⟨hnodup, hobserved⟩, _, ⟨hmissing, hunexpected⟩, hcells⟩
    have hsame : ∀ observed ∈ observations, ∀ expected ∈ plan,
        observed.observationId = expected.observationId → observed = expected := by
      intro observed hmem expected hmem' hid
      have hget := hobserved.get.mpr ⟨hmem, hid⟩
      refine (checkCell_eq_ok hget hid).mp (hcells (expected.observationId, expected) ?_)
      rw [hexpected]
      exact List.mem_map_of_mem hmem'
    rw [hexpected.keys] at hmissing
    rw [hobserved.keys] at hunexpected
    refine ⟨hplan, (List.perm_ext_iff_of_nodup hnodup.of_map hplan.of_map).mpr fun cell => ⟨fun hmem => ?_, fun hmem => ?_⟩⟩
    · obtain ⟨expected, hmem', hid⟩ := hexpected.has.mp (hunexpected _ (List.mem_map_of_mem hmem))
      rwa [hsame cell hmem expected hmem' hid.symm]
    · obtain ⟨observed, hmem', hid⟩ := hobserved.has.mp (hmissing _ (List.mem_map_of_mem hmem))
      rwa [← hsame observed hmem' cell hmem hid]
  · rintro ⟨hplan, hperm⟩
    have hnodup : (observations.map (·.observationId)).Nodup := (hperm.map _).nodup_iff.mpr hplan
    obtain ⟨expectedById, hexpected⟩ := exists_indexes hplan
    obtain ⟨observedById, hobserved⟩ := exists_indexes hnodup
    refine ⟨expectedById, ⟨hplan, hexpected⟩, observedById, ⟨hnodup, hobserved⟩, ⟨⟩, ⟨?_, ?_⟩, ?_⟩
    · rw [hexpected.keys]
      intro id hid
      obtain ⟨cell, hmem, rfl⟩ := List.mem_map.mp hid
      exact hobserved.has.mpr ⟨cell, hperm.mem_iff.mpr hmem, rfl⟩
    · rw [hobserved.keys]
      intro id hid
      obtain ⟨cell, hmem, rfl⟩ := List.mem_map.mp hid
      exact hexpected.has.mpr ⟨cell, hperm.mem_iff.mp hmem, rfl⟩
    · rw [hexpected]
      intro entry hentry
      obtain ⟨cell, hmem, rfl⟩ := List.mem_map.mp hentry
      have hget := hobserved.get.mpr ⟨hperm.mem_iff.mpr hmem, rfl⟩
      exact (checkCell_eq_ok hget rfl).mpr rfl

end Evaluation
end Evllm
