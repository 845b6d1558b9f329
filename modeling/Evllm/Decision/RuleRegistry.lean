/-
# The registry of dated rules

`src/decision/rules.ts`: authoritative sources and the rules that rest on them,
both versioned, in two maps under the text `id:version`. A source moves between
lifecycles; when it leaves the active one, every active rule with a clause of
it is disabled. `selectRule` takes the highest version in force and refuses if
one of its sources is not active or is due for review, without trying an older
version.

Key definitions: `DatedRuleRegistry`, `registerSource`, `transitionSource`,
`registerRule`, `selectRule`, `Operation`, `after`.
Key theorems: `versionKey_inj`, `sound_step`, `onward_step`,
`no_rule_on_dead_source`.
-/
import Evllm.Decision.Assessment
import Evllm.Lib.Digits
import Evllm.Lib.JsMap
import Evllm.Lib.JsString
import Evllm.Lib.Run

namespace Evllm
namespace Decision

open Lib

/-! ### Records -/

inductive SourceLifecycle where
  | pending
  | active
  | unavailable
  | superseded
  | withdrawn
  | expired
  deriving DecidableEq, Repr

inductive RuleStatus where
  | pending
  | active
  | disabled
  | superseded
  | retired
  deriving DecidableEq, Repr

inductive SourceClass where
  | legal
  | technical
  deriving DecidableEq, Repr

inductive AccessState where
  | publicAccess
  | licensed
  | metadataOnly
  deriving DecidableEq, Repr

inductive LicenceState where
  | permitted
  | restricted
  | unavailable
  deriving DecidableEq, Repr

structure VersionedRef where
  id : String
  version : ℕ
  deriving DecidableEq, Repr

/-- `authoritativeSource`, but for the constant `schema`. -/
structure SourceRecord where
  sourceId : String
  sourceVersion : ℕ
  predecessorSourceVersion : Option ℕ
  successorSourceVersion : Option ℕ
  publicMetadataRef : Option VersionedRef
  licensedPayloadRef : Option VersionedRef
  domainSignatureRecordId : Option String
  sourceClass : SourceClass
  accessState : AccessState
  licenceState : LicenceState
  reviewDueAt : ℕ
  lifecycle : SourceLifecycle
  transitionActorId : String
  transitionReason : String
  effectiveAt : ℕ
  reviewedAt : ℕ
  permittedRuleIds : List String
  dependentRuleIds : List String
  deriving DecidableEq, Repr

/-- `ruleProfile`, but for the constant `schema`. -/
structure RuleRecord where
  ruleId : String
  ruleVersion : ℕ
  sourceClauses : List VersionedRef
  jurisdiction : String
  effectiveFrom : ℕ
  effectiveUntil : Option ℕ
  subjectScope : List String
  predicates : List String
  requiredEvidence : List String
  outcomes : List String
  reasonCodes : List String
  status : RuleStatus
  reviewDueAt : ℕ
  deriving DecidableEq, Repr

structure RegisteredSource where
  authority : String
  jurisdiction : String
  officialUrl : String
  record : SourceRecord
  title : String
  deriving DecidableEq, Repr

inductive PredicateOperator where
  | eq
  | gte
  | lte
  | present
  deriving DecidableEq, Repr

inductive Threshold where
  | text (value : String)
  | flag (value : Bool)
  deriving DecidableEq, Repr

structure ExecutablePredicate where
  field : String
  id : String
  operator : PredicateOperator
  threshold : Option Threshold
  critical : Bool
  deriving DecidableEq, Repr

structure ExecutableRuleProfile where
  record : RuleRecord
  predicates : List ExecutablePredicate
  deriving DecidableEq, Repr

/-! ### Schemas -/

def maxSafeInteger : ℕ := 2 ^ 53 - 1

/-- `timestamp`. -/
def isTimestamp (n : ℕ) : Bool := n ≤ maxSafeInteger

def isPositiveSafeInteger (n : ℕ) : Bool := 0 < n && n ≤ maxSafeInteger

/-- `shortText`. -/
def isShortText (s : String) : Bool := 1 ≤ (utf16 s).length && (utf16 s).length ≤ 256

def isLowerHex (c : Char) : Bool := c.isDigit || ('a' ≤ c && c ≤ 'f')

/-- `UUID_PATTERN`: groups of 8, 4, 4, 4 and 12 digits. -/
def isUuid (cs : List Char) : Bool :=
  cs.length = 36 && cs.zipIdx.all fun (c, i) => if i ∈ [8, 13, 18, 23] then c = '-' else isLowerHex c

/-- `urn(kind)`. -/
def isUrn (kind s : String) : Bool :=
  let start := ("urn:evllm:" ++ kind ++ ":").toList
  start.isPrefixOf s.toList && isUuid (s.toList.drop start.length)

def VersionedRef.isValid (ref : VersionedRef) : Bool := ref.id ≠ "" && isPositiveSafeInteger ref.version

/-- `authoritativeSource.parse` accepts the record. -/
def SourceRecord.isValid (r : SourceRecord) : Bool :=
  isUrn "source" r.sourceId && isPositiveSafeInteger r.sourceVersion &&
    r.predecessorSourceVersion.all isPositiveSafeInteger && r.successorSourceVersion.all isPositiveSafeInteger &&
    r.publicMetadataRef.all VersionedRef.isValid && r.licensedPayloadRef.all VersionedRef.isValid &&
    r.domainSignatureRecordId.all (isUrn "assertion") && isTimestamp r.reviewDueAt &&
    isUrn "actor" r.transitionActorId && isShortText r.transitionReason && isTimestamp r.effectiveAt &&
    isTimestamp r.reviewedAt && r.permittedRuleIds.all (isUrn "rule") && r.permittedRuleIds.length ≤ 256 &&
    r.dependentRuleIds.all (isUrn "rule") && r.dependentRuleIds.length ≤ 256

/-- `z.array(shortText).min(least).max(most)`. -/
def areShortTexts (least most : ℕ) (texts : List String) : Bool :=
  texts.all isShortText && least ≤ texts.length && texts.length ≤ most

/-- `ruleProfile.parse` accepts the record. -/
def RuleRecord.isValid (r : RuleRecord) : Bool :=
  isUrn "rule" r.ruleId && isPositiveSafeInteger r.ruleVersion && r.sourceClauses.all VersionedRef.isValid &&
    1 ≤ r.sourceClauses.length && r.sourceClauses.length ≤ 256 && isShortText r.jurisdiction &&
    isTimestamp r.effectiveFrom && r.effectiveUntil.all isTimestamp && areShortTexts 1 128 r.subjectScope &&
    areShortTexts 1 256 r.predicates && areShortTexts 0 256 r.requiredEvidence && areShortTexts 1 128 r.outcomes &&
    areShortTexts 1 128 r.reasonCodes && isTimestamp r.reviewDueAt

/-! ### The registry -/

inductive RuleRegistryError where
  | conflict
  | inactiveSource
  | invalidTransition
  | notFound
  | outOfScope
  /-- The error of a schema. -/
  | schema
  deriving DecidableEq, Repr

structure DatedRuleRegistry where
  rules : JsMap String ExecutableRuleProfile
  sources : JsMap String RegisteredSource

def DatedRuleRegistry.new : DatedRuleRegistry := ⟨.empty, .empty⟩

def versionKey (id : String) (version : ℕ) : String := id ++ ":" ++ toString version

def RuleRecord.key (record : RuleRecord) : String := versionKey record.ruleId record.ruleVersion

def SourceRecord.key (record : SourceRecord) : String := versionKey record.sourceId record.sourceVersion

def allowedSourceTransition (source target : SourceLifecycle) : Bool :=
  match source with
  | .pending => target ∈ [SourceLifecycle.active, .withdrawn, .expired]
  | .active => target ∈ [SourceLifecycle.unavailable, .superseded, .withdrawn, .expired]
  | .unavailable => target ∈ [SourceLifecycle.active, .withdrawn, .expired]
  | _ => false

/-- A number of seconds as a JavaScript number. -/
def JsNumber.ofNat (n : ℕ) : JsNumber := .finite n

/-- `x <= y`. -/
def JsNumber.atMost : JsNumber → JsNumber → Bool
  | .nan, _ => false
  | _, .nan => false
  | x, y => !y.less x

/-- A number that passes as a `timestamp`. -/
def JsNumber.timestamp : JsNumber → Option ℕ
  | .finite value => if value.den = 1 ∧ 0 ≤ value ∧ value.num.toNat ≤ maxSafeInteger then some value.num.toNat else none
  | _ => none

namespace DatedRuleRegistry

variable (r : DatedRuleRegistry)

def source (sourceId : String) (version : ℕ) : Except RuleRegistryError RegisteredSource :=
  match r.sources.get (versionKey sourceId version) with
  | none => .error .notFound
  | some source => .ok source

def registerSource (input : RegisteredSource) : Except RuleRegistryError (SourceRecord × DatedRuleRegistry) := do
  throwIf (¬input.record.isValid) .schema
  throwIf (r.sources.has input.record.key) .conflict
  throwIf (¬"https://".toList <+: input.officialUrl.toList ∨ isBlank input.authority) .outOfScope
  return (input.record, { r with sources := r.sources.set input.record.key input })

/-- The record of a source after a transition. -/
def transitioned (record : SourceRecord) (lifecycle : SourceLifecycle) (actorId reason : String) (time : ℕ) :
    SourceRecord :=
  { record with
    lifecycle := lifecycle, transitionActorId := actorId, transitionReason := reason, effectiveAt := time,
    reviewedAt := time }

/-- A rule after its source has left the active lifecycle. -/
def disableDependent (sourceId : String) (version : ℕ) (candidate : ExecutableRuleProfile) : ExecutableRuleProfile :=
  if candidate.record.sourceClauses.any (fun ref => ref.id = sourceId ∧ ref.version = version) ∧
      candidate.record.status = .active then
    { candidate with record := { candidate.record with status := .disabled } }
  else candidate

/-- `ruleProfile.parse` of a disabled rule accepts what it accepted before, so
that the loop over the rules never throws. -/
def transitionSource (sourceId : String) (version : ℕ) (lifecycle : SourceLifecycle) (actorId reason : String)
    (time : JsNumber) : Except RuleRegistryError (SourceRecord × DatedRuleRegistry) := do
  let source ← r.source sourceId version
  throwIf (¬allowedSourceTransition source.record.lifecycle lifecycle) .invalidTransition
  match time.timestamp with
  | none => .error .schema
  | some time =>
    let changed := transitioned source.record lifecycle actorId reason time
    throwIf (¬changed.isValid) .schema
    let sources := r.sources.set (versionKey sourceId version) { source with record := changed }
    let rules :=
      if lifecycle ∈ [SourceLifecycle.unavailable, .superseded, .withdrawn, .expired] then
        r.rules.mapValues (disableDependent sourceId version)
      else r.rules
    return (changed, ⟨rules, sources⟩)

/-- The check of one clause in `registerRule`. -/
def checkClause (record : RuleRecord) (time : JsNumber) (ref : VersionedRef) : Except RuleRegistryError Unit := do
  let source ← r.source ref.id ref.version
  throwIf (source.record.lifecycle ≠ .active ∨ (JsNumber.ofNat source.record.reviewDueAt).less time ∨
    record.ruleId ∉ source.record.permittedRuleIds) .inactiveSource

def registerRule (input : ExecutableRuleProfile) (time : JsNumber) :
    Except RuleRegistryError (RuleRecord × DatedRuleRegistry) := do
  throwIf (¬input.record.isValid) .schema
  throwIf (r.rules.has input.record.key) .conflict
  throwIf (input.predicates = [] ∨ (input.predicates.map ExecutablePredicate.id).eraseDups.length ≠ input.predicates.length)
    .conflict
  input.record.sourceClauses.forM (r.checkClause input.record time)
  return (input.record, { r with rules := r.rules.set input.record.key input })

end DatedRuleRegistry

structure SelectRuleInput where
  asOf : JsNumber
  jurisdiction : String
  ruleId : String
  subjectScope : String

/-- The rule is of the id, active, in jurisdiction, in scope and in force. -/
def ExecutableRuleProfile.isCandidate (input : SelectRuleInput) (rule : ExecutableRuleProfile) : Bool :=
  rule.record.ruleId = input.ruleId && rule.record.status = .active && rule.record.jurisdiction = input.jurisdiction &&
    input.subjectScope ∈ rule.record.subjectScope && (JsNumber.ofNat rule.record.effectiveFrom).atMost input.asOf &&
    rule.record.effectiveUntil.all fun bound => input.asOf.less (.ofNat bound)

namespace DatedRuleRegistry

variable (r : DatedRuleRegistry)

/-- The check of one clause in `selectRule`. -/
def checkSelected (asOf : JsNumber) (ref : VersionedRef) : Except RuleRegistryError Unit := do
  let source ← r.source ref.id ref.version
  throwIf (source.record.lifecycle ≠ .active ∨ (JsNumber.ofNat source.record.reviewDueAt).less asOf) .inactiveSource

def selectRule (input : SelectRuleInput) : Except RuleRegistryError ExecutableRuleProfile :=
  let candidates := (r.rules.values.filter (·.isCandidate input)).insertionSort fun left right =>
    right.record.ruleVersion ≤ left.record.ruleVersion
  match candidates with
  | [] => .error .outOfScope
  | selected :: _ => do
    selected.record.sourceClauses.forM (r.checkSelected input.asOf)
    return selected

end DatedRuleRegistry

/-! ### Runs -/

inductive RegistryOperation where
  | registerSource (input : RegisteredSource)
  | transitionSource (sourceId : String) (version : ℕ) (lifecycle : SourceLifecycle) (actorId reason : String)
      (time : JsNumber)
  | registerRule (input : ExecutableRuleProfile) (time : JsNumber)

def DatedRuleRegistry.exec (r : DatedRuleRegistry) : RegistryOperation → Except RuleRegistryError DatedRuleRegistry
  | .registerSource input => Prod.snd <$> r.registerSource input
  | .transitionSource sourceId version lifecycle actorId reason time =>
    Prod.snd <$> r.transitionSource sourceId version lifecycle actorId reason time
  | .registerRule input time => Prod.snd <$> r.registerRule input time

/-- The registry after the operations `ls`; one that throws changes nothing. -/
def registryAfter (ls : List RegistryOperation) : DatedRuleRegistry := run (attempt DatedRuleRegistry.exec) .new ls

/-! ### What an operation does -/

section

variable {r r' : DatedRuleRegistry}

theorem versionKey_inj {id id' : String} {version version' : ℕ} (h : versionKey id version = versionKey id' version') :
    id = id' ∧ version = version' := append_toString_inj h

theorem source_eq_ok {sourceId : String} {version : ℕ} {source : RegisteredSource} :
    r.source sourceId version = .ok source ↔ r.sources.get (versionKey sourceId version) = some source := by
  unfold DatedRuleRegistry.source
  cases r.sources.get (versionKey sourceId version) with
  | none => simp
  | some found => simp

theorem snd_map_eq_ok {ε α β : Type} {x : Except ε (α × β)} {b : β} : Prod.snd <$> x = .ok b ↔ ∃ a, x = .ok (a, b) := by
  cases x with
  | error e => simp [Functor.map, Except.map]
  | ok pair =>
    obtain ⟨a, c⟩ := pair
    simp [Functor.map, Except.map]

/-- The source is registered, active and permits the rule. -/
def Supports (sources : JsMap String RegisteredSource) (ruleId : String) (ref : VersionedRef) : Prop :=
  ∃ source, sources.get (versionKey ref.id ref.version) = some source ∧ source.record.lifecycle = .active ∧
    ruleId ∈ source.record.permittedRuleIds

theorem registerSource_ok {input : RegisteredSource} {record : SourceRecord}
    (h : r.registerSource input = .ok (record, r')) :
    r.sources.get input.record.key = none ∧ r' = { r with sources := r.sources.set input.record.key input } := by
  simp only [DatedRuleRegistry.registerSource, bind_eq_ok, throwIf_eq_ok, pure_eq_ok, Prod.mk.injEq,
    Bool.not_eq_true] at h
  obtain ⟨-, -, -, hnew, -, -, -, rfl⟩ := h
  exact ⟨(JsMap.has_eq_false_iff _ _).mp hnew, rfl⟩

/-- Where a source may go from: it becomes active, or its rules are disabled. -/
theorem allowed_target {source target : SourceLifecycle} (h : allowedSourceTransition source target = true) :
    target = .active ∨ target ∈ [SourceLifecycle.unavailable, .superseded, .withdrawn, .expired] := by
  cases source <;> cases target <;> simp_all [allowedSourceTransition]

theorem transitionSource_ok {sourceId : String} {version : ℕ} {lifecycle : SourceLifecycle} {actorId reason : String}
    {time : JsNumber} {record : SourceRecord}
    (h : r.transitionSource sourceId version lifecycle actorId reason time = .ok (record, r')) :
    ∃ source time, r.sources.get (versionKey sourceId version) = some source ∧
      allowedSourceTransition source.record.lifecycle lifecycle = true ∧
      r' = ⟨if lifecycle ∈ [SourceLifecycle.unavailable, .superseded, .withdrawn, .expired] then
          r.rules.mapValues (DatedRuleRegistry.disableDependent sourceId version) else r.rules,
        r.sources.set (versionKey sourceId version)
          { source with record := DatedRuleRegistry.transitioned source.record lifecycle actorId reason time }⟩ := by
  simp only [DatedRuleRegistry.transitionSource, bind_eq_ok, throwIf_eq_ok, source_eq_ok, not_not] at h
  obtain ⟨source, hsource, -, hallowed, h⟩ := h
  split at h
  · cases h
  next seconds _ =>
    simp only [bind_eq_ok, throwIf_eq_ok, pure_eq_ok, Prod.mk.injEq] at h
    obtain ⟨-, -, -, rfl⟩ := h
    exact ⟨source, seconds, hsource, hallowed, rfl⟩

theorem registerRule_ok {input : ExecutableRuleProfile} {time : JsNumber} {record : RuleRecord}
    (h : r.registerRule input time = .ok (record, r')) :
    input.record.isValid = true ∧ r.rules.get input.record.key = none ∧
      (∀ ref ∈ input.record.sourceClauses, Supports r.sources input.record.ruleId ref) ∧
      r' = { r with rules := r.rules.set input.record.key input } := by
  simp only [DatedRuleRegistry.registerRule, bind_eq_ok, throwIf_eq_ok, pure_eq_ok, Prod.mk.injEq, Bool.not_eq_true,
    Bool.not_eq_false] at h
  obtain ⟨-, hvalid, -, hnew, -, -, ⟨⟩, hclauses, -, rfl⟩ := h
  refine ⟨hvalid, (JsMap.has_eq_false_iff _ _).mp hnew, fun ref href => ?_, rfl⟩
  have hclause := forM_eq_ok.mp hclauses ref href
  simp only [DatedRuleRegistry.checkClause, bind_eq_ok, throwIf_eq_ok, source_eq_ok, not_or, not_not] at hclause
  obtain ⟨source, hsource, hactive, -, hpermitted⟩ := hclause
  exact ⟨source, hsource, hactive, hpermitted⟩

/-! ### Invariants -/

/-- What holds of a registry in every run. `valid` is why disabling a rule
never fails its schema. -/
structure Sound (r : DatedRuleRegistry) : Prop where
  valid : ∀ key rule, r.rules.get key = some rule → rule.record.isValid = true
  filed : ∀ key rule, r.rules.get key = some rule → key = rule.record.key
  supported : ∀ key rule, r.rules.get key = some rule → rule.record.status = .active →
    ∀ ref ∈ rule.record.sourceClauses, Supports r.sources rule.record.ruleId ref

/-- What becomes of a rule: nothing, or it is disabled. -/
def RuleOnward (rule rule' : ExecutableRuleProfile) : Prop :=
  rule' = rule ∨ (rule.record.status = .active ∧ rule' = { rule with record := { rule.record with status := .disabled } })

/-- What becomes of a source: it keeps what it permits, and its lifecycle moves
only as allowed. -/
structure SourceOnward (source source' : RegisteredSource) : Prop where
  permitted : source'.record.permittedRuleIds = source.record.permittedRuleIds
  lifecycle : source.record.lifecycle ∈ [SourceLifecycle.superseded, .withdrawn, .expired] →
    source'.record.lifecycle = source.record.lifecycle

structure Onward (r r' : DatedRuleRegistry) : Prop where
  rules : ∀ key rule, r.rules.get key = some rule → ∃ rule', r'.rules.get key = some rule' ∧ RuleOnward rule rule'
  sources : ∀ key source, r.sources.get key = some source →
    ∃ source', r'.sources.get key = some source' ∧ SourceOnward source source'

theorem SourceOnward.refl (source : RegisteredSource) : SourceOnward source source := ⟨rfl, fun _ => rfl⟩

theorem Onward.refl (r : DatedRuleRegistry) : Onward r r :=
  ⟨fun _ rule h => ⟨rule, h, .inl rfl⟩, fun _ source h => ⟨source, h, .refl source⟩⟩

theorem RuleOnward.trans {a b c : ExecutableRuleProfile} (h : RuleOnward a b) (h' : RuleOnward b c) : RuleOnward a c := by
  obtain rfl | ⟨hactive, rfl⟩ := h
  · exact h'
  · obtain rfl | ⟨hactive', -⟩ := h'
    · exact .inr ⟨hactive, rfl⟩
    · cases hactive'

theorem SourceOnward.trans {a b c : RegisteredSource} (h : SourceOnward a b) (h' : SourceOnward b c) : SourceOnward a c := by
  refine ⟨h'.permitted.trans h.permitted, fun hended => ?_⟩
  have hsame := h.lifecycle hended
  rw [← hsame]
  exact h'.lifecycle (hsame.symm ▸ hended)

theorem Onward.trans {r₁ r₂ r₃ : DatedRuleRegistry} (h : Onward r₁ r₂) (h' : Onward r₂ r₃) : Onward r₁ r₃ := by
  constructor
  · intro key rule hrule
    obtain ⟨rule', hrule', honward⟩ := h.rules key rule hrule
    obtain ⟨rule'', hrule'', honward'⟩ := h'.rules key rule' hrule'
    exact ⟨rule'', hrule'', honward.trans honward'⟩
  · intro key source hsource
    obtain ⟨source', hsource', honward⟩ := h.sources key source hsource
    obtain ⟨source'', hsource'', honward'⟩ := h'.sources key source' hsource'
    exact ⟨source'', hsource'', honward.trans honward'⟩

/-- A new entry leaves the others. -/
theorem get_of_set_new {ν : Type} {m : JsMap String ν} {key new : String} {v w : ν} (hnew : m.get new = none)
    (h : m.get key = some v) : (m.set new w).get key = some v := by
  rw [JsMap.get_set_ne m w, h]
  rintro rfl
  rw [hnew] at h
  cases h

theorem disableDependent_onward (sourceId : String) (version : ℕ) (rule : ExecutableRuleProfile) :
    RuleOnward rule (DatedRuleRegistry.disableDependent sourceId version rule) := by
  unfold DatedRuleRegistry.disableDependent
  split_ifs with h
  · exact .inr ⟨h.2, rfl⟩
  · exact .inl rfl

/-- A rule that stays active has no clause of the source. -/
theorem not_uses_of_active {sourceId : String} {version : ℕ} {rule : ExecutableRuleProfile}
    (h : (DatedRuleRegistry.disableDependent sourceId version rule).record.status = .active) :
    DatedRuleRegistry.disableDependent sourceId version rule = rule ∧
      ∀ ref ∈ rule.record.sourceClauses, ¬(ref.id = sourceId ∧ ref.version = version) := by
  unfold DatedRuleRegistry.disableDependent at h ⊢
  split_ifs at h ⊢ with huses
  refine ⟨rfl, fun ref href hsame => huses ⟨?_, h⟩⟩
  exact List.any_eq_true.mpr ⟨ref, href, by simpa using hsame⟩

/-- A source after a transition. -/
theorem transitioned_onward {source : RegisteredSource} {lifecycle : SourceLifecycle} {actorId reason : String} {time : ℕ}
    (h : allowedSourceTransition source.record.lifecycle lifecycle = true) :
    SourceOnward source
      { source with record := DatedRuleRegistry.transitioned source.record lifecycle actorId reason time } := by
  refine ⟨rfl, fun hended => ?_⟩
  cases hlifecycle : source.record.lifecycle <;> simp_all [allowedSourceTransition]

theorem onward_sources {key : String} {source source' : RegisteredSource} (h : r.sources.get key = some source)
    (honward : SourceOnward source source') {key' : String} {other : RegisteredSource}
    (hother : r.sources.get key' = some other) :
    ∃ other', (r.sources.set key source').get key' = some other' ∧ SourceOnward other other' := by
  rw [JsMap.get_set]
  split_ifs with hkey
  · subst hkey
    obtain rfl : source = other := Option.some.inj (h.symm.trans hother)
    exact ⟨source', rfl, honward⟩
  · exact ⟨other, hother, .refl other⟩

/-- A source leaves the active lifecycle, and its rules with it. -/
theorem sound_disabling {sourceId : String} {version : ℕ} {source' : RegisteredSource} (hr : Sound r) :
    Sound ⟨r.rules.mapValues (DatedRuleRegistry.disableDependent sourceId version),
      r.sources.set (versionKey sourceId version) source'⟩ := by
  have hrule : ∀ {key : String} {rule' : ExecutableRuleProfile},
      (r.rules.mapValues (DatedRuleRegistry.disableDependent sourceId version)).get key = some rule' →
        ∃ rule, r.rules.get key = some rule ∧ DatedRuleRegistry.disableDependent sourceId version rule = rule' := by
    intro key rule' h
    rw [JsMap.get_mapValues] at h
    exact Option.map_eq_some_iff.mp h
  refine ⟨fun key rule' h => ?_, fun key rule' h => ?_, fun key rule' h hactive ref href => ?_⟩
  · obtain ⟨rule, hget, rfl⟩ := hrule h
    obtain heq | ⟨-, heq⟩ := disableDependent_onward sourceId version rule
    · rw [heq]
      exact hr.valid key rule hget
    · rw [heq]
      exact hr.valid key rule hget
  · obtain ⟨rule, hget, rfl⟩ := hrule h
    obtain heq | ⟨-, heq⟩ := disableDependent_onward sourceId version rule
    · rw [heq]
      exact hr.filed key rule hget
    · rw [heq]
      exact hr.filed key rule hget
  · obtain ⟨rule, hget, rfl⟩ := hrule h
    obtain ⟨hsame, hunused⟩ := not_uses_of_active hactive
    rw [hsame] at hactive href ⊢
    obtain ⟨source, hsource, hsupports⟩ := hr.supported key rule hget hactive ref href
    refine ⟨source, ?_, hsupports⟩
    have hkey : versionKey sourceId version ≠ versionKey ref.id ref.version := by
      intro heq
      obtain ⟨hid, hversion⟩ := versionKey_inj heq
      exact hunused ref href ⟨hid.symm, hversion.symm⟩
    rw [JsMap.get_set_ne _ _ hkey]
    exact hsource

/-- A source becomes active. -/
theorem sound_activating {key : String} {source source' : RegisteredSource} (hr : Sound r)
    (hsource : r.sources.get key = some source) (hactive : source'.record.lifecycle = .active)
    (honward : SourceOnward source source') : Sound { r with sources := r.sources.set key source' } := by
  refine ⟨hr.valid, hr.filed, fun key' rule hrule hstatus ref href => ?_⟩
  obtain ⟨other, hother, hother_active, hpermits⟩ := hr.supported key' rule hrule hstatus ref href
  unfold Supports
  rw [JsMap.get_set]
  split_ifs with hkey
  · subst hkey
    obtain rfl : source = other := Option.some.inj (hsource.symm.trans hother)
    exact ⟨source', rfl, hactive, by rwa [honward.permitted]⟩
  · exact ⟨other, hother, hother_active, hpermits⟩

/-- **One operation keeps the registry sound** and moves it onward. -/
theorem exec_ok {op : RegistryOperation} (h : r.exec op = .ok r') (hr : Sound r) : Sound r' ∧ Onward r r' := by
  cases op with
  | registerSource input =>
    obtain ⟨record, h⟩ := snd_map_eq_ok.mp h
    obtain ⟨hnew, rfl⟩ := registerSource_ok h
    refine ⟨⟨hr.valid, hr.filed, fun key rule hrule hactive ref href => ?_⟩,
      ⟨fun _ rule hrule => ⟨rule, hrule, .inl rfl⟩, fun key source hsource =>
        ⟨source, get_of_set_new hnew hsource, .refl source⟩⟩⟩
    obtain ⟨source, hsource, hsupports⟩ := hr.supported key rule hrule hactive ref href
    exact ⟨source, get_of_set_new hnew hsource, hsupports⟩
  | registerRule input time =>
    obtain ⟨record, h⟩ := snd_map_eq_ok.mp h
    obtain ⟨hvalid, hnew, hclauses, rfl⟩ := registerRule_ok h
    have hcases : ∀ {key : String} {rule : ExecutableRuleProfile}, (r.rules.set input.record.key input).get key = some rule →
        input.record.key = key ∧ input = rule ∨ r.rules.get key = some rule := by
      intro key rule hrule
      rw [JsMap.get_set] at hrule
      split_ifs at hrule with hkey
      · exact .inl ⟨hkey, Option.some.inj hrule⟩
      · exact .inr hrule
    refine ⟨⟨fun key rule hrule => ?_, fun key rule hrule => ?_, fun key rule hrule hactive => ?_⟩,
      ⟨fun _ rule hrule => ⟨rule, get_of_set_new hnew hrule, .inl rfl⟩, fun _ source hsource =>
        ⟨source, hsource, .refl source⟩⟩⟩
    · obtain ⟨rfl, rfl⟩ | hold := hcases hrule
      · exact hvalid
      · exact hr.valid key rule hold
    · obtain ⟨rfl, rfl⟩ | hold := hcases hrule
      · rfl
      · exact hr.filed key rule hold
    · obtain ⟨rfl, rfl⟩ | hold := hcases hrule
      · exact hclauses
      · exact hr.supported key rule hold hactive
  | transitionSource sourceId version lifecycle actorId reason time =>
    obtain ⟨record, h⟩ := snd_map_eq_ok.mp h
    obtain ⟨source, seconds, hsource, hallowed, rfl⟩ := transitionSource_ok h
    have honward : SourceOnward source
        { source with record := DatedRuleRegistry.transitioned source.record lifecycle actorId reason seconds } :=
      transitioned_onward hallowed
    split_ifs with hleft
    · refine ⟨sound_disabling hr, fun key rule hrule => ?_, fun _ _ hother => onward_sources hsource honward hother⟩
      rw [JsMap.get_mapValues, hrule, Option.map_some]
      exact ⟨_, rfl, disableDependent_onward sourceId version rule⟩
    · have hactive : lifecycle = .active := (allowed_target hallowed).resolve_right hleft
      exact ⟨sound_activating hr hsource hactive honward, fun _ rule hrule => ⟨rule, hrule, .inl rfl⟩,
        fun _ _ hother => onward_sources hsource honward hother⟩

theorem sound_new : Sound .new := ⟨nofun, nofun, nofun⟩

theorem sound_after (ls : List RegistryOperation) : Sound (registryAfter ls) :=
  run_invariant (I := Sound) (attempt_invariant fun _ _ _ h hr => (exec_ok h hr).1) ls sound_new

/-- **A run** moves the registry onward. -/
theorem onward_after (ls ms : List RegistryOperation) : Onward (registryAfter ls) (registryAfter (ls ++ ms)) := by
  have hsplit : registryAfter (ls ++ ms) = run (attempt DatedRuleRegistry.exec) (registryAfter ls) ms := run_append _ _ ls ms
  rw [hsplit]
  refine run_related (I := Sound) .refl (fun _ _ _ => .trans) ?_ ?_ ms (sound_after ls)
  · exact attempt_invariant fun _ _ _ h hr => (exec_ok h hr).1
  · intro r op hr
    obtain heq | ⟨r', h, heq⟩ := attempt_cases DatedRuleRegistry.exec r op
    · rw [heq]
      exact .refl r
    · rw [heq]
      exact (exec_ok h hr).2

/-! ### Selecting a rule -/

/-- The clause's source is active and not past its review. -/
def Current (r : DatedRuleRegistry) (asOf : JsNumber) (ref : VersionedRef) : Prop :=
  ∃ source, r.sources.get (versionKey ref.id ref.version) = some source ∧ source.record.lifecycle = .active ∧
    (JsNumber.ofNat source.record.reviewDueAt).less asOf = false

theorem selectRule_ok {input : SelectRuleInput} {selected : ExecutableRuleProfile} (h : r.selectRule input = .ok selected) :
    selected ∈ r.rules.values ∧ selected.isCandidate input = true ∧
      (∀ ref ∈ selected.record.sourceClauses, Current r input.asOf ref) ∧
      ∀ rule ∈ r.rules.values, rule.isCandidate input = true → rule.record.ruleVersion ≤ selected.record.ruleVersion := by
  unfold DatedRuleRegistry.selectRule at h
  dsimp only at h
  have hmem : ∀ rule, rule ∈ (r.rules.values.filter (·.isCandidate input)).insertionSort (fun left right =>
      right.record.ruleVersion ≤ left.record.ruleVersion) ↔ rule ∈ r.rules.values ∧ rule.isCandidate input = true := by
    intro rule
    rw [List.mem_insertionSort, List.mem_filter]
  have hsorted := List.pairwise_insertionSort (fun left right : ExecutableRuleProfile =>
    right.record.ruleVersion ≤ left.record.ruleVersion) (r.rules.values.filter (·.isCandidate input))
  generalize (r.rules.values.filter (·.isCandidate input)).insertionSort (fun left right =>
    right.record.ruleVersion ≤ left.record.ruleVersion) = candidates at h hmem hsorted
  cases candidates with
  | nil => cases h
  | cons first rest =>
    simp only [bind_eq_ok, pure_eq_ok] at h
    obtain ⟨⟨⟩, hclauses, rfl⟩ := h
    obtain ⟨hstored, hcandidate⟩ := (hmem first).mp List.mem_cons_self
    refine ⟨hstored, hcandidate, fun ref href => ?_, fun rule hrule hother => ?_⟩
    · have hclause := forM_eq_ok.mp hclauses ref href
      simp only [DatedRuleRegistry.checkSelected, bind_eq_ok, throwIf_eq_ok, source_eq_ok, not_or, not_not,
        Bool.not_eq_true] at hclause
      exact hclause
    · obtain rfl | hlater := List.mem_cons.mp ((hmem rule).mpr ⟨hrule, hother⟩)
      · exact Nat.le_refl _
      · exact (List.pairwise_cons.mp hsorted).1 rule hlater

end

/-- **No rule is active on a dead source.** In every run: the sources of an
active rule are active and permit it, a disabled rule stays disabled, a source
that has ended stays as it is, and the rule that is selected is the highest
version in force, with every source active and not past its review. -/
theorem no_rule_on_dead_source (ls ms : List RegistryOperation) :
    (∀ key rule, (registryAfter ls).rules.get key = some rule → rule.record.status = .active →
      ∀ ref ∈ rule.record.sourceClauses, Supports (registryAfter ls).sources rule.record.ruleId ref) ∧
    (∀ key rule, (registryAfter ls).rules.get key = some rule → rule.record.status = .disabled →
      ∃ rule', (registryAfter (ls ++ ms)).rules.get key = some rule' ∧ rule'.record.status = .disabled) ∧
    (∀ key source, (registryAfter ls).sources.get key = some source →
      source.record.lifecycle ∈ [SourceLifecycle.superseded, .withdrawn, .expired] →
      ∃ source', (registryAfter (ls ++ ms)).sources.get key = some source' ∧
        source'.record.lifecycle = source.record.lifecycle) ∧
    ∀ input selected, (registryAfter ls).selectRule input = .ok selected →
      selected ∈ (registryAfter ls).rules.values ∧ selected.isCandidate input = true ∧
      (∀ ref ∈ selected.record.sourceClauses, Current (registryAfter ls) input.asOf ref) ∧
      ∀ rule ∈ (registryAfter ls).rules.values, rule.isCandidate input = true →
        rule.record.ruleVersion ≤ selected.record.ruleVersion := by
  have honward := onward_after ls ms
  refine ⟨(sound_after ls).supported, fun key rule hrule hdisabled => ?_, fun key source hsource hended => ?_,
    fun input selected hselected => selectRule_ok hselected⟩
  · obtain ⟨rule', hrule', rfl | ⟨hactive, -⟩⟩ := honward.rules key rule hrule
    · exact ⟨rule', hrule', hdisabled⟩
    · rw [hdisabled] at hactive
      cases hactive
  · obtain ⟨source', hsource', hkept⟩ := honward.sources key source hsource
    exact ⟨source', hsource', hkept.lifecycle hended⟩

/-! A rule in two versions, whose source becomes unavailable and active again. -/

namespace Sample

def sourceId : String := "urn:evllm:source:00000000-0000-4000-8000-000000000001"
def ruleId : String := "urn:evllm:rule:00000000-0000-4000-8000-000000000002"
def actorId : String := "urn:evllm:actor:00000000-0000-4000-8000-000000000003"

def batteriesRegulation : RegisteredSource where
  authority := "European Union"
  jurisdiction := "EU"
  officialUrl := "https://eur-lex.europa.eu/eli/reg/2023/1542/oj?locale=en"
  title := "Regulation (EU) 2023/1542 source with synthetic test predicates"
  record := {
    sourceId := sourceId
    sourceVersion := 1
    predecessorSourceVersion := none
    successorSourceVersion := none
    publicMetadataRef := none
    licensedPayloadRef := none
    domainSignatureRecordId := none
    sourceClass := .legal
    accessState := .publicAccess
    licenceState := .permitted
    reviewDueAt := 200
    lifecycle := .active
    transitionActorId := actorId
    transitionReason := "reviewed for controlled fixture"
    effectiveAt := 100
    reviewedAt := 100
    permittedRuleIds := [ruleId]
    dependentRuleIds := [ruleId] }

def capacityRule (version : ℕ) : ExecutableRuleProfile where
  record := {
    ruleId := ruleId
    ruleVersion := version
    sourceClauses := [⟨sourceId, 1⟩]
    jurisdiction := "EU"
    effectiveFrom := 100
    effectiveUntil := some 200
    subjectScope := ["nmc-pack"]
    predicates := ["capacity", "safety_report"]
    requiredEvidence := ["capacity", "safety_report"]
    outcomes := ["PASS", "FAIL", "UNKNOWN"]
    reasonCodes := ["CAPACITY", "SAFETY_REPORT"]
    status := .active
    reviewDueAt := 200 }
  predicates := [⟨"capacity", "capacity", .gte, some (.text "70"), true⟩, ⟨"safety_report", "safety", .present, none, true⟩]

def selection : SelectRuleInput := ⟨.finite 150, "EU", ruleId, "nmc-pack"⟩

def registered : List RegistryOperation :=
  [.registerSource batteriesRegulation, .registerRule (capacityRule 1) (.finite 100),
    .registerRule (capacityRule 2) (.finite 100)]

def unavailable : List RegistryOperation :=
  registered ++ [.transitionSource sourceId 1 .unavailable actorId "official host unavailable" (.finite 101)]

def reviewed : List RegistryOperation :=
  [.transitionSource sourceId 1 .active actorId "new recorded review" (.finite 102)]

end Sample

/-- The second version is selected; once its source has been unavailable it
stays disabled, though the source is active again. -/
theorem unavailable_source_disables :
    (∃ selected, (registryAfter Sample.registered).selectRule Sample.selection = .ok selected ∧
      selected.record.ruleVersion = 2 ∧ ∀ rule ∈ (registryAfter Sample.registered).rules.values,
        rule.isCandidate Sample.selection = true → rule.record.ruleVersion ≤ selected.record.ruleVersion) ∧
    ∃ rule, (registryAfter (Sample.unavailable ++ Sample.reviewed)).rules.get (versionKey Sample.ruleId 2) = some rule ∧
      rule.record.status = .disabled := by
  obtain ⟨-, -, -, hselect⟩ := no_rule_on_dead_source Sample.registered []
  obtain ⟨-, hdisabled, -, -⟩ := no_rule_on_dead_source Sample.unavailable Sample.reviewed
  have hsecond : ((registryAfter Sample.registered).selectRule Sample.selection).toOption.map (·.record.ruleVersion) =
      some 2 := by decide +kernel
  obtain ⟨selected, hselected, hversion⟩ := Option.map_eq_some_iff.mp hsecond
  rw [toOption_eq_some] at hselected
  refine ⟨⟨selected, hselected, hversion, (hselect Sample.selection selected hselected).2.2.2⟩, ?_⟩
  have hrule : (((registryAfter Sample.unavailable).rules.get (versionKey Sample.ruleId 2)).map
      (·.record.status)) = some .disabled := by decide +kernel
  obtain ⟨rule, hget, hstatus⟩ := Option.map_eq_some_iff.mp hrule
  exact hdisabled _ rule hget hstatus

end Decision
end Evllm
