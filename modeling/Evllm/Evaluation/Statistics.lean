/-
# Statistics

`src/evaluation/statistics.ts` over exact arithmetic: the numbers are those of a
linearly ordered field with a floor, the bits of the generator are 32-bit words.
A list of numbers that is read outside of its length gives `none`.

The two paired bootstraps differ in what an element of their list is, a pair or
a pair of clusters, and in how a random number assigns its sides; what they
share is defined once and takes these as arguments.

Key definitions: `holmAdjust`, `pairedBootstrapStatisticDifference`,
`pairedClusterBootstrapStatisticDifference`.
-/
import Evllm.Lib.Except
import Mathlib.Algebra.Order.Floor.Ring
import Mathlib.Algebra.Order.Ring.Abs
import Mathlib.Data.List.Sort

namespace Evllm
namespace Evaluation

open Lib

variable {K : Type} [Field K] [LinearOrder K]

/-! ### The correction of p-values -/

/-- The body of the loop of `holmAdjust`, for a value with its index and its rank. -/
def holmStep (length : ℕ) (state : K × List (Option K)) (entry : (K × ℕ) × ℕ) : K × List (Option K) :=
  let running := max state.1 (min 1 (entry.1.1 * (length - entry.2)))
  (running, state.2.set entry.1.2 (some running))

def holmOrdered (values : List K) : List (K × ℕ) := values.zipIdx.insertionSort fun left right => left.1 ≤ right.1

def holmAdjust (values : List K) : List (Option K) :=
  ((holmOrdered values).zipIdx.foldl (holmStep values.length) (0, List.replicate values.length none)).2

/-! ### Random numbers -/

variable [FloorRing K]

/-- `xorshift32`: the state after the next number. -/
def xorshift32 (state : BitVec 32) : BitVec 32 :=
  let state := state ^^^ (state <<< 13)
  let state := state ^^^ (state >>> 17)
  state ^^^ (state <<< 5)

variable (K) in
/-- The number that the generator returns in a state. -/
def randomOf (state : BitVec 32) : K := (state.toNat : K) / 4294967296

/-- The operand of a bitwise operator. -/
def toInt32 (number : K) : BitVec 32 := BitVec.ofInt 32 (if 0 ≤ number then ⌊number⌋ else ⌈number⌉)

/-- `seed ^ 0x9e3779b9`. -/
def randomizationSeed (seed : K) : K := (toInt32 seed ^^^ 0x9e3779b9#32).toInt

/-! ### Percentiles -/

def percentileSorted (values : List K) (probability : K) : Option K :=
  let position := ((values.length : K) - 1) * probability
  let lower := ⌊position⌋
  let upper := ⌈position⌉
  if lower = upper then values[lower.toNat]?
  else
    let weight := position - lower
    match values[lower.toNat]?, values[upper.toNat]? with
    | some low, some high => some (low * (1 - weight) + high * weight)
    | _, _ => none

/-! ### Paired samples -/

/-- What an element puts on the left and on the right. -/
abbrev Sides (T : Type) := List T × List T

variable {T α : Type}

def push (sample sides : Sides T) : Sides T := (sample.1 ++ sides.1, sample.2 ++ sides.2)

variable (K) in
/-- `items[Math.floor(random() * items.length)]`, with the state after it. -/
def draw (items : List α) (state : BitVec 32) : Option (α × BitVec 32) :=
  let state := xorshift32 state
  items[⌊randomOf K state * items.length⌋.toNat]?.map fun item => (item, state)

variable (K) in
/-- The inner loop of a bootstrap, with `remaining` elements to draw. -/
def bootstrapSample (sides : α → Sides T) (items : List α) :
    ℕ → Sides T → BitVec 32 → Option (Sides T × BitVec 32)
  | 0, sample, state => some (sample, state)
  | remaining + 1, sample, state => do
    let (item, state) ← draw K items state
    bootstrapSample sides items remaining (push sample (sides item)) state

def difference (statistic : List T → K) (sample : Sides T) : K := statistic sample.1 - statistic sample.2

/-- The outer loop of a bootstrap. -/
def bootstrapSamples (sides : α → Sides T) (statistic : List T → K) (items : List α) : ℕ → BitVec 32 → Option (List K)
  | 0, _ => some []
  | iterations + 1, state => do
    let (sample, state) ← bootstrapSample K sides items items.length ([], []) state
    let samples ← bootstrapSamples sides statistic items iterations state
    return difference statistic sample :: samples

/-! ### Randomization -/

/-- `Number.EPSILON`. -/
def epsilon : K := 1 / 4503599627370496

def asExtreme (statistic : List T → K) (observed : K) (sample : Sides T) : Bool :=
  observed - epsilon ≤ |difference statistic sample|

/-- The sides of all elements, in their order. -/
def allSides (sides : α → Sides T) (items : List α) : Sides T :=
  items.foldl (fun sample item => push sample (sides item)) ([], [])

/-- The elements whose bit is set are swapped. -/
def exactAssignment (sides swapped : α → Sides T) (items : List α) (assignment : ℕ) : Sides T :=
  items.zipIdx.foldl (fun sample entry =>
    push sample (if assignment.testBit entry.2 then swapped entry.1 else sides entry.1)) ([], [])

/-- The p-value over all assignments. -/
def exactPValue (sides swapped : α → Sides T) (statistic : List T → K) (items : List α) (observed : K) : K :=
  let assignmentCount := 2 ^ items.length
  ((List.range assignmentCount).countP fun assignment =>
    asExtreme statistic observed (exactAssignment sides swapped items assignment) : ℕ) / (assignmentCount : ℕ)

variable (K) in
/-- One random assignment; `below` are the sides for a number below one half. -/
def randomAssignment (below notBelow : α → Sides T) : List α → Sides T → BitVec 32 → Sides T × BitVec 32
  | [], sample, state => (sample, state)
  | item :: items, sample, state =>
    let state := xorshift32 state
    randomAssignment below notBelow items
      (push sample (if randomOf K state < 1 / 2 then below item else notBelow item)) state

def extremeAssignments (below notBelow : α → Sides T) (statistic : List T → K) (items : List α) (observed : K) :
    ℕ → BitVec 32 → ℕ
  | 0, _ => 0
  | iterations + 1, state =>
    let (sample, state) := randomAssignment K below notBelow items ([], []) state
    (if asExtreme statistic observed sample then 1 else 0) +
      extremeAssignments below notBelow statistic items observed iterations state

/-- The p-value over random assignments. -/
def sampledPValue (below notBelow : α → Sides T) (statistic : List T → K) (items : List α) (observed : K)
    (iterations : ℕ) (seed : K) : K :=
  ((extremeAssignments below notBelow statistic items observed iterations (toInt32 seed) : ℕ) + 1) / (iterations + 1)

/-! ### Pairs -/

/-- A pair, as it is and swapped. -/
def pairSides (pair : T × T) : Sides T := ([pair.1], [pair.2])

def pairSwapped (pair : T × T) : Sides T := ([pair.2], [pair.1])

/-- A number below one half swaps the pair. -/
def pairedRandomizationPValue (pairs : List (T × T)) (statistic : List T → K) (iterations : ℕ) (seed : K) : K :=
  let observed := |difference statistic (allSides pairSides pairs)|
  if observed = 0 then 1
  else if pairs.length ≤ 16 then exactPValue pairSides pairSwapped statistic pairs observed
  else sampledPValue pairSwapped pairSides statistic pairs observed iterations seed

inductive StatisticsError where
  | insufficient (message : String)
  /-- A list is read outside of its length. -/
  | undefined
  deriving DecidableEq, Repr

structure BootstrapEffect (K : Type) where
  estimate : K
  lower : K
  upper : K
  pValue : K
  deriving DecidableEq, Repr

/-- The effect that a bootstrap returns for its samples. -/
def bootstrapEffect (estimate : K) (samples : Option (List K)) (pValue : K) : Except StatisticsError (BootstrapEffect K) :=
  let bounds := do
    let sorted := (← samples).insertionSort fun left right => left ≤ right
    return (← percentileSorted sorted (1 / 40), ← percentileSorted sorted (39 / 40))
  match bounds with
  | none => .error .undefined
  | some (lower, upper) => .ok ⟨estimate, lower, upper, pValue⟩

def pairedBootstrapStatisticDifference (pairs : List (T × T)) (statistic : List T → K) (iterations : ℕ) (seed : K) :
    Except StatisticsError (BootstrapEffect K) := do
  throwIf (pairs.length = 0 ∨ iterations < 100) (StatisticsError.insufficient "Insufficient bootstrap input")
  bootstrapEffect (difference statistic (allSides pairSides pairs))
    (bootstrapSamples pairSides statistic pairs iterations (toInt32 seed))
    (pairedRandomizationPValue pairs statistic iterations (randomizationSeed seed))

/-! ### Clusters -/

/-- A pair of clusters, as it is and swapped. -/
def clusterSides (cluster : List T × List T) : Sides T := (cluster.1, cluster.2)

def clusterSwapped (cluster : List T × List T) : Sides T := (cluster.2, cluster.1)

/-- A number below one half leaves the clusters as they are. -/
def pairedClusterRandomizationPValue (clusters : List (List T × List T)) (statistic : List T → K) (iterations : ℕ)
    (seed : K) : K :=
  let observed := |difference statistic (allSides clusterSides clusters)|
  if observed = 0 then 1
  else if clusters.length ≤ 16 then exactPValue clusterSides clusterSwapped statistic clusters observed
  else sampledPValue clusterSides clusterSwapped statistic clusters observed iterations seed

def validatePairedClusters (clusters : List (List T × List T)) (iterations : ℕ) : Except StatisticsError Unit :=
  throwIf (clusters.length = 0 ∨
      (clusters.any fun cluster =>
        cluster.1.length = 0 ∨ cluster.2.length = 0 ∨ cluster.1.length ≠ cluster.2.length) ∨
      iterations < 100)
    (StatisticsError.insufficient "Insufficient paired clustered bootstrap input")

def pairedClusterBootstrapStatisticDifference (clusters : List (List T × List T)) (statistic : List T → K)
    (iterations : ℕ) (seed : K) : Except StatisticsError (BootstrapEffect K) := do
  validatePairedClusters clusters iterations
  bootstrapEffect (difference statistic (allSides clusterSides clusters))
    (bootstrapSamples clusterSides statistic clusters iterations (toInt32 seed))
    (pairedClusterRandomizationPValue clusters statistic iterations (randomizationSeed seed))

end Evaluation
end Evllm
