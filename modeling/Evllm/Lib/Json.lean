/-
# JSON values

What `JSON.parse` returns, and what `JSON.stringify` writes down: a value is
known by its members, whatever the text between them. A member that an object
lacks, and any member of a value that is no object, is `undefined`.

Canonical texts write the members of an object in the order of their names
(`sorted`), and a value read back from one has them in that order. Nothing that is
read by name depends on it (`field_sorted`, `hasOnly_sorted`).
-/
import Evllm.Lib.JsMap
import Evllm.Lib.JsString
import Mathlib

namespace Lib

inductive Json where
  | null
  | boolean (value : Bool)
  | number (value : ℚ)
  | string (text : String)
  | array (items : List Json)
  | object (members : List (String × Json))

namespace Json

/-- `value.name`. -/
def field (name : String) : Json → Option Json
  | object members => Entries.lookup name members
  | _ => none

/-- `typeof value === "string" && value.length > 0`. -/
def nonemptyString : Json → Option String
  | string text => if text = "" then Option.none else some text
  | _ => Option.none

/-- The greatest integer `n` such that every integer up to it is a number. -/
def maxSafeInteger : ℤ := 2 ^ 53 - 1

def SafeInteger (n : ℤ) : Prop := -maxSafeInteger ≤ n ∧ n ≤ maxSafeInteger

instance (n : ℤ) : Decidable (SafeInteger n) := inferInstanceAs (Decidable (_ ∧ _))

/-- `Number.isSafeInteger(value)`, and the integer. -/
def safeInteger : Json → Option ℤ
  | number value => if value.den = 1 ∧ SafeInteger value.num then some value.num else Option.none
  | _ => Option.none

theorem nonemptyString_string {text : String} (h : text ≠ "") : nonemptyString (string text) = some text := if_neg h

theorem safeInteger_number {n : ℤ} (h : SafeInteger n) : safeInteger (number n) = some n := by
  rw [safeInteger, if_pos ⟨Rat.den_intCast n, by rwa [Rat.num_intCast]⟩, Rat.num_intCast]

/-! ### Equality -/

mutual

def beq : Json → Json → Bool
  | null, null => true
  | boolean a, boolean b => a == b
  | number a, number b => a == b
  | string a, string b => a == b
  | array a, array b => beqItems a b
  | object a, object b => beqMembers a b
  | _, _ => false

def beqItems : List Json → List Json → Bool
  | [], [] => true
  | a :: as, b :: bs => beq a b && beqItems as bs
  | _, _ => false

def beqMembers : List (String × Json) → List (String × Json) → Bool
  | [], [] => true
  | (name, a) :: as, (name', b) :: bs => name == name' && (beq a b && beqMembers as bs)
  | _, _ => false

end

mutual

theorem eq_of_beq : ∀ a b : Json, beq a b = true → a = b := by
  intro a b h
  cases a <;> cases b <;> simp_all [beq]
  · exact eq_of_beqItems _ _ h
  · exact eq_of_beqMembers _ _ h

theorem eq_of_beqItems : ∀ as bs : List Json, beqItems as bs = true → as = bs
  | [], [], _ => rfl
  | a :: as, b :: bs, h => by
    rw [beqItems, Bool.and_eq_true] at h
    rw [eq_of_beq a b h.1, eq_of_beqItems as bs h.2]

theorem eq_of_beqMembers : ∀ as bs : List (String × Json), beqMembers as bs = true → as = bs
  | [], [], _ => rfl
  | (name, a) :: as, (name', b) :: bs, h => by
    rw [beqMembers, Bool.and_eq_true, Bool.and_eq_true, beq_iff_eq] at h
    rw [h.1, eq_of_beq a b h.2.1, eq_of_beqMembers as bs h.2.2]

end

mutual

theorem beq_self : ∀ a : Json, beq a a = true := by
  intro a
  cases a with
  | null => rfl
  | boolean value => simp [beq]
  | number value => simp [beq]
  | string text => simp [beq]
  | array items => rw [beq, beqItems_self]
  | object members => rw [beq, beqMembers_self]

theorem beqItems_self : ∀ as : List Json, beqItems as as = true
  | [] => rfl
  | a :: as => by rw [beqItems, beq_self a, beqItems_self as, Bool.and_self]

theorem beqMembers_self : ∀ as : List (String × Json), beqMembers as as = true
  | [] => rfl
  | (name, a) :: as => by rw [beqMembers, beq_self a, beqMembers_self as, Bool.and_self, beq_self_eq_true, Bool.and_self]

end

instance : DecidableEq Json := fun a b => decidable_of_iff (beq a b = true) ⟨eq_of_beq a b, fun h => h ▸ beq_self a⟩

/-! ### Members in the order of their names -/

def nameLe (m m' : String × Json) : Prop := ¬utf16 m'.1 < utf16 m.1

instance : DecidableRel nameLe := fun m m' => inferInstanceAs (Decidable (¬utf16 m'.1 < utf16 m.1))

instance : Std.Total nameLe := ⟨fun m m' => List.le_total (utf16 m.1) (utf16 m'.1)⟩

instance : IsTrans (String × Json) nameLe := ⟨fun _ _ _ h h' => List.le_trans h h'⟩

mutual

/-- The members of every object in the order of the UTF-16 code units of their names. -/
def sorted : Json → Json
  | object members => object ((sortedMembers members).insertionSort nameLe)
  | array items => array (sortedItems items)
  | null => null
  | boolean value => boolean value
  | number value => number value
  | string text => string text

def sortedItems : List Json → List Json
  | [] => []
  | item :: rest => sorted item :: sortedItems rest

def sortedMembers : List (String × Json) → List (String × Json)
  | [] => []
  | (name, value) :: rest => (name, sorted value) :: sortedMembers rest

end

@[simp] theorem sorted_string (text : String) : sorted (string text) = string text := by rw [sorted]

@[simp] theorem sorted_number (value : ℚ) : sorted (number value) = number value := by rw [sorted]

theorem sorted_object (members : List (String × Json)) :
    sorted (object members) = object ((sortedMembers members).insertionSort nameLe) := by rw [sorted]

theorem sortedMembers_keys : ∀ members : List (String × Json), (sortedMembers members).map Prod.fst = members.map Prod.fst
  | [] => rfl
  | (name, value) :: rest => by rw [sortedMembers, List.map_cons, List.map_cons, sortedMembers_keys rest]

theorem lookup_sortedMembers (name : String) : ∀ members : List (String × Json),
    Entries.lookup name (sortedMembers members) = (Entries.lookup name members).map sorted
  | [] => rfl
  | (name', value) :: rest => by
    rw [sortedMembers, Entries.lookup, Entries.lookup, lookup_sortedMembers name rest]
    split_ifs
    · rfl
    · rfl

/-- Members whose own values are in order are not changed but for their places. -/
theorem sortedMembers_eq_self : ∀ {members : List (String × Json)}, (∀ m ∈ members, m.2.sorted = m.2) → sortedMembers members = members
  | [], _ => rfl
  | (name, value) :: rest, h => by
    rw [sortedMembers, show value.sorted = value from h _ List.mem_cons_self,
      sortedMembers_eq_self fun m hm => h m (List.mem_cons_of_mem _ hm)]

mutual

theorem sorted_sorted : ∀ a : Json, a.sorted.sorted = a.sorted := by
  intro a
  cases a with
  | null => rfl
  | boolean value => rfl
  | number value => rfl
  | string text => rfl
  | array items => rw [sorted, sorted, sortedItems_sorted items]
  | object members =>
    have hvalues : ∀ m ∈ (sortedMembers members).insertionSort nameLe, m.2.sorted = m.2 := fun m hm =>
      sortedMembers_sorted members m ((List.perm_insertionSort nameLe _).mem_iff.mp hm)
    rw [sorted_object, sorted_object, sortedMembers_eq_self hvalues, (List.pairwise_insertionSort nameLe _).insertionSort_eq]

theorem sortedItems_sorted : ∀ as : List Json, sortedItems (sortedItems as) = sortedItems as
  | [] => rfl
  | a :: as => by rw [sortedItems, sortedItems, sorted_sorted a, sortedItems_sorted as]

theorem sortedMembers_sorted : ∀ (members : List (String × Json)), ∀ m ∈ sortedMembers members, m.2.sorted = m.2
  | [], _, hm => absurd hm List.not_mem_nil
  | (name, value) :: rest, m, hm => by
    rw [sortedMembers, List.mem_cons] at hm
    rcases hm with rfl | hm
    · exact sorted_sorted value
    · exact sortedMembers_sorted rest m hm

end

/-- The names of the members are distinct, as in an object. -/
def Distinct (members : List (String × Json)) : Prop := (members.map Prod.fst).Nodup

instance (members : List (String × Json)) : Decidable (Distinct members) := inferInstanceAs (Decidable (List.Nodup _))

theorem field_sorted {members : List (String × Json)} (h : Distinct members) (name : String) :
    field name (sorted (object members)) = (field name (object members)).map sorted := by
  have hperm := List.perm_insertionSort nameLe (sortedMembers members)
  have hkeys : ((sortedMembers members).map Prod.fst).Nodup := by rwa [sortedMembers_keys]
  rw [sorted_object, field, field, ← lookup_sortedMembers]
  exact Entries.lookup_perm ((hperm.map Prod.fst).nodup_iff.mpr hkeys) hperm name

/-- A schema that is `strict` refuses members of other names. -/
def hasOnly (names : List String) : Json → Bool
  | object members => members.all fun m => names.contains m.1
  | _ => false

theorem hasOnly_sorted (names : List String) (members : List (String × Json)) :
    hasOnly names (sorted (object members)) = (members.map Prod.fst).all names.contains := by
  have hperm := List.perm_insertionSort nameLe (sortedMembers members)
  rw [sorted_object, hasOnly, hperm.all_eq, ← sortedMembers_keys members, List.all_map]
  rfl

end Json

end Lib
