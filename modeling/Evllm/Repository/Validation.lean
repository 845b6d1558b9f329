/-
# Keys of stored objects

`src/protected-bundles/storage/validation.ts`, and the two schemas that it uses: the
identifier of an organization and that of an opaque object. What the stores build
their keys from is the UUID of the organization and the object's identifier, so keys
are those of one object only.

Key definitions: `namespaceKey`, `validateObjectId`, `ObjectKey`.
Key theorems: `ObjectKey.namespace_injective`, `ObjectKey.joined_injective`.
-/
import Mathlib.Data.List.Basic

namespace Evllm
namespace Repository

/-! ### Identifiers -/

def isHexDigit (c : Char) : Bool := c.isDigit || ('a' ≤ c && c ≤ 'f')

/-- `UUID_PATTERN`. -/
def isUuid (cs : List Char) : Bool :=
  cs.length == 36 && cs.zipIdx.all fun e =>
    if e.2 = 8 ∨ e.2 = 13 ∨ e.2 = 18 ∨ e.2 = 23 then e.1 == '-' else isHexDigit e.1

def organizationPrefix : List Char := "urn:evllm:org:".toList

/-- `urn("org")`. -/
def isOrganization (organizationId : String) : Bool :=
  organizationPrefix.isPrefixOf organizationId.toList && isUuid (organizationId.toList.drop organizationPrefix.length)

def base64UrlAlphabet : List Char := "ABCDEFGHIJKLMNOPQRSTUVWXYZabcdefghijklmnopqrstuvwxyz0123456789-_".toList

/-- `base64Url32`: 43 characters of the alphabet. They code 32 bytes where the last two
bits of the last character are zero. -/
def isOpaqueObjectId (objectId : String) : Bool :=
  objectId.toList.length == 43 && objectId.toList.all (base64UrlAlphabet.contains ·) &&
    objectId.toList.getLast?.all fun c => base64UrlAlphabet.idxOf c % 4 == 0

/-- `parsed.slice(parsed.lastIndexOf(":") + 1)`. -/
def afterLastColon (cs : List Char) : List Char := (cs.reverse.takeWhile (· ≠ ':')).reverse

def namespaceKey (organizationId : String) : Option (List Char) :=
  if isOrganization organizationId then some (afterLastColon organizationId.toList) else none

def validateObjectId (objectId : String) : Option (List Char) :=
  if isOpaqueObjectId objectId then some objectId.toList else none

/-- An object of an organization, both valid. -/
structure ObjectKey where
  organizationId : String
  objectId : String
  organization_valid : isOrganization organizationId = true
  object_valid : isOpaqueObjectId objectId = true
  deriving DecidableEq

def objectKey (organizationId objectId : String) : Option ObjectKey :=
  if h : isOrganization organizationId = true ∧ isOpaqueObjectId objectId = true then
    some ⟨organizationId, objectId, h.1, h.2⟩
  else
    none

namespace ObjectKey

def space (k : ObjectKey) : List Char := afterLastColon k.organizationId.toList

def name (k : ObjectKey) : List Char := k.objectId.toList

/-- The key of an object under its organization, for a store that writes `before` in
front of both and `between` between them. -/
def joined (before : List Char) (between : Char) (k : ObjectKey) : String :=
  String.ofList (before ++ k.space ++ between :: k.name)

theorem namespaceKey_eq (k : ObjectKey) : namespaceKey k.organizationId = some k.space := if_pos k.organization_valid

theorem validateObjectId_eq (k : ObjectKey) : validateObjectId k.objectId = some k.name := if_pos k.object_valid

end ObjectKey

/-! ### Distinct objects have distinct keys -/

theorem afterLastColon_append {before after : List Char} (h : ':' ∉ after) :
    afterLastColon (before ++ ':' :: after) = after := by
  have hreverse : ∀ c ∈ after.reverse, decide (c ≠ ':') = true := fun c hc => by
    rw [decide_eq_true_iff]
    exact fun heq => h (heq ▸ List.mem_reverse.mp hc)
  rw [afterLastColon, List.reverse_append, List.reverse_cons, List.append_assoc, List.takeWhile_append_of_pos hreverse]
  simp

theorem isUuid_length {cs : List Char} (h : isUuid cs = true) : cs.length = 36 := by
  rw [isUuid, Bool.and_eq_true, beq_iff_eq] at h
  exact h.1

theorem colon_not_mem_uuid {cs : List Char} (h : isUuid cs = true) : ':' ∉ cs := by
  intro hmem
  obtain ⟨i, hi⟩ := List.mem_iff_getElem?.mp hmem
  have hall := (Bool.and_eq_true _ _ ▸ h).2
  have hcolon := List.all_eq_true.mp hall (':', i) (List.mem_zipIdx_iff_getElem?.mpr hi)
  split_ifs at hcolon
  · exact absurd (show (':' == '-') = true from hcolon) (by decide)
  · exact absurd (show isHexDigit ':' = true from hcolon) (by decide)

namespace ObjectKey

/-- The identifier of an organization is its UUID behind a fixed text. -/
theorem organizationId_eq (k : ObjectKey) : isUuid k.space = true ∧ k.organizationId.toList = organizationPrefix ++ k.space := by
  have h := k.organization_valid
  rw [isOrganization, Bool.and_eq_true, List.isPrefixOf_iff_prefix] at h
  obtain ⟨⟨uuid, heq⟩, huuid⟩ := h
  rw [← heq, List.drop_left] at huuid
  have hspace : k.space = uuid := by
    rw [space, ← heq]
    exact @afterLastColon_append "urn:evllm:org".toList uuid (colon_not_mem_uuid huuid)
  rw [hspace]
  exact ⟨huuid, heq.symm⟩

theorem space_length (k : ObjectKey) : k.space.length = 36 := isUuid_length k.organizationId_eq.1

theorem namespace_injective {k k' : ObjectKey} (h : k.space = k'.space) : k.organizationId = k'.organizationId := by
  rw [← String.toList_inj, k.organizationId_eq.2, k'.organizationId_eq.2, h]

theorem mem_alphabet (k : ObjectKey) {c : Char} (hc : c ∈ k.name) : c ∈ base64UrlAlphabet := by
  have h := k.object_valid
  rw [isOpaqueObjectId, Bool.and_eq_true, Bool.and_eq_true, List.all_eq_true] at h
  exact List.contains_iff_mem.mp (h.1.2 c hc)

theorem joined_injective {before : List Char} {between : Char} {k k' : ObjectKey}
    (h : k.joined before between = k'.joined before between) : k = k' := by
  have hlist := String.ofList_injective h
  rw [List.append_assoc, List.append_assoc] at hlist
  obtain ⟨hspace, hname⟩ := List.append_inj (List.append_cancel_left hlist) (k.space_length.trans k'.space_length.symm)
  have horganization := namespace_injective hspace
  have hobject : k.objectId = k'.objectId := String.toList_inj.mp (List.cons_eq_cons.mp hname).2
  cases k
  cases k'
  cases horganization
  cases hobject
  rfl

/-- No object is kept under a name that has a character outside of the alphabet. -/
theorem joined_ne {before : List Char} {between : Char} {k k' : ObjectKey} {name : List Char} {c : Char} (hc : c ∈ name)
    (halphabet : c ∉ base64UrlAlphabet) : String.ofList (before ++ k.space ++ between :: name) ≠ k'.joined before between := by
  intro h
  have hlist := String.ofList_injective h
  rw [List.append_assoc, List.append_assoc] at hlist
  obtain ⟨_, hname⟩ := List.append_inj (List.append_cancel_left hlist) (k.space_length.trans k'.space_length.symm)
  exact halphabet (k'.mem_alphabet ((List.cons_eq_cons.mp hname).2 ▸ hc))

end ObjectKey

end Repository
end Evllm
