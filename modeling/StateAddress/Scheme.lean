import StateAddress.Entity
import StateAddress.Value.Sequence

/-!
# Addressing schemes

A scheme gives every constant of the derivation a value: the tags, the numbers of digest bytes
taken for each part of an address, and the lengths and separators of identifiers.  State is
stored under the addresses of one scheme, `Scheme.standard`.  A constant may be given any value
whatsoever; an operation that cannot use it says so.

## Main definitions

* `Portion` : the parts of addresses that are taken from a provider's digest.
* `Constant` : the names of the constants.
* `Scheme` : a value for each of them.
* `Scheme.standard` : the scheme in use.
* `Scheme.assign` : a scheme with one constant changed.
* `Scheme.longestPortion` : the greatest number of digest bytes that an address takes.

## Main results

* `Scheme.assign_self`, `Scheme.assign_of_ne` : what a change changes.
-/

namespace StateAddress

/-- The parts of addresses that are taken from the digest of a hash provider. -/
inductive Portion where
  | namespaceRegistry
  | contractRegistry
  | contract
  | permissionOrganization
  | permissionName
  | agent
  | organization
  deriving DecidableEq, Repr

/-- The names of the constants of a scheme. -/
inductive Constant where
  /-- The number of bytes of an address. -/
  | addressLength
  /-- The hexadecimal form of the bytes that the addresses of a kind begin with. -/
  | tag (entity : Entity)
  /-- The number of digest bytes of a part of an address. -/
  | portionLength (portion : Portion)
  /-- The number of leading bytes of a namespace that identify its registry. -/
  | namespaceLength
  /-- The text between the name and the version of a contract. -/
  | contractSeparator
  /-- The number of parts of a settings key. -/
  | settingParts
  /-- The number of digest bytes of each part of a settings key. -/
  | settingPartLength
  /-- The tags of the smart contract entities. -/
  | contractTags
  /-- The bytes that the tags of agents and organizations share, in hexadecimal form. -/
  | pikeTag
  /-- The key of the setting that names the administrators. -/
  | administratorsKey
  /-- The address of the setting that names the administrators. -/
  | administratorsAddress
  deriving DecidableEq, Repr

namespace Portion

/-- The name of the constant that gives the length of a part. -/
def lengthName : Portion → String
  | namespaceRegistry => "NAMESPACE_REGISTRY_HASH_LENGTH"
  | contractRegistry => "CONTRACT_REGISTRY_HASH_LENGTH"
  | contract => "CONTRACT_HASH_LENGTH"
  | permissionOrganization => "SMART_PERMISSION_ORG_HASH_LENGTH"
  | permissionName => "SMART_PERMISSION_NAME_HASH_LENGTH"
  | agent => "AGENT_HASH_LENGTH"
  | organization => "ORG_HASH_LENGTH"

/-- The number of digest bytes of a part in the standard scheme. -/
def standardLength : Portion → Nat
  | permissionOrganization => 3
  | permissionName => 29
  | agent => 31
  | organization => 31
  | _ => 32

/-- All parts. -/
def all : List Portion :=
  [namespaceRegistry, contractRegistry, contract, permissionOrganization, permissionName, agent,
    organization]

end Portion

/-- The name of the constant that gives the tag of a kind. -/
def Entity.tagName : Entity → String
  | namespaceRegistry => "NAMESPACE_REGISTRY_ADDRESS_PREFIX"
  | contractRegistry => "CONTRACT_REGISTRY_ADDRESS_PREFIX"
  | contract => "CONTRACT_ADDRESS_PREFIX"
  | smartPermission => "SMART_PERMISSION_ADDRESS_PREFIX"
  | agent => "AGENT_ADDRESS_PREFIX"
  | organization => "ORG_ADDRESS_PREFIX"
  | setting => "SETTING_ADDRESS_PREFIX"

namespace Constant

/-- The public name of a constant. -/
def name : Constant → String
  | addressLength => "ADDRESS_LENGTH"
  | tag entity => entity.tagName
  | portionLength portion => portion.lengthName
  | namespaceLength => "NAMESPACE_LENGTH"
  | contractSeparator => "CONTRACT_SEPARATOR"
  | settingParts => "SETTING_KEY_PARTS"
  | settingPartLength => "SETTING_PART_HASH_LENGTH"
  | contractTags => "NAMESPACES"
  | pikeTag => "PIKE_NAMESPACE"
  | administratorsKey => "ADMINISTRATORS_SETTING_KEY"
  | administratorsAddress => "ADMINISTRATORS_SETTING_ADDRESS"

/-- All constants. -/
def all : List Constant :=
  Entity.searchOrder.map tag ++ Portion.all.map portionLength ++
    [addressLength, namespaceLength, contractSeparator, settingParts, settingPartLength,
      contractTags, pikeTag, administratorsKey, administratorsAddress]

/-- The constant of a public name. -/
def ofName? (s : String) : Option Constant := all.find? fun c => c.name == s

end Constant

/-- A value for each constant. -/
def Scheme : Type := Constant → Value

namespace Scheme

/-- The key of the setting that names the administrators. -/
def administratorsKey : String := "sawtooth.swa.administrators"

/-- The tag of a kind as the value of a constant. -/
def tagValue (e : Entity) : Value := .text (Hex.encode e.tag)

/-- The scheme that state is stored under. -/
def standard : Scheme
  | .addressLength => .int 35
  | .tag entity => tagValue entity
  | .portionLength portion => .int portion.standardLength
  | .namespaceLength => .int 6
  | .contractSeparator => .ofString ","
  | .settingParts => .int 4
  | .settingPartLength => .int 8
  | .contractTags =>
      .list ([.namespaceRegistry, .contractRegistry, .contract, .smartPermission].map tagValue)
  | .pikeTag => .text (Hex.encode (Entity.agent.tag.take 3))
  | .administratorsKey => .ofString administratorsKey
  | .administratorsAddress =>
      .ofString "000000a87cb5eafdcca6a814e4add97c4b517d3c530c2f44b31d18e3b0c44298fc1c14"

/-- A scheme with one constant changed. -/
def assign (s : Scheme) (c : Constant) (v : Value) : Scheme := fun d => if d = c then v else s d

@[simp] theorem assign_self (s : Scheme) (c : Constant) (v : Value) : s.assign c v c = v := by
  simp [assign]

@[simp] theorem assign_of_ne (s : Scheme) {c d : Constant} (v : Value) (h : d ≠ c) :
    s.assign c v d = s d := by
  simp [assign, h]

/-- The number of digest bytes of a part. -/
def portion (s : Scheme) (p : Portion) : Value := s (.portionLength p)

/-- The greatest number of digest bytes that a part of an address takes. -/
def longestPortion (s : Scheme) : Except Fault Value :=
  (s.portion .namespaceRegistry).greatest
    ([.contractRegistry, .contract, .permissionOrganization, .permissionName, .agent,
      .organization].map s.portion)

end Scheme

end StateAddress
