import StateAddress.Hex

/-!
# Entities

The seven kinds of things that have an address in the state.  Each kind has a tag of three or
four bytes that its addresses begin with, so that an address tells what it belongs to.

## Main definitions

* `Entity` : the kinds.
* `Entity.tag` : the leading bytes of a kind's addresses.
* `Entity.memberName`, `Entity.identifier` : the name of a kind in upper and in lower case.
* `Entity.searchOrder` : the kinds with the longer tags first.
* `Entity.ofTag?` : the kind of a byte string by its leading bytes.

## Main results

* `Entity.mem_searchOrder` : the search leaves no kind out.
* `Entity.eq_of_tag_isPrefix` : at most one kind's tag leads a byte string.
-/

namespace StateAddress

/-- A kind of thing that has an address. -/
inductive Entity where
  | namespaceRegistry
  | contractRegistry
  | contract
  | smartPermission
  | agent
  | organization
  | setting
  deriving DecidableEq, Repr

namespace Entity

/-- The leading bytes of a kind's addresses. -/
def tag : Entity → Bytes
  | namespaceRegistry => [0x00, 0xec, 0x00]
  | contractRegistry => [0x00, 0xec, 0x01]
  | contract => [0x00, 0xec, 0x02]
  | smartPermission => [0x00, 0xec, 0x03]
  | agent => [0xca, 0xd1, 0x1d, 0x00]
  | organization => [0xca, 0xd1, 0x1d, 0x01]
  | setting => [0x00, 0x00, 0x00]

/-- The name of a kind in messages. -/
def label : Entity → String
  | namespaceRegistry => "namespace registry"
  | contractRegistry => "contract registry"
  | contract => "contract"
  | smartPermission => "smart permission"
  | agent => "agent"
  | organization => "organization"
  | setting => "setting"

/-- The name of a kind as a member of their enumeration. -/
def memberName : Entity → String
  | namespaceRegistry => "NAMESPACE_REGISTRY"
  | contractRegistry => "CONTRACT_REGISTRY"
  | contract => "CONTRACT"
  | smartPermission => "SMART_PERMISSION"
  | agent => "AGENT"
  | organization => "ORGANIZATION"
  | setting => "SETTING"

/-- The identifier of a kind: its name as a member, in lower case. -/
def identifier (e : Entity) : String := String.ofList (e.memberName.toList.map Char.toLower)

/-- All kinds, the longer tags first. -/
def searchOrder : List Entity :=
  [agent, organization, namespaceRegistry, contractRegistry, contract, smartPermission, setting]

example : searchOrder.map identifier =
    ["agent", "organization", "namespace_registry", "contract_registry", "contract",
      "smart_permission", "setting"] := by decide

/-- The first kind in an order of search whose tag leads a byte string. -/
def ofTagIn? (order : List Entity) (b : Bytes) : Option Entity :=
  order.find? fun e => e.tag.isPrefixOf b

/-- The kind of a byte string by its leading bytes. -/
def ofTag? (b : Bytes) : Option Entity := ofTagIn? searchOrder b

/-- The search leaves no kind out. -/
theorem mem_searchOrder (e : Entity) : e ∈ searchOrder := by
  cases e <;> decide

theorem eq_of_tag_prefix_tag : (d e : Entity) → d.tag <+: e.tag → d = e := by
  intro d e
  cases d <;> cases e <;> decide

/-- At most one kind's tag leads a byte string. -/
theorem eq_of_tag_isPrefix {d e : Entity} {b : Bytes} (hd : d.tag <+: b) (he : e.tag <+: b) :
    d = e := by
  rcases List.prefix_or_prefix_of_prefix hd he with h | h
  · exact eq_of_tag_prefix_tag d e h
  · exact (eq_of_tag_prefix_tag e d h).symm

end Entity

end StateAddress
