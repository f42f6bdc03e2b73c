import StateAddress.Deriver

/-!
# Requests

A request asks for one line of text: the address of an entity in hexadecimal form, or the kind
of entity that an address belongs to.  It names what it is for and the hash provider to use, and
it gives identifiers in fields.

## Main definitions

* `Topic` : what requests are for, with their fields.
* `Request` : a topic, a hash provider and fields, as values of any kind.
* `Request.answer` : the line that answers a request.

## Main results

* `Topic.ofName?_name` : a topic is determined by its name.
-/

namespace StateAddress

/-! ### Topics -/

/-- What a request is for. -/
inductive Topic where
  | namespaceRegistry
  | contractRegistry
  | contract
  | smartPermission
  | agent
  | organization
  | setting
  | classification
  deriving DecidableEq, Repr

namespace Topic

/-- The name of a topic. -/
def name : Topic → String
  | namespaceRegistry => "namespace-registry"
  | contractRegistry => "contract-registry"
  | contract => "contract"
  | smartPermission => "smart-permission"
  | agent => "agent"
  | organization => "org"
  | setting => "setting"
  | classification => "type"

/-- All topics. -/
def all : List Topic :=
  [namespaceRegistry, contractRegistry, contract, smartPermission, agent, organization, setting,
    classification]

/-- The topic of a name. -/
def ofName? (t : Text) : Option Topic := all.find? fun topic => Text.ofString topic.name = t

/-- The fields of a topic, in order. -/
def fields : Topic → List String
  | namespaceRegistry => ["namespace"]
  | contractRegistry => ["name"]
  | contract => ["name", "version"]
  | smartPermission => ["org_id", "name"]
  | agent => ["name"]
  | organization => ["org_id"]
  | setting => ["key"]
  | classification => ["address"]

/-- A topic is determined by its name. -/
theorem ofName?_name (topic : Topic) : ofName? (Text.ofString topic.name) = some topic := by
  cases topic <;> decide

end Topic

/-! ### Requests -/

/-- A request: fields with a name and a value, among them the topic and the hash provider. -/
structure Request where
  fields : List (Text × Value)
  deriving Repr

namespace Request

/-- The request on a topic with a hash provider and the values of the topic's fields. -/
def ofTopic (topic : Topic) (provider : Value) (values : List Value) : Request :=
  ⟨(Text.ofString "entity", .ofString topic.name) :: (Text.ofString "hash", provider) ::
    (topic.fields.map Text.ofString).zip values⟩

/-- The value of a field. -/
def field (r : Request) (name : String) : Except Fault Value :=
  match r.fields.find? fun e => e.1 = Text.ofString name with
  | some e => .ok e.2
  | none => .error (.misused (.missingMember "Namespace" name))

/-- The topic that a value names. -/
def topic? : Value → Option Topic
  | .text t => Topic.ofName? t
  | _ => none

/-- The address of a subject with fields of a request, in hexadecimal form. -/
def derived {σ : Type} (d : Deriver σ) (subject : Except Fault Subject) : Operation σ Text := do
  let found ← Operation.ofExcept subject
  let address ← found.derive d.provider
  let s ← Operation.scheme
  Operation.ofExcept (Address.toHex s (.bytes address))

/-- The line on a topic, with a deriver. -/
def line {σ : Type} (r : Request) (d : Deriver σ) : Topic → Operation σ Text
  | .namespaceRegistry => derived d (Subject.namespaceRegistry <$> r.field "namespace")
  | .contractRegistry => derived d (Subject.contractRegistry <$> r.field "name")
  | .contract => derived d do
      let name ← r.field "name"
      let version ← r.field "version"
      return .contract name version
  | .smartPermission => derived d do
      let owner ← r.field "org_id"
      let name ← r.field "name"
      return .smartPermission owner name
  | .agent => derived d (Subject.agent <$> r.field "name")
  | .organization => derived d (Subject.organization <$> r.field "org_id")
  | .setting => do
      let key ← Operation.ofExcept (r.field "key")
      let address ← SettingKey.address key
      let s ← Operation.scheme
      Operation.ofExcept (Address.toHex s (.bytes address))
  | .classification => do
      let address ← Operation.ofExcept (r.field "address")
      let s ← Operation.scheme
      let entity ← Operation.ofExcept (Address.entity? s address)
      return Text.ofString ((entity.map Entity.identifier).getD "unknown")

/-- The line that answers a request.  The hash provider is looked up first. -/
def answer {σ : Type} (library : Pycryptodome) (r : Request) : Operation σ Text := do
  let s ← Operation.scheme
  let hash ← Operation.ofExcept (r.field "hash")
  let builtin ← Operation.ofExcept (Provider.Builtin.ofName hash)
  let deriver ← Operation.ofExcept (Deriver.accept s (.builtin library builtin))
  let entity ← Operation.ofExcept (r.field "entity")
  Operation.record (.started entity hash)
  match topic? entity with
  | some topic => r.line deriver topic
  | none => Operation.fail (.unknownEntity entity)

end Request

end StateAddress
