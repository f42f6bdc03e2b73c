import StateAddress.Address
import StateAddress.Identifier
import StateAddress.Operation

/-!
# Derived addresses

The addresses of six kinds of entities come from hashed identifiers.  What is hashed for a
subject is data: a list of slices, each with the bytes to hash, the number of digest bytes to
take and a purpose for the message of a failure.  One procedure takes the slices in order, asks
the provider for each, and composes the address.

## Main definitions

* `Subject` : what an address is derived for, with the identifiers given.
* `Slice` : one part of an address.
* `Subject.slices` : the parts of a subject's address.
* `takeDigest` : the leading part of a provider's answer.
* `Subject.derive` : the address of a subject.

## Main results

* `run_takeDigest` : what a single question leaves behind.
-/

namespace StateAddress

/-- What an address is derived for, with the identifiers given. -/
inductive Subject where
  | namespaceRegistry (given : Value)
  | contractRegistry (name : Value)
  | contract (name version : Value)
  | smartPermission (owner name : Value)
  | agent (name : Value)
  | organization (id : Value)
  deriving Repr

/-- One part of an address. -/
structure Slice where
  /-- The bytes to hash, or why there are none. -/
  payload : Except Fault Bytes
  /-- Which part of the address it is. -/
  portion : Portion
  /-- What the hash is for. -/
  purpose : String

namespace Subject

/-- The kind of a subject. -/
def entity : Subject → Entity
  | namespaceRegistry _ => .namespaceRegistry
  | contractRegistry _ => .contractRegistry
  | contract .. => .contract
  | smartPermission .. => .smartPermission
  | agent _ => .agent
  | organization _ => .organization

/-- The parts of a subject's address, in order. -/
def slices (s : Scheme) : Subject → List Slice
  | namespaceRegistry given =>
      [⟨Identifier.registry s given, .namespaceRegistry, "namespace registry address"⟩]
  | contractRegistry name =>
      [⟨Identifier.encode "contract registry name" name, .contractRegistry,
        "contract registry address"⟩]
  | contract name version =>
      [⟨Identifier.contract s name version, .contract, "contract address"⟩]
  | smartPermission owner name =>
      [⟨Identifier.encode "organization id" owner, .permissionOrganization, "pike org id"⟩,
        ⟨Identifier.encode "smart permission name" name, .permissionName,
          "smart permission name"⟩]
  | agent name =>
      [⟨Identifier.encode "agent name" name, .agent, "pike agent address"⟩]
  | organization id =>
      [⟨Identifier.encode "organization id" id, .organization, "pike org address"⟩]

end Subject

/-! ### Asking the provider -/

variable {σ : Type}

/-- The leading part of a provider's answer to a value. -/
def takeDigest (p : Provider σ) (data bound purpose : Value) : Operation σ Value := do
  let digest ← (Operation.ask p data).mapFault (Fault.whileHashing purpose)
  Operation.ofExcept (digest.take bound)

/-- What a single question leaves behind: one value asked, and the leading part of the answer. -/
theorem run_takeDigest (p : Provider σ) (data bound purpose : Value) (setup : Setup) (s : σ) :
    (takeDigest p data bound purpose).run setup s =
      ⟨((p.hash data s).1.mapError (Fault.whileHashing purpose)).bind (·.toValue.take bound),
        [data], [], (p.hash data s).2⟩ := by
  rw [takeDigest, Operation.run_bind]
  simp only [Operation.run_mapFault, Operation.run_ask, Operation.run_ofExcept, Digest.take_eq]
  cases (p.hash data s).1 <;> simp [mapError_ok, mapError_error, Except.bind]

/-- The parts of an address, each asked for in turn. -/
def takeSlices (p : Provider σ) (s : Scheme) : List Slice → Operation σ (List Value)
  | [] => pure []
  | slice :: rest => do
      let payload ← Operation.ofExcept slice.payload
      let part ← takeDigest p (.bytes payload) (s.portion slice.portion) (.ofString slice.purpose)
      let parts ← takeSlices p s rest
      return part :: parts

/-- The address of a kind of entity from its parts, reported when it is composed. -/
def composed (e : Entity) (parts : List Value) : Operation σ Bytes := do
  let s ← Operation.scheme
  let address ← Operation.ofExcept (Address.compose s e parts)
  Operation.record (.derived e address)
  return address

/-- The address of a subject, with a hash provider. -/
def Subject.derive (p : Provider σ) (subject : Subject) : Operation σ Bytes := do
  let s ← Operation.scheme
  let parts ← takeSlices p s (subject.slices s)
  composed subject.entity parts

end StateAddress
