import StateAddress.Scheme

/-!
# Identifiers

What is hashed for an entity: texts in their UTF-8 form and byte strings as they are.  A
namespace is identified by its leading bytes, which may not end inside a character, and a
contract by its name and version with a separator between them.

## Main definitions

* `Identifier.encode` : the bytes of an identifier.
* `Identifier.registry` : the bytes that identify the registry of a namespace.
* `Identifier.contract` : the bytes that identify a contract.
-/

namespace StateAddress

namespace Identifier

/-- The bytes of an identifier, which a field of a request gives. -/
def encode (field : String) : Value → Except Fault Bytes
  | .text t =>
      match Utf8.encode t with
      | .ok b => .ok b
      | .error _ => .error (.rejected (.notUtf8 field t))
  | .octets .fixed b => .ok b
  | .octets .growable b => .ok b
  | v => .error (.rejected (.notIdentifier field v))

/-- Whether a value is a text. -/
def isText : Value → Bool
  | .text _ => true
  | _ => false

/-- The bytes that identify the registry of a namespace: as many as the scheme says from its
beginning.  Those of a text are whole characters. -/
def registry (s : Scheme) (given : Value) : Except Fault Bytes := do
  let needed := s .namespaceLength
  let encoded ← encode "namespace" given
  if ← (Value.int encoded.length).lt needed then
    throw (.rejected (.namespaceTooShort given needed))
  let bound ← needed.sliceBound
  let lead := Value.leadingItems bound encoded
  if isText given && !Utf8.isComplete lead then
    throw (.rejected (.namespaceCut given needed))
  return lead

/-- The bytes of the separator of a scheme. -/
def separator (s : Scheme) : Except Fault Bytes :=
  match s .contractSeparator with
  | .text t => (Utf8.encode t).mapError .unencodable
  | v => .error (.misused (.missingMember v.typeName "encode"))

/-- The bytes that identify a contract: its name, the separator and its version.  Nothing is
escaped, so a separator inside a name or a version is not told apart from the one between. -/
def contract (s : Scheme) (name version : Value) : Except Fault Bytes := do
  let left ← encode "contract name" name
  let middle ← separator s
  let right ← encode "contract version" version
  return left ++ middle ++ right

/-! ### Equations -/

@[simp] theorem encode_bytes (field : String) (b : Bytes) :
    encode field (.bytes b) = .ok b := rfl

@[simp] theorem encode_growable (field : String) (b : Bytes) :
    encode field (.octets .growable b) = .ok b := rfl

@[simp] theorem encode_map_scalar (field : String) (cs : List Char) :
    encode field (.text (cs.map .scalar)) = .ok (Utf8.ofChars cs) := by
  simp [encode]

@[simp] theorem separator_standard : separator Scheme.standard = .ok [0x2c] := by
  have h : Scheme.standard .contractSeparator = .text ([','].map .scalar) := rfl
  have hbytes : Utf8.ofChars [','] = [0x2c] := by decide
  rw [separator, h]
  simp only [Utf8.encode_map_scalar, hbytes]
  rfl

end Identifier

end StateAddress
