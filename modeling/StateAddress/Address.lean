import StateAddress.Scheme

/-!
# Addresses

An address is a byte string of the scheme's address length.  It has a hexadecimal form, and its
leading bytes tell which kind of entity it belongs to.

## Main definitions

* `Address.check` : the bytes of a value that is an address.
* `Address.toHex`, `Address.ofHex` : the hexadecimal form and back.
* `Address.entity?` : the kind of entity of an address in either form.
* `Address.compose` : an address from a tag and parts.

## Main results

* `Address.compose_eq_ok` : what a composed address is made of.
-/

namespace StateAddress

namespace Address

/-- Whether a byte string has the length of an address. -/
def hasLength (s : Scheme) (b : Bytes) : Bool := (s .addressLength).isCount b.length

/-- Refuses a byte string that has not the length of an address. -/
def checkLength (s : Scheme) (b : Bytes) : Except Fault Bytes :=
  if hasLength s b then .ok b
  else .error (.rejected (.addressLength b.length (s .addressLength)))

/-- The bytes of a value that is an address. -/
def check (s : Scheme) : Value → Except Fault Bytes
  | .octets .fixed b => checkLength s b
  | .octets .growable b => checkLength s b
  | v => .error (.rejected (.notAddress v))

/-- The hexadecimal form of an address. -/
def toHex (s : Scheme) (v : Value) : Except Fault Text := (check s v).map Hex.encode

/-- The address of a hexadecimal form. -/
def ofHex (s : Scheme) (v : Value) : Except Fault Bytes := (Hex.ofValue v).bind (checkLength s)

/-- The bytes of an address in either form. -/
def bytes (s : Scheme) : Value → Except Fault Bytes
  | .text t => ofHex s (.text t)
  | v => check s v

/-- The kind of entity of an address in either form. -/
def entity? (s : Scheme) (v : Value) : Except Fault (Option Entity) :=
  (bytes s v).map Entity.ofTag?

/-! ### Composition -/

/-- The address of a kind of entity: the tag that the scheme gives to it and the parts after it,
which together have the length of an address. -/
def compose (s : Scheme) (e : Entity) (parts : List Value) : Except Fault Bytes := do
  let tag ← Hex.ofValue (s (.tag e))
  let rest ← joinOctets 1 parts
  if hasLength s (tag ++ rest) then
    return tag ++ rest
  else
    throw (.unfit (.addressLength e.label (tag ++ rest).length (s .addressLength)))

/-- A composed address is a tag and joined parts of the right total length. -/
theorem compose_eq_ok {s : Scheme} {e : Entity} {parts : List Value} {b : Bytes}
    (h : compose s e parts = .ok b) :
    ∃ tag rest, Hex.ofValue (s (.tag e)) = .ok tag ∧ joinOctets 1 parts = .ok rest ∧
      b = tag ++ rest ∧ hasLength s b = true := by
  rw [compose] at h
  cases ht : Hex.ofValue (s (.tag e)) with
  | error fault => simp [ht, bind, Except.bind] at h
  | ok tag =>
      cases hr : joinOctets 1 parts with
      | error fault => simp [ht, hr, bind, Except.bind] at h
      | ok rest =>
          simp only [ht, hr, bind, Except.bind] at h
          split at h
          · next hlen =>
              cases h
              exact ⟨tag, rest, rfl, rfl, rfl, hlen⟩
          · cases h

end Address

end StateAddress
