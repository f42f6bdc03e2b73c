import StateAddress.Value.Written

/-!
# Address errors

The errors that belong to the derivation of addresses.  There is a general kind and two special
ones: an input that was refused, and a hash provider that failed.  Each carries a message, and
the special kinds say in front of it what happened.

## Main definitions

* `AddressError.Kind` : the three kinds and their names.
* `AddressError.displayed`, `AddressError.quoted` : the two written forms.
* `AddressError.Kind.ancestry` : the kinds an error counts as.
-/

namespace StateAddress

/-- The kinds of address errors. -/
inductive AddressError.Kind where
  | general
  | refusedInput
  | failedHash
  deriving DecidableEq, Repr

/-- An address error with its message. -/
structure AddressError where
  kind : AddressError.Kind
  message : Value
  deriving Repr

namespace AddressError

/-- The name of a kind. -/
def Kind.name : Kind → String
  | general => "AddressingError"
  | refusedInput => "InvalidInput"
  | failedHash => "HashError"

/-- What a kind says in front of the message. -/
def Kind.preamble : Kind → String
  | general => ""
  | refusedInput => "addressing input is invalid: "
  | failedHash => "failed to produce hash: "

/-- The kinds that an error of this kind counts as: the general one and its own. -/
def Kind.ancestry : Kind → List Kind
  | general => [general]
  | kind => [general, kind]

/-- The text of an error: what happened, and the message. -/
def displayed (e : AddressError) : Text := e.kind.preamble ++ e.message.displayed

/-- The form that names the kind and quotes the message. -/
def quoted (e : AddressError) : Text := e.kind.name ++ "(" ++ e.message.quoted ++ ")"

end AddressError

end StateAddress
