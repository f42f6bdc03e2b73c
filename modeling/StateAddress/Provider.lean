import StateAddress.Sha2
import StateAddress.Digest

/-!
# Hash providers

What hashes identifiers.  A provider answers a value with a digest or with a fault, and may
change its own state in doing so; nothing is promised about the digests.  It may carry a name
and may declare the size of its digests.  Injected hash functions become providers in two ways:
bare, with nothing checked or converted, or adapted, with both.

One of the two built-in providers hashes with another library, pycryptodome.  What that library
does is not part of this one: it is given as a `Pycryptodome`, and what is expected of it is the
hypothesis `Pycryptodome.IsSha512`.

## Main definitions

* `HashFunction` : a hash function with a state.
* `Provider` : a hash provider, and `Provider.Name` : what it is called.
* `Pycryptodome` : the hash function of another library.
* `Provider.builtin`, `Provider.Builtin.ofName` : the built-in providers, by name.
* `Provider.adapted`, `Provider.bare`, `Provider.ofValue`, `Provider.unimplemented` : providers
  from elsewhere.

## Main results

* `Provider.builtin_of_isSha512` : with the library that is expected, the built-in providers
  differ in their names only.
-/

namespace StateAddress

/-- An injected function with a state: it answers each value with a value or a fault. -/
abbrev HashFunction (σ : Type) : Type := Value → σ → Except Fault Value × σ

/-- The name of a provider, or for want of one what kind of thing it is. -/
inductive Provider.Name where
  | given (name : Value)
  | missing (kind : String)
  deriving Repr

/-- What hashes identifiers. -/
structure Provider (σ : Type) where
  /-- The answer to a value. -/
  hash : Value → σ → Except Fault Digest × σ
  /-- The name of the provider, where it has one. -/
  name : Provider.Name
  /-- The declared size of its digests, where it is declared. -/
  digestSize : Option Value

namespace Value

/-- The message that a value is to a hash function that accepts byte strings only. -/
def hashInput : Value → Except Fault Bytes
  | octets .fixed b => .ok b
  | octets .growable b => .ok b
  | v => .error (.misused (.notHashable v.typeName))

theorem exists_notHashable_of_hashInput {v : Value} {fault : Fault}
    (h : v.hashInput = .error fault) : ∃ given, fault = .misused (.notHashable given) := by
  rw [hashInput.eq_def] at h
  split at h <;> cases h
  exact ⟨_, rfl⟩

mutual

/-- The kind of the first part of a value that keeps it from being a key of a table. -/
def unhashable? : Value → Option String
  | octets .growable b => some (octets .growable b).typeName
  | list items => some (list items).typeName
  | dict entries => some (dict entries).typeName
  | tuple items => unhashableItem? items
  | _ => none

/-- The same for the items of a sequence. -/
def unhashableItem? : List Value → Option String
  | [] => none
  | v :: rest => v.unhashable? <|> unhashableItem? rest

end

end Value

/-! ### The other library -/

/-- The hash function of the pycryptodome library. -/
structure Pycryptodome where
  /-- What hashing a message gives, or how it fails. -/
  digest : Bytes → Except Fault Value
  /-- The size that the library declares for its digests. -/
  digestSize : Value

/-- What is expected of the library: SHA-512 digests, and their size. -/
structure Pycryptodome.IsSha512 (library : Pycryptodome) : Prop where
  digest_eq : ∀ m, library.digest m = .ok (.bytes (sha512 m))
  digestSize_eq : library.digestSize = .int 64

/-- A library that does what is expected. -/
def Pycryptodome.expected : Pycryptodome := ⟨fun m => .ok (.bytes (sha512 m)), .int 64⟩

theorem Pycryptodome.isSha512_expected : expected.IsSha512 := ⟨fun _ => rfl, rfl⟩

namespace Provider

variable {σ : Type}

/-! ### Built-in providers -/

/-- The two built-in providers. -/
inductive Builtin where
  | sha512
  | pycryptodome
  deriving DecidableEq, Repr

/-- The name of a built-in provider. -/
def Builtin.name : Builtin → String
  | sha512 => "sha512"
  | pycryptodome => "pycryptodome"

/-- The names of the built-in providers, in alphabetical order. -/
def Builtin.names : List String := [pycryptodome.name, sha512.name]

/-- A provider that hands byte strings to a function. -/
def ofDigest (name : String) (digestSize : Value) (digest : Bytes → Except Fault Value) :
    Provider σ where
  hash data s := ((data.hashInput.bind digest).map .value, s)
  name := .given (.ofString name)
  digestSize := some digestSize

/-- The provider that the library brings along: the SHA-512 digest of byte strings. -/
def sha512 : Provider σ :=
  ofDigest Builtin.sha512.name (.int 64) fun m => .ok (.bytes (StateAddress.sha512 m))

/-- A built-in provider. -/
def builtin (library : Pycryptodome) : Builtin → Provider σ
  | .sha512 => sha512
  | .pycryptodome => ofDigest Builtin.pycryptodome.name library.digestSize library.digest

/-- The built-in provider of a name. -/
def Builtin.ofName (name : Value) : Except Fault Builtin :=
  match name.unhashable? with
  | some kind => .error (.misused (.unhashable kind))
  | none =>
      match name with
      | .text t =>
          if t = Text.ofString Builtin.sha512.name then .ok .sha512
          else if t = Text.ofString Builtin.pycryptodome.name then .ok .pycryptodome
          else .error (.unfit (.unknownProvider name))
      | _ => .error (.unfit (.unknownProvider name))

@[simp] theorem hash_sha512_bytes (m : Bytes) (s : σ) :
    (sha512 : Provider σ).hash (.bytes m) s =
      (.ok (Digest.bytes (StateAddress.sha512 m)), s) := rfl

/-- With the library that is expected, the built-in providers differ in their names only. -/
theorem builtin_of_isSha512 {library : Pycryptodome} (hlibrary : library.IsSha512) (b : Builtin) :
    (builtin library b : Provider σ) =
      { (sha512 : Provider σ) with name := .given (.ofString b.name) } := by
  cases b with
  | sha512 => rfl
  | pycryptodome =>
      have hdigest : library.digest = fun m => .ok (.bytes (StateAddress.sha512 m)) :=
        funext hlibrary.digest_eq
      rw [builtin, hdigest, hlibrary.digestSize_eq]
      rfl

/-! ### Providers from elsewhere -/

/-- A hash function that is given byte strings only and whose answers are made byte strings, as far
as there is memory for them. -/
def adapted (memory : Nat) (f : HashFunction σ) (digestSize name : Value) : Provider σ where
  hash data s :=
    match data.hashInput with
    | .error fault => (.error fault, s)
    | .ok _ =>
        let (answer, s') := f data s
        (answer.bind (Digest.ofValue memory), s')
  name := .given name
  digestSize := some digestSize

/-- A hash function taken as it is. -/
def bare (f : HashFunction σ) (digestSize : Option Value) (name : Provider.Name) :
    Provider σ where
  hash data s :=
    let (answer, s') := f data s
    (answer.map .value, s')
  name := name
  digestSize := digestSize

/-- The answer of a thing of some kind that does not hash at all. -/
def cannotHash (kind : String) : HashFunction σ := fun _ s =>
  (.error (.misused (.missingMember kind "hash")), s)

/-- A value in the place of a provider, which does not hash. -/
def ofValue (v : Value) : Provider σ := bare (cannotHash v.typeName) none (.missing v.typeName)

/-- A provider that leaves everything open. -/
def unimplemented : Provider σ where
  hash _ s := (.error (.raised ⟨.notImplemented, []⟩), s)
  name := .given .null
  digestSize := some .null

/-- What a provider is called in messages. -/
def Name.shown : Provider.Name → Value
  | given name => name
  | missing kind => .ofString kind

end Provider

end StateAddress
