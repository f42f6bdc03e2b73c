import StateAddress.Setting

/-!
# Derivers

A deriver is a hash provider that has been accepted: if it declares the size of its digests,
that size covers the longest part of an address.  A provider that declares nothing is accepted,
and its digests are looked at one by one.

## Main definitions

* `Deriver` : an accepted provider.
* `Deriver.accept` : the deriver of a provider.
* `Deriver.standard` : the deriver of the built-in provider, which the library starts with.

## Main results

* `Deriver.accept_of_undeclared`, `Deriver.accept_of_size` : who is accepted.
-/

namespace StateAddress

/-- A hash provider that addresses may be derived with. -/
structure Deriver (σ : Type) where
  /-- The provider in use. -/
  provider : Provider σ

namespace Deriver

variable {σ : Type}

/-- The deriver that the library starts with. -/
def standard : Deriver σ := ⟨.sha512⟩

/-- The size that a provider declares, where it declares one. -/
def declaredSize? (p : Provider σ) : Option Value :=
  match p.digestSize with
  | some .null => none
  | size => size

/-- The deriver of a provider. -/
def accept (s : Scheme) (p : Provider σ) : Except Fault (Deriver σ) := do
  let longest ← s.longestPortion
  match declaredSize? p with
  | none => return ⟨p⟩
  | some size =>
      if ← size.lt longest then
        throw (.unfit (.providerTooShort p.name.shown size longest))
      return ⟨p⟩

/-- The deriver of a provider, or of the built-in one where none is given. -/
def ofGiven (s : Scheme) (given : Option (Provider σ)) : Except Fault (Deriver σ) :=
  accept s (given.getD .sha512)

/-- A provider that declares no size is accepted. -/
theorem accept_of_undeclared {s : Scheme} {p : Provider σ} {longest : Value}
    (hs : s.longestPortion = .ok longest) (hp : declaredSize? p = none) :
    accept s p = .ok ⟨p⟩ := by
  simp [accept, hs, hp, bind, Except.bind, pure, Except.pure]

/-- A provider that declares a size is accepted if that covers the longest part. -/
theorem accept_of_size {s : Scheme} {p : Provider σ} {longest size : Int}
    (hs : s.longestPortion = .ok (.int longest)) (hp : p.digestSize = some (.int size)) :
    accept s p =
      if size < longest then
        .error (.unfit (.providerTooShort p.name.shown (.int size) (.int longest)))
      else .ok ⟨p⟩ := by
  have hd : declaredSize? p = some (.int size) := by rw [declaredSize?, hp]
  by_cases h : size < longest <;>
    simp [accept, hs, hd, h, bind, Except.bind, pure, Except.pure, throw, throwThe,
      MonadExceptOf.throw]

end Deriver

end StateAddress
