import StateAddress.Proofs.Consultation

/-!
# Addresses with one slice

All addresses of subjects but those of smart permissions are made of one slice.  Such an address is
derived with one question, and what the derivation leaves behind depends on the bytes of the slice
and on the answer to them only.  If the answers of a provider depend on the bytes alone, two
derivations for the same bytes therefore end alike, from whatever states they begin.

## Main definitions

* `Provider.IsMemoryless` : the answers of a provider depend on the bytes alone.

## Main results

* `Subject.run_derive_of_slice` : what is left behind by a derivation with one slice.
* `Subject.result_derive_of_isMemoryless` : derivations for the same bytes end alike.
-/

namespace StateAddress

variable {σ : Type}

/-- A provider is *memoryless* when its answer to a byte string does not depend on its state. -/
def Provider.IsMemoryless (p : Provider σ) : Prop :=
  ∀ b s t, (p.hash (.bytes b) s).1 = (p.hash (.bytes b) t).1

namespace Subject

variable (p : Provider σ) {setup : Setup} {subject : Subject} {slice : Slice} {b : Bytes}

/-- What is left behind by a derivation with one slice: one value asked, and the address that is
composed of the part taken of the answer. -/
theorem run_derive_of_slice (s : σ) (hslices : subject.slices setup.scheme = [slice])
    (hpayload : slice.payload = .ok b) :
    (subject.derive p).run setup s =
      let part := ((p.hash (.bytes b) s).1.mapError
        (Fault.whileHashing (.ofString slice.purpose))).bind
          (·.toValue.take (setup.scheme.portion slice.portion))
      let result := part.bind fun v => Address.compose setup.scheme subject.entity [v]
      ⟨result, [.bytes b], Event.ofComposed subject.entity setup.level result,
        (p.hash (.bytes b) s).2⟩ := by
  have htaken := run_takeSlices_of_ok p setup.scheme setup s [] hpayload
  rw [run_derive, taken, hslices, htaken]
  cases ((p.hash (.bytes b) s).1.mapError
      (Fault.whileHashing (.ofString slice.purpose))).bind
        (·.toValue.take (setup.scheme.portion slice.portion)) with
  | error fault => rfl
  | ok v => rfl

/-- With a memoryless provider, derivations for the same bytes end alike. -/
theorem result_derive_of_isMemoryless {p : Provider σ} (hp : p.IsMemoryless) {other : Subject}
    (s t : σ) (hslices : subject.slices setup.scheme = [slice]) (hpayload : slice.payload = .ok b)
    (hentity : other.entity = subject.entity)
    (hother : other.slices setup.scheme = subject.slices setup.scheme) :
    ((other.derive p).run setup t).result = ((subject.derive p).run setup s).result := by
  rw [other.run_derive_of_slice p t (hother.trans hslices) hpayload,
    subject.run_derive_of_slice p s hslices hpayload, hp b t s, hentity]

end Subject

end StateAddress
