import StateAddress.Proofs.BuiltinProvider
import StateAddress.Proofs.SharedDeriver

/-!
# Providers that give the same digests

What a computation gives depends on the digests only.  With two providers that answer by the same
function it ends alike, in whatever states they are and whatever is recorded.  The built-in
providers are such if the other library does what is expected of it: then it makes no difference
which of them is in use.

## Main results

* `Computation.result_of_answersBy` : with the same digests, a computation ends alike.
* `Computation.result_builtin` : with a built-in provider, it ends as with the standard deriver.
-/

namespace StateAddress

variable {σ τ : Type}

section Alike

variable {p : Provider σ} {q : Provider τ} {digest : Bytes → Digest} (hp : p.AnswersBy digest)
  (hq : q.AnswersBy digest) (scheme : Scheme) (level level' : Level) (s : σ) (t : τ)

include hp hq

/-- With the same digests, the parts of an address are the same. -/
theorem result_takeSlices_of_answersBy (slices : List Slice) :
    ((takeSlices p scheme slices).run ⟨scheme, level⟩ s).result =
      ((takeSlices q scheme slices).run ⟨scheme, level'⟩ t).result := by
  induction slices generalizing s t with
  | nil => rfl
  | cons slice rest ih =>
      cases hpayload : slice.payload with
      | error fault =>
          rw [run_takeSlices_of_error p _ _ s rest hpayload,
            run_takeSlices_of_error q _ _ t rest hpayload]
      | ok b =>
          rw [run_takeSlices_of_ok p _ _ s rest hpayload,
            run_takeSlices_of_ok q _ _ t rest hpayload, hp b s, hq b t, mapError_ok]
          cases hpart : (digest b).toValue.take (scheme.portion slice.portion) with
          | error fault => simp only [Except.bind, hpart]
          | ok v =>
              have hothers := ih (p.hash (.bytes b) s).2 (q.hash (.bytes b) t).2
              simp only [Except.bind, hpart, hothers]

/-- With the same digests, a computation ends alike. -/
theorem Computation.result_of_answersBy (c : Computation) :
    ((c.address p).run ⟨scheme, level⟩ s).result =
      ((c.address q).run ⟨scheme, level'⟩ t).result := by
  cases c with
  | ofSubject subject =>
      change ((subject.derive p).run _ s).result = ((subject.derive q).run _ t).result
      rw [Subject.result_derive, Subject.result_derive]
      exact congrArg (Except.bind · _)
        (result_takeSlices_of_answersBy hp hq scheme level level' s t (subject.slices scheme))
  | ofSetting key =>
      change ((SettingKey.address key).run _ s).result = ((SettingKey.address key).run _ t).result
      rw [SettingKey.run_address, SettingKey.run_address]
      cases SettingKey.hashed scheme key with
      | error fault => rfl
      | ok found => simp only [run_composed]

end Alike

section Builtin

variable {library : Pycryptodome} (hlibrary : library.IsSha512)

include hlibrary

theorem Provider.answersBy_builtin (b : Builtin) :
    (builtin library b : Provider σ).AnswersBy fun m => Digest.bytes (StateAddress.sha512 m) :=
  fun m s => by rw [hash_builtin hlibrary b, hash_sha512_bytes]

/-- With a built-in provider, a computation ends as it does with the standard deriver. -/
theorem Computation.result_builtin (c : Computation) (b : Provider.Builtin) (scheme : Scheme)
    (level level' : Level) (s : σ) (t : τ) :
    ((c.address (.builtin library b)).run ⟨scheme, level⟩ s).result =
      ((c.address Deriver.standard.provider).run ⟨scheme, level'⟩ t).result :=
  c.result_of_answersBy (Provider.answersBy_builtin hlibrary b) (fun _ _ => rfl) scheme level level'
    s t

end Builtin

end StateAddress
