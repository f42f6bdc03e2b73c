import StateAddress.Derivation

/-!
# Parts of digests

A single question for the first bytes of a digest gives exactly as many bytes as are asked for, of
the kind that the digest has, or it is refused because the digest is too short; a shorter part is
never given instead.  So the parts of one digest lead one another, and two parts of one length are
equal only if the digests agree as far as that.  A view of other items than single bytes in a row is
measured by the places of its first dimension instead, and of these exactly as many are given.

## Main definitions

* `Provider.digestOf` : what a provider answers a value with in a state, as a value.

## Main results

* `run_takeDigest_of_digestOf` : what a single question leaves behind, from the digest.
* `result_takeDigest_eq_ok_iff` : the parts that are given are the first bytes of the digest.
* `result_takeDigest_of_le` : one part of a digest gives all the shorter ones.
* `result_takeDigest_of_view` : what is given of a view.
* `Provider.parts_are_exact` : what the parts of digests are.
* `Provider.not_forall_parts_are_exact` : they are not always so many bytes.
-/

namespace StateAddress

variable {σ : Type}

/-- What a provider answers a value with in a state, as a value. -/
def Provider.digestOf (p : Provider σ) (data : Value) (s : σ) : Except Fault Value :=
  (p.hash data s).1.map Digest.toValue

section Question

variable {p : Provider σ} {data bound : Value} {setup : Setup} {s : σ} {n : Nat} {kind : OctetKind}
  {part : Bytes}

/-- What a single question leaves behind, from the digest: the part that is taken of it. -/
theorem run_takeDigest_of_digestOf {digest : Value} (h : p.digestOf data s = .ok digest)
    (purpose : Value) :
    (takeDigest p data bound purpose).run setup s =
      ⟨digest.take bound, [data], [], (p.hash data s).2⟩ := by
  obtain ⟨answer, hanswer, rfl⟩ := exists_of_map_eq_ok h
  rw [run_takeDigest, hanswer]
  rfl

theorem exists_digestOf_of_result {purpose v : Value}
    (h : ((takeDigest p data bound purpose).run setup s).result = .ok v) :
    ∃ digest, p.digestOf data s = .ok digest ∧ digest.take bound = .ok v := by
  rw [run_takeDigest] at h
  cases hanswer : (p.hash data s).1 with
  | error fault =>
      rw [hanswer] at h
      cases h
  | ok answer =>
      rw [hanswer] at h
      exact ⟨answer.toValue, congrArg _ hanswer, h⟩

/-- The parts that are given are the first bytes of the digest, and as many as are asked for. -/
theorem result_takeDigest_eq_ok_iff (hbound : bound.int? = some (n : Int)) {purpose : Value} :
    ((takeDigest p data bound purpose).run setup s).result = .ok (.octets kind part) ↔
      ∃ content, p.digestOf data s = .ok (.octets kind content) ∧ n ≤ content.length ∧
        part = content.take n := by
  constructor
  · intro h
    obtain ⟨digest, hdigest, htake⟩ := exists_digestOf_of_result h
    obtain ⟨content, rfl⟩ := Value.exists_octets_of_take htake
    rw [Value.take_octets_of_count kind content hbound] at htake
    split at htake
    · next hlong =>
        cases htake
        exact ⟨content, hdigest, hlong, rfl⟩
    · cases htake
  · rintro ⟨content, hdigest, hlong, rfl⟩
    rw [run_takeDigest_of_digestOf hdigest]
    exact (Value.take_octets_of_count kind content hbound).trans (if_pos hlong)

/-- One part of a digest gives all the shorter ones, wherever the digest is the same. -/
theorem result_takeDigest_of_le {t : σ} (hsame : p.digestOf data s = p.digestOf data t)
    {shorter : Value} {m : Nat} (hshorter : shorter.int? = some (m : Int))
    (hbound : bound.int? = some (n : Int)) (hle : m ≤ n) {purpose : Value}
    (h : ((takeDigest p data bound purpose).run setup s).result = .ok (.octets kind part))
    (purpose' : Value) :
    ((takeDigest p data shorter purpose').run setup t).result =
      .ok (.octets kind (part.take m)) := by
  obtain ⟨content, hdigest, hlong, rfl⟩ := (result_takeDigest_eq_ok_iff hbound).mp h
  refine (result_takeDigest_eq_ok_iff hshorter).mpr
    ⟨content, hsame.symm.trans hdigest, Nat.le_trans hle hlong, ?_⟩
  rw [List.take_take, Nat.min_eq_left hle]

/-- Of a view, as many places of its first dimension are given as are asked for. -/
theorem result_takeDigest_of_view {w : View} (hw : w.dimensions ≠ [])
    (hdigest : p.digestOf data s = .ok (.view w)) (hbound : bound.int? = some (n : Int))
    (purpose : Value) :
    ((takeDigest p data bound purpose).run setup s).result =
        (if n ≤ w.length then .ok (.view (w.cut n))
          else .error (.unfit (.digestTooShort w.length bound))) ∧
      (n ≤ w.length →
        (w.cut n).length = n ∧ (w.cut n).content = w.content.take (n * w.width)) := by
  refine ⟨?_, fun hlong => ⟨w.length_cut hw hlong, w.content_cut hw hlong⟩⟩
  rw [run_takeDigest_of_digestOf hdigest]
  exact Value.take_view_of_count hw hbound

end Question

namespace Provider

/-- **Parts of digests are exact.**  Where the digest of a value is a byte string, a single question
gives the first bytes of it, of its own kind and exactly as many as are asked for, and it is refused
exactly if there are fewer.  Where it is a view of other items along some dimension, the question
gives exactly as many places of the first dimension, with all their bytes.  If the digest does not
depend on the state of the provider, then a part that is given in one state gives all the shorter
ones in all states.  Two parts that are asked for with one length are equal exactly if the digests,
which are at least so long, agree in so many first bytes. -/
theorem parts_are_exact (p : Provider σ) (setup : Setup) :
    let ask (data bound purpose : Value) (s : σ) := (takeDigest p data bound purpose).run setup s
    (∀ data bound purpose s (n : Nat) kind content, bound.int? = some (n : Int) →
      p.digestOf data s = .ok (.octets kind content) →
        ask data bound purpose s =
          ⟨if n ≤ content.length then .ok (.octets kind (content.take n))
            else .error (.unfit (.digestTooShort content.length bound)),
            [data], [], (p.hash data s).2⟩) ∧
    (∀ data bound purpose s (n : Nat) (w : View), w.dimensions ≠ [] → bound.int? = some (n : Int) →
      p.digestOf data s = .ok (.view w) →
        (ask data bound purpose s).result =
            (if n ≤ w.length then .ok (.view (w.cut n))
              else .error (.unfit (.digestTooShort w.length bound))) ∧
          (n ≤ w.length →
            (w.cut n).length = n ∧ (w.cut n).content = w.content.take (n * w.width))) ∧
    (∀ data, (∀ s t, p.digestOf data s = p.digestOf data t) →
      ∀ shorter bound purpose purpose' s t (m n : Nat) kind part, shorter.int? = some (m : Int) →
        bound.int? = some (n : Int) → m ≤ n →
          (ask data bound purpose s).result = .ok (.octets kind part) →
            (ask data shorter purpose' t).result = .ok (.octets kind (part.take m))) ∧
    ∀ data data' bound bound' purpose purpose' s s' (n : Nat) kind kind' part part',
      bound.int? = some (n : Int) → bound'.int? = some (n : Int) →
        (ask data bound purpose s).result = .ok (.octets kind part) →
          (ask data' bound' purpose' s').result = .ok (.octets kind' part') →
            ∃ content content', p.digestOf data s = .ok (.octets kind content) ∧
              p.digestOf data' s' = .ok (.octets kind' content') ∧ n ≤ content.length ∧
              n ≤ content'.length ∧ (part = part' ↔ content.take n = content'.take n) := by
  refine ⟨fun data bound purpose s n kind content hbound hdigest => ?_,
    fun data bound purpose s n w hw hbound hdigest =>
      result_takeDigest_of_view hw hdigest hbound purpose,
    fun data hsame shorter bound purpose purpose' s t m n kind part hshorter hbound hle h => ?_,
    fun data data' bound bound' purpose purpose' s s' n kind kind' part part' hbound hbound' h h' =>
      ?_⟩
  · rw [← Value.take_octets_of_count kind content hbound]
    exact run_takeDigest_of_digestOf hdigest purpose
  · exact result_takeDigest_of_le (hsame s t) hshorter hbound hle h purpose'
  · obtain ⟨content, hdigest, hlong, rfl⟩ := (result_takeDigest_eq_ok_iff hbound).mp h
    obtain ⟨content', hdigest', hlong', rfl⟩ := (result_takeDigest_eq_ok_iff hbound').mp h'
    exact ⟨content, content', hdigest, hdigest', hlong, hlong', Iff.rfl⟩

/-- A provider that counts its calls and whose digests are views of the data and two zeros: all five
bytes of a digest, a sixth that there is not, the first one asked for by a truth value at a later
call, and the first two of another digest that differs in the third. -/
theorem parts_are_exact_of_padding :
    let p : Provider Nat := .bare
      (fun data calls => (data.hashInput.map fun b => .octets .view (b ++ [0, 0]), calls + 1)) none
      (.missing "PaddingProvider")
    let ask (data : Bytes) (bound : Value) (s : Nat) :=
      (takeDigest p (.bytes data) bound .null).run ⟨Scheme.standard, 0⟩ s
    ask [1, 2, 3] (.int 5) 0 =
        ⟨.ok (.octets .view [1, 2, 3, 0, 0]), [.bytes [1, 2, 3]], [], 1⟩ ∧
      (ask [1, 2, 3] (.int 6) 0).result = .error (.unfit (.digestTooShort 5 (.int 6))) ∧
      (ask [1, 2, 3] (.bool true) 7).result = .ok (.octets .view [1]) ∧
      ∃ part part', (ask [1, 2, 3] (.int 2) 0).result = .ok (.octets .view part) ∧
        (ask [1, 2, 4] (.int 2) 1).result = .ok (.octets .view part') ∧ part = part' := by
  intro p ask
  obtain ⟨hexact, -, hshorter, hequal⟩ := parts_are_exact p ⟨Scheme.standard, 0⟩
  have hwhole := hexact (.bytes [1, 2, 3]) (.int 5) .null 0 5 .view [1, 2, 3, 0, 0] rfl rfl
  have hshort := hexact (.bytes [1, 2, 3]) (.int 6) .null 0 6 .view [1, 2, 3, 0, 0] rfl rfl
  have hfirst := hshorter (.bytes [1, 2, 3]) (fun _ _ => rfl) (.bool true) (.int 5) .null .null 0 7
    1 5 .view _ rfl rfl (by decide) (congrArg Outcome.result hwhole)
  obtain ⟨content, content', hcontent, hcontent', -, -, hparts⟩ :=
    hequal (.bytes [1, 2, 3]) (.bytes [1, 2, 4]) (.int 2) (.int 2) .null .null 0 1 2 .view .view
      [1, 2] [1, 2] rfl rfl rfl rfl
  cases hcontent
  cases hcontent'
  exact ⟨hwhole, congrArg Outcome.result hshort, hfirst, _, _, rfl, rfl, hparts.mpr rfl⟩

/-- Not every question for the first bytes of a digest gives exactly these: of a view of items of
four bytes, four items are given for four bytes. -/
theorem not_forall_parts_are_exact :
    ¬ ∀ (p : Provider Unit) (data digest : Value) (content : Bytes) (n : Nat),
      p.digestOf data () = .ok digest → digest.content? = some content → n ≤ content.length →
        ∃ part, ((takeDigest p data (.int n) .null).run ⟨Scheme.standard, 0⟩ ()).result = .ok part ∧
          part.content? = some (content.take n) := by
  intro h
  let quads : View := ⟨4, [⟨16, 4⟩], List.replicate 64 0, rfl, rfl⟩
  obtain ⟨part, hpart, hcontent⟩ := h
    (.bare (fun _ s => (.ok (.view quads), s)) none (.missing "QuadProvider")) .null (.view quads)
    quads.content 4 rfl rfl (by decide)
  cases hpart
  exact absurd (congrArg (Option.map List.length) hcontent) (by decide)

end Provider

end StateAddress
