import Mathlib.Data.List.Forall2
import StateAddress.Proofs.ErrorContract
import StateAddress.Proofs.SlicesRun

/-!
# What addresses are made of

The bytes of a derived address behind the tag come from the answers of the provider and from nothing
else.  If all answers to a derivation for acceptable identifiers are byte strings, then of each of
them the leading bytes are taken that its slice asks for, and the address is made of these, unless
one of them is too short.

## Main definitions

* `Provider.HasContent` : an answer that is a digest with given bytes.
* `Provider.HashesBy` : a provider whose answers have the bytes that a function gives.
* `Slice.leads` : the leading bytes that slices take of byte strings.

## Main results

* `SlicesRun.exists_payloads`, `SlicesRun.exists_payloads_of_ok` : the questions of a run are the
  bytes of its slices, in order, and of all its slices if it gives their parts.
* `SlicesRun.result_of_contents` : runs with answers that are byte strings.
* `Subject.result_of_contents`, `Subject.exists_contents` : the same for derivations.
* `Subject.exists_address_of_hashesBy` : an address as a function of the bytes that are hashed.
-/

namespace StateAddress

variable {σ : Type}

/-! ### Contents of answers -/

/-- Whether an answer of a provider is a digest that is a byte string with these bytes, of any
kind. -/
def Provider.HasContent (answer : Except Fault Digest) (content : Bytes) : Prop :=
  ∃ digest kind, answer = .ok digest ∧ digest.toValue = .octets kind content

theorem Provider.exists_contents_of_forall {answers : List (Except Fault Digest)}
    (h : ∀ answer ∈ answers, ∃ content, HasContent answer content) :
    ∃ contents, List.Forall₂ HasContent answers contents := by
  induction answers with
  | nil => exact ⟨[], .nil⟩
  | cons answer rest ih =>
      obtain ⟨⟨content, hcontent⟩, hrest⟩ := List.forall_mem_cons.mp h
      obtain ⟨contents, hcontents⟩ := ih hrest
      exact ⟨content :: contents, .cons hcontent hcontents⟩

/-- The first one of several answers with contents, if it is a digest. -/
theorem Provider.exists_content_of_cons {p : Provider σ} {s : σ} {data : Value} {asked : List Value}
    {digest : Digest} {contents : List Bytes} (hanswer : (p.hash data s).1 = .ok digest)
    (h : List.Forall₂ HasContent (p.answers s (data :: asked)) contents) :
    ∃ kind content others, contents = content :: others ∧ digest.toValue = .octets kind content ∧
      List.Forall₂ HasContent (p.answers (p.hash data s).2 asked) others := by
  rw [answers_cons, hanswer] at h
  obtain ⟨content, others, ⟨digest', kind, hdigest, hcontent⟩, hothers, rfl⟩ :=
    List.forall₂_cons_left_iff.mp h
  cases hdigest
  exact ⟨kind, content, others, rfl, hcontent, hothers⟩

/-- The leading bytes that slices take of byte strings, one of the other, in the standard scheme. -/
def Slice.leads : List Slice → List Bytes → Bytes
  | slice :: slices, content :: contents =>
      content.take slice.portion.standardLength ++ leads slices contents
  | _, _ => []

theorem Slice.cons_isPrefix {slice : Slice} {slices : List Slice} {b : Bytes} {bs : List Bytes}
    (hpayload : slice.payload = .ok b) (h : bs.map .ok <+: slices.map payload) :
    (b :: bs).map .ok <+: (slice :: slices).map payload := by
  rw [List.map_cons, List.map_cons, hpayload]
  exact List.cons_prefix_cons.mpr ⟨rfl, h⟩

namespace SlicesRun

variable {p : Provider σ} {s : σ} {slices : List Slice} {asked : List Value}
  {result : Except Fault (List Value)}

/-- The questions of a run are the bytes of its first slices, in order. -/
theorem exists_payloads {scheme : Scheme} (h : SlicesRun p scheme s slices asked result) :
    ∃ bs : List Bytes, asked = bs.map .bytes ∧ bs.map .ok <+: slices.map Slice.payload := by
  induction h with
  | done s => exact ⟨[], rfl, List.prefix_rfl⟩
  | withheld payload => exact ⟨[], rfl, List.nil_prefix⟩
  | @failed s slice rest b fault payload answer =>
      exact ⟨[b], rfl, Slice.cons_isPrefix payload List.nil_prefix⟩
  | @unfit s slice rest b digest fault payload answer part =>
      exact ⟨[b], rfl, Slice.cons_isPrefix payload List.nil_prefix⟩
  | @taken s slice rest b digest v asked result payload answer part others ih =>
      obtain ⟨bs, rfl, hleads⟩ := ih
      exact ⟨b :: bs, rfl, Slice.cons_isPrefix payload hleads⟩

/-- A run that gives the parts of its slices has asked for the bytes of all of them. -/
theorem exists_payloads_of_ok {scheme : Scheme} (h : SlicesRun p scheme s slices asked result)
    {parts : List Value} (hresult : result = .ok parts) :
    ∃ bs : List Bytes, asked = bs.map .bytes ∧ slices.map Slice.payload = bs.map .ok := by
  induction h generalizing parts with
  | done s => exact ⟨[], rfl, rfl⟩
  | withheld payload => cases hresult
  | failed payload answer => cases hresult
  | unfit payload answer part => cases hresult
  | @taken s slice rest b digest v asked result payload answer part others ih =>
      obtain ⟨left, hleft, -⟩ := exists_of_map_eq_ok hresult
      obtain ⟨bs, rfl, hrest⟩ := ih hleft
      refine ⟨b :: bs, rfl, ?_⟩
      rw [List.map_cons, List.map_cons, payload, hrest]

theorem answersAll_of_ok {scheme : Scheme} (h : SlicesRun p scheme s slices asked result)
    {parts : List Value} (hresult : result = .ok parts) : p.AnswersAll s asked := by
  refine Classical.byContradiction fun hunanswered => ?_
  obtain ⟨fault, hfault⟩ := p.exists_error_of_not_answersAll s hunanswered
  obtain ⟨_, _, _, -, -, -, -, -, hreport⟩ := h.exists_of_unanswered hfault
  cases hresult.symm.trans hreport

/-- If all slices have bytes and all answers are byte strings, then their leading bytes are taken in
the standard scheme, unless one of them is too short. -/
theorem result_of_contents (h : SlicesRun p Scheme.standard s slices asked result)
    (hpayload : ∀ slice ∈ slices, ∃ b, slice.payload = .ok b) {contents : List Bytes}
    (hcontents : List.Forall₂ Provider.HasContent (p.answers s asked) contents) :
    (contents.length = slices.length ∧
      (Slice.leads slices contents).length =
        (slices.map fun slice => slice.portion.standardLength).sum ∧
      ∃ parts, result = .ok parts ∧
        ∀ position, joinOctets position parts = .ok (Slice.leads slices contents)) ∨
    ∃ content ∈ contents, ∃ slice ∈ slices, content.length < slice.portion.standardLength ∧
      result = .error (.unfit (.digestTooShort content.length
        (.int slice.portion.standardLength))) := by
  induction h generalizing contents with
  | done s =>
      cases hcontents
      exact .inl ⟨rfl, rfl, [], rfl, fun _ => rfl⟩
  | withheld payload =>
      obtain ⟨b, hb⟩ := hpayload _ List.mem_cons_self
      cases hb.symm.trans payload
  | failed payload answer =>
      rw [Provider.answers_cons, answer] at hcontents
      obtain ⟨content, rest, ⟨digest, kind, hdigest, -⟩, -⟩ :=
        List.forall₂_cons_left_iff.mp hcontents
      cases hdigest
  | @unfit s slice rest b digest fault payload answer part =>
      obtain ⟨kind, content, others, rfl, hcontent, -⟩ :=
        Provider.exists_content_of_cons answer hcontents
      change digest.toValue.take (.int slice.portion.standardLength) = _ at part
      rw [hcontent, Value.take_octets] at part
      split at part
      · cases part
      · next hshort =>
          cases part
          exact .inr ⟨content, List.mem_cons_self, slice, List.mem_cons_self,
            Nat.not_le.mp hshort, rfl⟩
  | @taken s slice rest b digest v asked result payload answer part others ih =>
      obtain ⟨kind, content, contents, rfl, hcontent, hothers⟩ :=
        Provider.exists_content_of_cons answer hcontents
      change digest.toValue.take (.int slice.portion.standardLength) = _ at part
      rw [hcontent, Value.take_octets] at part
      split at part
      · next hlong =>
          cases part
          rcases ih (fun other hother => hpayload other (List.mem_cons_of_mem _ hother))
              hothers with
            ⟨hlength, hsum, parts, rfl, hjoined⟩ |
              ⟨short, hshort, other, hother, hlt, rfl⟩
          · refine .inl ⟨congrArg (· + 1) hlength, ?_, _, rfl, fun position => ?_⟩
            · rw [Slice.leads, List.length_append, List.length_take_of_le hlong, hsum]
              rfl
            · rw [joinOctets, hjoined]
              rfl
          · exact .inr ⟨short, List.mem_cons_of_mem _ hshort, other,
              List.mem_cons_of_mem _ hother, hlt, rfl⟩
      · cases part

end SlicesRun

/-! ### Contents of addresses -/

namespace Subject

theorem isAcceptable_of_payloads {subject : Subject} {bs : List Bytes}
    (h : (subject.slices Scheme.standard).map Slice.payload = bs.map .ok) :
    subject.IsAcceptable := by
  refine subject.isAcceptable_iff.mpr fun slice hslice => ?_
  have hmem := List.mem_map_of_mem (f := Slice.payload) hslice
  rw [h] at hmem
  obtain ⟨b, -, hb⟩ := List.mem_map.mp hmem
  exact ⟨b, hb.symm⟩

variable (p : Provider σ) (subject : Subject) (level : Level) (s : σ)

/-- The questions of a derivation are the bytes of its first slices, in order. -/
theorem exists_payloads_of_asked (scheme : Scheme) :
    ∃ bs : List Bytes, ((subject.derive p).run ⟨scheme, level⟩ s).asked = bs.map .bytes ∧
      bs.map .ok <+: (subject.slices scheme).map Slice.payload := by
  rw [asked_derive]
  exact (subject.slicesRun_taken p ⟨scheme, level⟩ s).exists_payloads

/-- With acceptable identifiers and answers that are byte strings, an address is made of their
leading bytes, unless one of them is too short. -/
theorem result_of_contents (hacceptable : subject.IsAcceptable) {contents : List Bytes}
    (hcontents : List.Forall₂ Provider.HasContent
      (p.answers s ((subject.derive p).run ⟨Scheme.standard, level⟩ s).asked) contents) :
    (contents.length = (subject.slices Scheme.standard).length ∧
      ((subject.derive p).run ⟨Scheme.standard, level⟩ s).result =
        .ok (subject.entity.tag ++ Slice.leads (subject.slices Scheme.standard) contents)) ∨
    ∃ content ∈ contents, ∃ slice ∈ subject.slices Scheme.standard,
      content.length < slice.portion.standardLength ∧
      ((subject.derive p).run ⟨Scheme.standard, level⟩ s).result =
        .error (.unfit (.digestTooShort content.length (.int slice.portion.standardLength))) := by
  rw [asked_derive] at hcontents
  rcases (subject.slicesRun_taken p ⟨Scheme.standard, level⟩ s).result_of_contents
      (subject.isAcceptable_iff.mp hacceptable) hcontents with
    ⟨hlength, hsum, parts, hparts, hjoined⟩ | ⟨content, hmem, slice, hslice, hlt, hshort⟩
  · have htotal := subject.sum_standardLength Scheme.standard
    rw [← hsum] at htotal
    refine .inl ⟨hlength, ?_⟩
    rw [result_derive, hparts]
    exact Address.compose_standard (hjoined 1) htotal
  · exact .inr ⟨content, hmem, slice, hslice, hlt, result_derive_of_error p subject _ s hshort⟩

/-- An address is made of the leading bytes of the answers to its derivation, if these are byte
strings. -/
theorem exists_contents
    (hbytes : ∀ answer ∈ p.answers s ((subject.derive p).run ⟨Scheme.standard, level⟩ s).asked,
      ∀ digest, answer = .ok digest → ∃ content, Provider.HasContent answer content)
    {a : Bytes} (h : ((subject.derive p).run ⟨Scheme.standard, level⟩ s).result = .ok a) :
    ∃ contents, List.Forall₂ Provider.HasContent
        (p.answers s ((subject.derive p).run ⟨Scheme.standard, level⟩ s).asked) contents ∧
      contents.length = (subject.slices Scheme.standard).length ∧
      a = subject.entity.tag ++ Slice.leads (subject.slices Scheme.standard) contents := by
  obtain ⟨parts, htaken, -⟩ := subject.exists_parts_of_derive p _ s h
  have hrun := subject.slicesRun_taken p ⟨Scheme.standard, level⟩ s
  have hanswered := hrun.answersAll_of_ok htaken
  rw [← asked_derive] at hanswered
  obtain ⟨contents, hcontents⟩ := Provider.exists_contents_of_forall fun answer hanswer => by
    obtain ⟨digest, hdigest⟩ := hanswered answer hanswer
    exact hbytes answer hanswer digest hdigest
  refine ⟨contents, hcontents, ?_⟩
  obtain ⟨bs, -, hpayloads⟩ := hrun.exists_payloads_of_ok htaken
  rcases result_of_contents p subject level s (isAcceptable_of_payloads hpayloads)
      hcontents with
    ⟨hlength, haddress⟩ | ⟨content, -, slice, -, -, hshort⟩
  · exact ⟨hlength, Except.ok.inj (h.symm.trans haddress)⟩
  · cases h.symm.trans hshort

end Subject

/-! ### Contents given by a function -/

/-- Whether the answers of a provider to byte strings are digests with the bytes that a function
gives. -/
def Provider.HashesBy (p : Provider σ) (content : Bytes → Bytes) : Prop :=
  ∀ b s, HasContent (p.hash (.bytes b) s).1 (content b)

section HashesBy

variable {p : Provider σ} {content : Bytes → Bytes} (hp : p.HashesBy content)

include hp

theorem Provider.HashesBy.answers (bs : List Bytes) (s : σ) :
    List.Forall₂ HasContent (p.answers s (bs.map .bytes)) (bs.map content) := by
  induction bs generalizing s with
  | nil => exact .nil
  | cons b bs ih => exact .cons (hp b s) (ih _)

/-- With long enough digests, the address for acceptable identifiers is made of the leading bytes of
what the function gives for the bytes of the slices, in all states of the provider. -/
theorem Subject.exists_address_of_hashesBy (hlong : ∀ b, 32 ≤ (content b).length)
    {subject : Subject} {bs : List Bytes}
    (hpayloads : (subject.slices Scheme.standard).map Slice.payload = bs.map .ok) (level : Level)
    (s : σ) :
    ((subject.derive p).run ⟨Scheme.standard, level⟩ s).result =
      .ok (subject.entity.tag ++
        Slice.leads (subject.slices Scheme.standard) (bs.map content)) := by
  obtain ⟨cs, hasked, hleads⟩ := subject.exists_payloads_of_asked p level s Scheme.standard
  have hcontents := hp.answers cs s
  rw [← hasked] at hcontents
  rcases subject.result_of_contents p level s (isAcceptable_of_payloads hpayloads) hcontents with
    ⟨hlength, haddress⟩ | ⟨c, hc, slice, -, hlt, -⟩
  · have hsame : cs.map .ok = (subject.slices Scheme.standard).map Slice.payload := by
      refine hleads.eq_of_length ?_
      rw [List.length_map, List.length_map, ← hlength, List.length_map]
    rw [hpayloads] at hsame
    rw [haddress, List.map_injective_iff.mpr (fun _ _ => Except.ok.inj) hsame]
  · obtain ⟨b, -, rfl⟩ := List.mem_map.mp hc
    have hle := Nat.le_trans slice.portion.standardLength_le (hlong b)
    omega

end HashesBy

end StateAddress
