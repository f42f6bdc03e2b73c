import StateAddress.Deriver
import StateAddress.Proofs.Report
import StateAddress.Proofs.Shape
import StateAddress.Proofs.SlicesRun
import StateAddress.Proofs.Acceptance

/-!
# Sizes of digests

The size of the digests is judged at two places.  A provider that declares a size is refused at once
if that does not cover the longest part of an address, and a provider that declares none is judged
by its digests, each when a part is taken of it.  For all lengths of the parts the two judgements
agree: a declared size is refused exactly if, without the declaration, the derivation for some
acceptable identifiers is cut short.

## Main definitions

* `Scheme.withLengths` : the standard scheme with other lengths of the parts.
* `Provider.AnswersWithLength`, `Provider.NeverShorterThan` : what is known of the size of digests.
* `Provider.declaring` : a provider with a declaration of that size.
* `Outcome.IsCutShort` : an operation has ended at a digest that is too short.

## Main results

* `Scheme.longestPortion_withLengths` : the longest part covers all parts, and is one of them.
* `SlicesRun.exists_shorter`, `SlicesRun.cutShort_of_longer` : when a run over slices is cut short.
* `Subject.isCutShort_derive_iff` : when a derivation for acceptable identifiers is cut short.
* `Deriver.refuses_declared_iff` : the two judgements agree.
-/

namespace StateAddress

variable {σ α : Type}

/-! ### Lengths of parts -/

namespace Scheme

/-- The standard scheme with other numbers of digest bytes for the parts of addresses. -/
def withLengths (lengths : Portion → Int) : Scheme
  | .portionLength part => .int (lengths part)
  | c => standard c

variable (lengths : Portion → Int)

@[simp] theorem portion_withLengths (part : Portion) :
    (withLengths lengths).portion part = .int (lengths part) := rfl

theorem readsAsStandard_withLengths : (withLengths lengths).ReadsAsStandard := ⟨rfl, rfl⟩

/-- A size is below the longest part exactly if it is below some part. -/
theorem longestPortion_withLengths :
    ∃ longest : Int, (withLengths lengths).longestPortion = .ok (.int longest) ∧
      ∀ size, size < longest ↔ ∃ part, size < lengths part := by
  obtain ⟨longest, hlongest, hlt⟩ := Value.exists_greatest_int (lengths .namespaceRegistry)
    ([.contractRegistry, .contract, .permissionOrganization, .permissionName, .agent,
      .organization].map lengths)
  refine ⟨longest, hlongest, fun size => ?_⟩
  rw [hlt]
  constructor
  · rintro ⟨n, hmem, h⟩
    obtain ⟨part, -, rfl⟩ := (List.mem_map (l := Portion.all)).mp hmem
    exact ⟨part, h⟩
  · rintro ⟨part, h⟩
    have hall : part ∈ Portion.all := by cases part <;> decide
    exact ⟨lengths part, List.mem_map_of_mem hall, h⟩

end Scheme

/-! ### What is known of digests -/

namespace Provider

/-- Whether a provider answers each byte string by a byte string of one length. -/
def AnswersWithLength (p : Provider σ) (size : Nat) : Prop :=
  ∀ b s, ∃ digest kind c, (p.hash (.bytes b) s).1 = .ok digest ∧
    digest.toValue = .octets kind c ∧ c.length = size

/-- Whether no digest that a provider gives for a byte string is shorter than a size. -/
def NeverShorterThan (p : Provider σ) (size : Int) : Prop :=
  ∀ b s digest (n : Nat), (p.hash (.bytes b) s).1 = .ok digest →
    digest.toValue.length? = some n → size ≤ n

/-- A provider that declares a size of its digests, whatever it has declared before. -/
def declaring (p : Provider σ) (size : Int) : Provider σ :=
  { p with digestSize := some (.int size) }

variable {p : Provider σ} {size : Nat}

theorem AnswersWithLength.neverShorterThan (h : p.AnswersWithLength size) :
    p.NeverShorterThan size := by
  intro b s digest n hdigest hn
  obtain ⟨digest', kind, c, hdigest', hvalue, rfl⟩ := h b s
  cases hdigest'.symm.trans hdigest
  rw [hvalue] at hn
  cases hn
  exact Int.le_refl _

theorem answersWithLength_counting (size : Nat) : (counting size []).AnswersWithLength size :=
  fun _ _ => ⟨_, .growable, _, rfl, rfl, List.length_replicate⟩

theorem AnswersWithLength.take_eq (h : p.AnswersWithLength size) {b : Bytes} {s : σ}
    {digest : Digest} (hdigest : (p.hash (.bytes b) s).1 = .ok digest) (n : Int) :
    ∃ v, digest.toValue.take (.int n) =
      if (size : Int) < n then .error (.unfit (.digestTooShort size (.int n))) else .ok v := by
  obtain ⟨digest', kind, c, hdigest', hvalue, rfl⟩ := h b s
  cases hdigest'.symm.trans hdigest
  rw [hvalue]
  exact ⟨_, Value.take_octets_of_int? kind c rfl⟩

end Provider

/-! ### Runs that are cut short -/

theorem Fault.whileHashing_ne_unfit (purpose : Value) (fault : Fault) (reason : Defect) :
    fault.whileHashing purpose ≠ .unfit reason := by
  intro h
  rcases whileHashing_cases purpose fault with ⟨-, message, -, hwhile⟩ | ⟨-, failure, hwhile⟩
  · cases hwhile.symm.trans h
  · cases hwhile.symm.trans h

namespace SlicesRun

variable {p : Provider σ} {scheme : Scheme} {s : σ} {slices : List Slice} {asked : List Value}
  {result : Except Fault (List Value)}

/-- A run is cut short only at a digest that is shorter than the part of a slice, unless a slice has
no bytes for another reason than a refusal. -/
theorem exists_shorter (h : SlicesRun p scheme s slices asked result)
    (hrejected : ∀ slice ∈ slices, ∀ fault, slice.payload = .error fault →
      ∃ r, fault = .rejected r) {actual : Nat} {needed : Value}
    (hresult : result = .error (.unfit (.digestTooShort actual needed))) :
    ∃ slice ∈ slices, ∃ b t digest, (p.hash (.bytes b) t).1 = .ok digest ∧
      digest.toValue.length? = some actual ∧
      (Value.int actual).lt (scheme.portion slice.portion) = .ok true := by
  induction h with
  | done s => cases hresult
  | withheld payload =>
      obtain ⟨r, rfl⟩ := hrejected _ List.mem_cons_self _ payload
      cases hresult
  | failed payload answer =>
      exact absurd (Except.error.inj hresult) (Fault.whileHashing_ne_unfit _ _ _)
  | @unfit s slice rest b digest fault payload answer part =>
      cases hresult
      rcases Value.take_eq_error part with ⟨reason, h⟩ | ⟨size, hsize, hlt, h⟩
      · cases h
      · cases h
        exact ⟨slice, List.mem_cons_self, b, s, digest, answer, hsize, hlt⟩
  | @taken s slice rest b digest v asked result payload answer part others ih =>
      cases result with
      | ok parts => cases hresult
      | error fault =>
          cases hresult
          obtain ⟨other, hmem, hother⟩ :=
            ih (fun other hmem => hrejected other (List.mem_cons_of_mem _ hmem)) rfl
          exact ⟨other, List.mem_cons_of_mem _ hmem, hother⟩

/-- A run over slices with bytes is cut short if one of them takes more than the digests have. -/
theorem cutShort_of_longer {lengths : Portion → Int}
    (h : SlicesRun p (.withLengths lengths) s slices asked result) {size : Nat}
    (hp : p.AnswersWithLength size) (hpayload : ∀ slice ∈ slices, ∃ b, slice.payload = .ok b)
    (hlonger : ∃ slice ∈ slices, size < lengths slice.portion) :
    ∃ needed, result = .error (.unfit (.digestTooShort size needed)) := by
  induction h with
  | done s =>
      obtain ⟨slice, hmem, -⟩ := hlonger
      cases hmem
  | withheld payload =>
      obtain ⟨b, hb⟩ := hpayload _ List.mem_cons_self
      cases hb.symm.trans payload
  | @failed s slice rest b fault payload answer =>
      obtain ⟨digest, kind, c, hdigest, -⟩ := hp b s
      cases hdigest.symm.trans answer
  | unfit payload answer part =>
      obtain ⟨v, hv⟩ := hp.take_eq answer _
      rw [Scheme.portion_withLengths, hv] at part
      split at part
      · cases part
        exact ⟨_, rfl⟩
      · cases part
  | @taken s slice rest b digest v asked result payload answer part others ih =>
      -- The part of the first slice has been taken, so that a later one is too long.
      have hfirst : ¬ size < lengths slice.portion := by
        intro hlt
        obtain ⟨v', hv⟩ := hp.take_eq answer (lengths slice.portion)
        rw [if_pos hlt] at hv
        cases part.symm.trans hv
      obtain ⟨longer, hmem, hlt⟩ := hlonger
      rcases List.mem_cons.mp hmem with rfl | hmem
      · exact absurd hlt hfirst
      · obtain ⟨needed, rfl⟩ := ih
          (fun other hother => hpayload other (List.mem_cons_of_mem _ hother)) ⟨longer, hmem, hlt⟩
        exact ⟨needed, rfl⟩

end SlicesRun

/-! ### Derivations that are cut short -/

/-- Whether an operation has ended at a digest that is too short. -/
def Outcome.IsCutShort (o : Outcome σ α) : Prop :=
  ∃ actual needed, o.result = .error (.unfit (.digestTooShort actual needed))

namespace Subject

variable {lengths : Portion → Int} (p : Provider σ) (subject : Subject) (s : σ) (level : Level)

/-- A derivation is cut short while the parts are taken; their composition is not. -/
theorem isCutShort_derive_iff_taken :
    ((subject.derive p).run ⟨.withLengths lengths, level⟩ s).IsCutShort ↔
      (subject.taken p ⟨.withLengths lengths, level⟩ s).IsCutShort := by
  constructor
  · rintro ⟨actual, needed, h⟩
    rw [result_derive] at h
    cases htaken : (subject.taken p ⟨.withLengths lengths, level⟩ s).result with
    | error fault =>
        rw [htaken] at h
        cases h
        exact ⟨actual, needed, htaken⟩
    | ok parts =>
        rw [htaken] at h
        rcases Address.compose_eq_error rfl h with ⟨reason, h⟩ | ⟨count, h⟩ <;> cases h
  · rintro ⟨actual, needed, h⟩
    exact ⟨actual, needed, result_derive_of_error p subject _ s h⟩

variable {p}

/-- A derivation is cut short only if one of its parts is longer than a size that all digests have,
whatever the identifiers are. -/
theorem exists_longer_of_isCutShort {size : Int} (hp : p.NeverShorterThan size)
    (h : ((subject.derive p).run ⟨.withLengths lengths, level⟩ s).IsCutShort) :
    ∃ slice ∈ subject.slices Scheme.standard, size < lengths slice.portion := by
  obtain ⟨actual, needed, hresult⟩ := (isCutShort_derive_iff_taken p subject s level).mp h
  have hrun := subject.slicesRun_taken p ⟨.withLengths lengths, level⟩ s
  rw [(Scheme.readsAsStandard_withLengths lengths).slices_eq] at hrun
  obtain ⟨slice, hmem, b, t, digest, hdigest, hactual, hlt⟩ := hrun.exists_shorter
    (fun _ hslice _ hfault => subject.exists_rejected_of_payload hslice hfault) hresult
  have hsize : size ≤ actual := hp b t digest actual hdigest hactual
  have hpart : (actual : Int) < lengths slice.portion := by simpa using hlt
  exact ⟨slice, hmem, by omega⟩

/-- A derivation for acceptable identifiers is cut short exactly if one of its parts is longer than
the digests. -/
theorem isCutShort_derive_iff {size : Nat} (hp : p.AnswersWithLength size)
    (hacceptable : subject.IsAcceptable) :
    ((subject.derive p).run ⟨.withLengths lengths, level⟩ s).IsCutShort ↔
      ∃ slice ∈ subject.slices Scheme.standard, size < lengths slice.portion := by
  refine ⟨subject.exists_longer_of_isCutShort s level hp.neverShorterThan, fun hlonger => ?_⟩
  have hrun := subject.slicesRun_taken p ⟨.withLengths lengths, level⟩ s
  rw [(Scheme.readsAsStandard_withLengths lengths).slices_eq] at hrun
  obtain ⟨needed, hresult⟩ :=
    hrun.cutShort_of_longer hp (subject.isAcceptable_iff.mp hacceptable) hlonger
  exact (isCutShort_derive_iff_taken p subject s level).mpr ⟨size, needed, hresult⟩

theorem exists_isAcceptable_with_portion (part : Portion) :
    ∃ subject : Subject, subject.IsAcceptable ∧
      ∃ slice ∈ subject.slices Scheme.standard, slice.portion = part := by
  cases part with
  | namespaceRegistry =>
      have hnamespace : (namespaceRegistry (.bytes (List.replicate 6 0))).IsAcceptable :=
        Nat.le_refl 6
      exact ⟨_, hnamespace, _, .head _, rfl⟩
  | contractRegistry => exact ⟨contractRegistry (.bytes []), trivial, _, .head _, rfl⟩
  | contract => exact ⟨contract (.bytes []) (.bytes []), ⟨trivial, trivial⟩, _, .head _, rfl⟩
  | permissionOrganization =>
      exact ⟨smartPermission (.bytes []) (.bytes []), ⟨trivial, trivial⟩, _, .head _, rfl⟩
  | permissionName =>
      exact ⟨smartPermission (.bytes []) (.bytes []), ⟨trivial, trivial⟩, _, .tail _ (.head _), rfl⟩
  | agent => exact ⟨agent (.bytes []), trivial, _, .head _, rfl⟩
  | organization => exact ⟨organization (.bytes []), trivial, _, .head _, rfl⟩

/-- With digests of one length, a derivation for some acceptable identifiers is cut short exactly if
some part is longer. -/
theorem exists_isCutShort_iff {size : Nat} (hp : p.AnswersWithLength size) :
    (∃ subject : Subject, subject.IsAcceptable ∧
        ((subject.derive p).run ⟨.withLengths lengths, level⟩ s).IsCutShort) ↔
      ∃ part, size < lengths part := by
  constructor
  · rintro ⟨subject, -, hshort⟩
    obtain ⟨slice, -, hlt⟩ :=
      subject.exists_longer_of_isCutShort s level hp.neverShorterThan hshort
    exact ⟨slice.portion, hlt⟩
  · rintro ⟨part, hlt⟩
    obtain ⟨subject, hacceptable, slice, hmem, rfl⟩ := exists_isAcceptable_with_portion part
    exact ⟨subject, hacceptable,
      (subject.isCutShort_derive_iff s level hp hacceptable).mpr ⟨slice, hmem, hlt⟩⟩

end Subject

/-! ### Declared sizes -/

namespace Deriver

theorem accept_withLengths (lengths : Portion → Int) {p : Provider σ} {size : Int}
    (hp : p.digestSize = some (.int size)) :
    ((∃ part, size < lengths part) ∧ ∃ needed, accept (.withLengths lengths) p =
        .error (.unfit (.providerTooShort p.name.shown (.int size) needed))) ∨
      ((¬ ∃ part, size < lengths part) ∧ accept (.withLengths lengths) p = .ok ⟨p⟩) := by
  obtain ⟨longest, hlongest, hlt⟩ := Scheme.longestPortion_withLengths lengths
  rw [accept_of_size hlongest hp, ← hlt]
  by_cases h : size < longest
  · exact .inl ⟨h, _, if_pos h⟩
  · exact .inr ⟨h, if_neg h⟩

/-- **The declared size and the digests are judged alike.**  For all lengths of the parts, a
provider that declares no size is accepted.  If its digests have one length and it declares this
length, it is refused exactly if a derivation for some acceptable identifiers would be cut short
without the declaration, and otherwise it is accepted.  Once a declared size has been accepted, no
derivation with a provider whose digests are not shorter is cut short. -/
theorem refuses_declared_iff {τ : Type} (lengths : Portion → Int) (level : Level) :
    (∀ (p : Provider σ) (size : Nat) (s : σ), declaredSize? p = none →
      p.AnswersWithLength size →
        let cutShort := ∃ subject : Subject, subject.IsAcceptable ∧
          ((subject.derive p).run ⟨.withLengths lengths, level⟩ s).IsCutShort
        accept (.withLengths lengths) p = .ok ⟨p⟩ ∧
          ((∃ needed, accept (.withLengths lengths) (p.declaring size) =
            .error (.unfit (.providerTooShort p.name.shown (.int size) needed))) ↔ cutShort) ∧
          (accept (.withLengths lengths) (p.declaring size) = .ok ⟨p.declaring size⟩ ↔
            ¬ cutShort)) ∧
    ∀ (given : Provider σ) (size : Int) (d : Deriver σ), given.digestSize = some (.int size) →
      accept (.withLengths lengths) given = .ok d →
        ∀ (p : Provider τ) (subject : Subject) (s : τ), p.NeverShorterThan size →
          ¬ ((subject.derive p).run ⟨.withLengths lengths, level⟩ s).IsCutShort := by
  refine ⟨fun p size s hundeclared hp => ?_, fun given size d hdeclared haccepted => ?_⟩
  · obtain ⟨longest, hlongest, -⟩ := Scheme.longestPortion_withLengths lengths
    refine ⟨accept_of_undeclared hlongest hundeclared, ?_⟩
    have hdeclared : (p.declaring size).digestSize = some (.int size) := rfl
    rw [Subject.exists_isCutShort_iff s level hp]
    rcases accept_withLengths lengths hdeclared with
      ⟨hlonger, needed, hrefused⟩ | ⟨hcovered, haccepted⟩
    · exact ⟨⟨fun _ => hlonger, fun _ => ⟨needed, hrefused⟩⟩,
        fun h => (by cases h.symm.trans hrefused), fun h => absurd hlonger h⟩
    · exact ⟨⟨fun ⟨_, h⟩ => (by cases h.symm.trans haccepted), fun h => absurd h hcovered⟩,
        fun _ => hcovered, fun _ => haccepted⟩
  · intro p subject s hp hshort
    rcases accept_withLengths lengths hdeclared with ⟨-, needed, hrefused⟩ | ⟨hcovered, -⟩
    · cases hrefused.symm.trans haccepted
    · obtain ⟨slice, -, hlt⟩ := subject.exists_longer_of_isCutShort s level hp hshort
      exact hcovered ⟨slice.portion, hlt⟩

/-- If the name of a permission takes 33 bytes, a provider of 32 bytes is refused if it says so, and
cuts a derivation short if it does not.  The built-in provider declares 64 bytes and is accepted, so
that no digests of 64 bytes are too short. -/
theorem refuses_declared_iff_of_long_name :
    let lengths : Portion → Int := fun part =>
      if part = .permissionName then 33 else part.standardLength
    let short : Provider Nat := .counting 32 []
    let permission : Subject := .smartPermission (.bytes []) (.bytes [])
    (∃ needed, accept (.withLengths lengths) (short.declaring 32) =
      .error (.unfit (.providerTooShort short.name.shown (.int 32) needed))) ∧
    (∃ subject : Subject, subject.IsAcceptable ∧
      ((subject.derive short).run ⟨.withLengths lengths, 0⟩ 0).IsCutShort) ∧
    ¬ ((permission.derive (.counting 64 [])).run ⟨.withLengths lengths, 0⟩ 0).IsCutShort := by
  intro lengths short permission
  obtain ⟨hjudged, hcovered⟩ := @refuses_declared_iff Nat Nat lengths 0
  obtain ⟨-, hrefused, -⟩ := hjudged short 32 0 rfl (Provider.answersWithLength_counting 32)
  have hdeclared : ∃ needed, accept (.withLengths lengths) (short.declaring 32) =
      .error (.unfit (.providerTooShort short.name.shown (.int 32) needed)) := ⟨.int 33, rfl⟩
  exact ⟨hdeclared, hrefused.mp hdeclared, hcovered .sha512 64 _ rfl rfl _ permission 0
    (Provider.answersWithLength_counting 64).neverShorterThan⟩

end Deriver

end StateAddress
