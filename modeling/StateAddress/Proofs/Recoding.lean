import StateAddress.Proofs.ContractIdentifier
import StateAddress.Proofs.DigestContents
import StateAddress.Proofs.FailureReport
import StateAddress.Proofs.NamespaceTruncation

/-!
# Texts and their bytes

An identifier that is a text may as well be given by the bytes of its UTF-8 form, fixed or growable:
the provider is asked for the same, and what is left behind is the same.  Only a namespace is read
as a text before its bytes are taken.  If it is too short, then the refusal shows what was given; if
it would be cut inside a character, then the text is refused and the bytes are not.  In all cases
what the provider is asked for are fixed byte strings, which are different for different texts.

## Main definitions

* `Identifier.IsRecoding`, `Subject.IsRecoding` : texts are replaced by the bytes of their forms.
* `Subject.AllowsRecoding`, `Subject.TellsTextsApart` : what this means for derivations.

## Main results

* `Identifier.IsRecoding.encode_eq` : a recoded identifier has the same bytes.
* `Subject.IsRecoding.run_derive_eq` : the derivation for recoded identifiers.
* `Subject.recodings_are_transparent` : texts and bytes can be exchanged, and are not mixed up.
-/

namespace StateAddress

variable {σ : Type}

/-! ### Recoded identifiers -/

namespace Identifier

/-- A value is *recoded* by another one that is the same, or that is the UTF-8 form of it as a fixed
or growable byte string. -/
inductive IsRecoding : Value → Value → Prop
  | same (v : Value) : IsRecoding v v
  | form {t : Text} {b : Bytes} {kind : OctetKind} (encoded : Utf8.encode t = .ok b)
      (owned : kind ≠ .view) : IsRecoding (.text t) (.octets kind b)

theorem encode_text_eq_ok_iff {field : String} {t : Text} {b : Bytes} :
    encode field (.text t) = .ok b ↔ Utf8.encode t = .ok b := by
  rw [encode]
  cases h : Utf8.encode t with
  | ok c => simp only [Except.ok.injEq]
  | error run => exact ⟨fun h => (by cases h), fun h => (by cases h)⟩

/-- A recoded identifier has the same bytes. -/
theorem IsRecoding.encode_eq {given recoded : Value} (h : IsRecoding given recoded)
    (field : String) : encode field recoded = encode field given := by
  cases h with
  | same v => rfl
  | @form t b kind encoded owned =>
      rw [encode_text_eq_ok_iff.mpr encoded]
      cases kind with
      | view => exact absurd rfl owned
      | _ => rfl

theorem IsRecoding.registry_eq {given recoded : Value} (h : IsRecoding given recoded)
    (hnamespace : ∀ t, given = .text t → IsAcceptableNamespace 6 given) :
    registry Scheme.standard recoded = registry Scheme.standard given := by
  cases h with
  | same v => rfl
  | @form t b kind encoded owned =>
      obtain ⟨c, hc, hlength, hboundary⟩ := hnamespace t rfl
      cases encoded.symm.trans hc
      have hcomplete := (Utf8.isComplete_take_iff encoded hlength).mpr hboundary
      rw [registry_octets owned, registry_text encoded, significant,
        if_neg (Nat.not_lt.mpr hlength), if_neg (Nat.not_lt.mpr hlength), hcomplete]
      rfl

end Identifier

namespace Subject

/-- A subject is *recoded* by one of the same kind whose identifiers recode its own. -/
inductive IsRecoding : Subject → Subject → Prop
  | namespaceRegistry {given given' : Value} (namespaced : Identifier.IsRecoding given given') :
      IsRecoding (.namespaceRegistry given) (.namespaceRegistry given')
  | contractRegistry {name name' : Value} (named : Identifier.IsRecoding name name') :
      IsRecoding (.contractRegistry name) (.contractRegistry name')
  | contract {name name' version version' : Value} (named : Identifier.IsRecoding name name')
      (versioned : Identifier.IsRecoding version version') :
      IsRecoding (.contract name version) (.contract name' version')
  | smartPermission {owner owner' name name' : Value} (owned : Identifier.IsRecoding owner owner')
      (named : Identifier.IsRecoding name name') :
      IsRecoding (.smartPermission owner name) (.smartPermission owner' name')
  | agent {name name' : Value} (named : Identifier.IsRecoding name name') :
      IsRecoding (.agent name) (.agent name')
  | organization {id id' : Value} (identified : Identifier.IsRecoding id id') :
      IsRecoding (.organization id) (.organization id')

namespace IsRecoding

variable {subject recoded : Subject} (h : subject.IsRecoding recoded)

include h

theorem entity_eq : recoded.entity = subject.entity := by
  cases h <;> rfl

/-- Unless a namespace is refused, what is hashed for a subject is the same when it is recoded. -/
theorem slices_eq (hnamespace : ∀ t, subject = .namespaceRegistry (.text t) →
      subject.IsAcceptable) :
    recoded.slices Scheme.standard = subject.slices Scheme.standard := by
  cases h with
  | namespaceRegistry namespaced =>
      have hregistry := namespaced.registry_eq fun t ht => hnamespace t (congrArg _ ht)
      rw [slices, slices, hregistry]
  | contract named versioned =>
      rw [slices, slices, Identifier.contract, Identifier.contract, named.encode_eq,
        versioned.encode_eq]
  | smartPermission owned named => rw [slices, slices, owned.encode_eq, named.encode_eq]
  | contractRegistry named | agent named | organization named =>
      rw [slices, slices, named.encode_eq]

/-- Unless a namespace is refused, the derivation for a subject leaves behind the same when it is
recoded. -/
theorem run_derive_eq (hnamespace : ∀ t, subject = .namespaceRegistry (.text t) →
      subject.IsAcceptable) (p : Provider σ) (level : Level) (s : σ) :
    (recoded.derive p).run ⟨Scheme.standard, level⟩ s =
      (subject.derive p).run ⟨Scheme.standard, level⟩ s := by
  rw [run_derive, run_derive, taken, taken, h.slices_eq hnamespace, h.entity_eq]

end IsRecoding

/-! ### Refused namespaces -/

section Namespaces

variable (p : Provider σ) (level : Level) (s : σ) {t : Text} {b : Bytes} {kind : OctetKind}
  (encoded : Utf8.encode t = .ok b) (owned : kind ≠ .view)

include encoded owned

/-- Neither a text that is too short for a namespace nor its bytes are accepted, and each refusal
shows what was given. -/
theorem run_derive_of_short (hlength : b.length < 6) :
    let refused given : Outcome σ Bytes :=
      ⟨.error (.rejected (.namespaceTooShort given (.int 6))), [], [], s⟩
    ((namespaceRegistry (.text t)).derive p).run ⟨Scheme.standard, level⟩ s = refused (.text t) ∧
      ((namespaceRegistry (.octets kind b)).derive p).run ⟨Scheme.standard, level⟩ s =
        refused (.octets kind b) := by
  intro refused
  have hoctets : Identifier.registry Scheme.standard (.octets kind b) =
      .error (.rejected (.namespaceTooShort (.octets kind b) (.int 6))) := by
    rw [Identifier.registry_octets owned, if_pos hlength]
  exact ⟨run_derive_of_withheld p s rfl (Identifier.registry_of_short encoded hlength),
    run_derive_of_withheld p s rfl hoctets⟩

/-- A text that would be cut inside a character is not accepted.  The provider is asked for the
bytes, which are not refused. -/
theorem run_derive_of_cut (hlength : 6 ≤ b.length) (hcut : ¬ Utf8.IsBoundary t 6) :
    ((namespaceRegistry (.text t)).derive p).run ⟨Scheme.standard, level⟩ s =
        ⟨.error (.rejected (.namespaceCut (.text t) (.int 6))), [], [], s⟩ ∧
      let outcome := ((namespaceRegistry (.octets kind b)).derive p).run
        ⟨Scheme.standard, level⟩ s
      outcome.asked = [.bytes (b.take 6)] ∧ ¬ outcome.FailsWith .refusedInput := by
  have hoctets : Identifier.registry Scheme.standard (.octets kind b) = .ok (b.take 6) := by
    rw [Identifier.registry_octets owned, if_neg (Nat.not_lt.mpr hlength)]
  refine ⟨run_derive_of_withheld p s rfl (Identifier.registry_of_cut encoded hlength hcut), ?_,
    fun hrefused => ?_⟩
  · rw [run_derive_of_slice p s rfl hoctets]
  · obtain ⟨-, r, purpose, hmem, -⟩ :=
      (isFaithful_derive p s (namespaceRegistry (.octets kind b)) level).refusedInput hrefused
    rw [inquiries, slices, List.map_singleton, Slice.inquiry, hoctets] at hmem
    cases List.mem_singleton.mp hmem

end Namespaces

/-! ### Different texts -/

section Questions

variable (p : Provider σ) (level : Level) (s : σ)

theorem exists_slices_eq {make : Value → Subject}
    (hmake : make ∈ [contractRegistry, agent, organization]) (v : Value) :
    ∃ field portion purpose, (make v).slices Scheme.standard =
      [⟨Identifier.encode field v, portion, purpose⟩] := by
  simp only [List.mem_cons, List.not_mem_nil, or_false] at hmake
  rcases hmake with rfl | rfl | rfl <;> exact ⟨_, _, _, rfl⟩

theorem exists_asked_of_text {make : Value → Subject}
    (hmake : make ∈ [contractRegistry, agent, organization]) {t : Text}
    (ht : t.isWellFormed = true) :
    ∃ b, Utf8.encode t = .ok b ∧ ∀ s,
      (((make (.text t)).derive p).run ⟨Scheme.standard, level⟩ s).asked = [.bytes b] := by
  have hencode := Utf8.encode_eq_ok_iff.mpr ⟨ht, rfl⟩
  obtain ⟨field, portion, purpose, hslices⟩ := exists_slices_eq hmake (.text t)
  refine ⟨_, hencode, fun s => ?_⟩
  rw [run_derive_of_slice p s hslices (Identifier.encode_text_eq_ok_iff.mpr hencode)]

variable {owner name : Value} {first last : Bytes}

theorem exists_asked_of_smartPermission {a : Bytes}
    (h : (((smartPermission owner name).derive p).run ⟨Scheme.standard, level⟩ s).result =
      .ok a) :
    ∃ first last, (((smartPermission owner name).derive p).run ⟨Scheme.standard, level⟩ s).asked =
      [.bytes first, .bytes last] := by
  obtain ⟨parts, htaken, -⟩ := exists_parts_of_derive p _ _ s h
  obtain ⟨bs, hasked, hpayloads⟩ :=
    ((smartPermission owner name).slicesRun_taken p _ s).exists_payloads_of_ok htaken
  have hcount := congrArg List.length hpayloads
  rw [List.length_map, List.length_map] at hcount
  obtain ⟨first, last, rfl⟩ := List.length_eq_two.mp hcount.symm
  exact ⟨first, last, (asked_derive p _ _ s).trans hasked⟩

/-- Two byte strings that the provider is asked for are those of the owner and of the name. -/
theorem encode_of_asked
    (h : (((smartPermission owner name).derive p).run ⟨Scheme.standard, level⟩ s).asked =
      [.bytes first, .bytes last]) :
    Identifier.encode "organization id" owner = .ok first ∧
      Identifier.encode "smart permission name" name = .ok last := by
  obtain ⟨bs, hasked, hleads⟩ :=
    (smartPermission owner name).exists_payloads_of_asked p level s Scheme.standard
  rw [h] at hasked
  obtain rfl : bs = [first, last] := by
    refine (List.map_injective_iff.mpr fun _ _ hsame => ?_) hasked.symm
    exact (Value.octets.inj hsame).2
  have hsame := hleads.eq_of_length rfl
  rw [slices, List.map_cons, List.map_cons, List.map_cons] at hsame
  obtain ⟨hfirst, hrest⟩ := List.cons.inj hsame
  exact ⟨hfirst.symm, (List.cons.inj hrest).1.symm⟩

end Questions

/-! ### Exchange of texts and bytes -/

/-- Derivations *allow recoding* when all that they leave behind stays the same for a recoded
subject, unless a text is refused as a namespace.  One that is too short is refused as bytes too,
and only the value that the refusal shows is another one.  One that would be cut inside a character
is not refused as bytes: the provider is asked for the first six of them. -/
structure AllowsRecoding (outcome : Subject → σ → Outcome σ Bytes) : Prop where
  recoded : ∀ {subject recoded : Subject}, subject.IsRecoding recoded →
    (∀ t, subject = .namespaceRegistry (.text t) → subject.IsAcceptable) →
      ∀ s, outcome recoded s = outcome subject s
  short : ∀ {t : Text} {b : Bytes} {kind : OctetKind}, Utf8.encode t = .ok b → kind ≠ .view →
    b.length < 6 → ∀ s,
      outcome (namespaceRegistry (.text t)) s =
        ⟨.error (.rejected (.namespaceTooShort (.text t) (.int 6))), [], [], s⟩ ∧
      outcome (namespaceRegistry (.octets kind b)) s =
        ⟨.error (.rejected (.namespaceTooShort (.octets kind b) (.int 6))), [], [], s⟩
  cut : ∀ {t : Text} {b : Bytes} {kind : OctetKind}, Utf8.encode t = .ok b → kind ≠ .view →
    6 ≤ b.length → ¬ Utf8.IsBoundary t 6 → ∀ s,
      outcome (namespaceRegistry (.text t)) s =
        ⟨.error (.rejected (.namespaceCut (.text t) (.int 6))), [], [], s⟩ ∧
      (outcome (namespaceRegistry (.octets kind b)) s).asked = [.bytes (b.take 6)] ∧
      ¬ (outcome (namespaceRegistry (.octets kind b)) s).FailsWith .refusedInput

/-- Derivations *tell texts apart* when they ask for fixed byte strings only, which no hash function
for byte strings refuses, and for different ones if texts are different: for one text, or for the
two of a smart permission, which are both asked for if there is an address. -/
structure TellsTextsApart (outcome : Subject → σ → Outcome σ Bytes) : Prop where
  fixed : ∀ subject s, ∀ v ∈ (outcome subject s).asked, ∃ b, v = .bytes b ∧ v.hashInput = .ok b
  different : ∀ make ∈ [contractRegistry, agent, organization], ∀ {t u : Text},
    t.isWellFormed = true → u.isWellFormed = true → t ≠ u → ∃ b c, b ≠ c ∧
      ∀ s, (outcome (make (.text t)) s).asked = [.bytes b] ∧
        (outcome (make (.text u)) s).asked = [.bytes c]
  pair : ∀ {owner name : Value} {s : σ} {a : Bytes},
    (outcome (smartPermission owner name) s).result = .ok a →
      ∃ first last, (outcome (smartPermission owner name) s).asked = [.bytes first, .bytes last]
  same : ∀ {owner name owner' name' : Text} {s s' : σ} {first last : Bytes},
    (outcome (smartPermission (.text owner) (.text name)) s).asked =
      [.bytes first, .bytes last] →
    (outcome (smartPermission (.text owner') (.text name')) s').asked =
      [.bytes first, .bytes last] →
    owner = owner' ∧ name = name'

section Derivations

variable (p : Provider σ) (level : Level)

theorem allowsRecoding_derive :
    AllowsRecoding fun subject s => (subject.derive p).run ⟨Scheme.standard, level⟩ s where
  recoded h hnamespace s := h.run_derive_eq hnamespace p level s
  short encoded owned hlength s := run_derive_of_short p level s encoded owned hlength
  cut encoded owned hlength hcut s := run_derive_of_cut p level s encoded owned hlength hcut

theorem tellsTextsApart_derive :
    TellsTextsApart fun subject s => (subject.derive p).run ⟨Scheme.standard, level⟩ s where
  fixed := by
    intro subject s v hv
    obtain ⟨bs, hasked, -⟩ := subject.exists_payloads_of_asked p level s Scheme.standard
    rw [hasked] at hv
    obtain ⟨b, -, rfl⟩ := List.mem_map.mp hv
    exact ⟨b, rfl, rfl⟩
  different := by
    intro make hmake t u ht hu hne
    obtain ⟨b, hb, hasked⟩ := exists_asked_of_text p level hmake ht
    obtain ⟨c, hc, hasked'⟩ := exists_asked_of_text p level hmake hu
    refine ⟨b, c, fun hsame => hne ?_, fun s => ⟨hasked s, hasked' s⟩⟩
    exact Utf8.encode_injective hb (hsame ▸ hc)
  pair ha := exists_asked_of_smartPermission p level _ ha
  same := by
    intro owner name owner' name' s s' first last h h'
    obtain ⟨howner, hname⟩ := encode_of_asked p level s h
    obtain ⟨howner', hname'⟩ := encode_of_asked p level s' h'
    rw [Identifier.encode_text_eq_ok_iff] at howner hname howner' hname'
    exact ⟨Utf8.encode_injective howner howner', Utf8.encode_injective hname hname'⟩

end Derivations

/-- **Texts and bytes can be exchanged, and are not mixed up.**  With each provider, the derivations
of the standard scheme allow recoding and tell texts apart. -/
theorem recodings_are_transparent (p : Provider σ) (level : Level) :
    let outcome (subject : Subject) (s : σ) := (subject.derive p).run ⟨Scheme.standard, level⟩ s
    AllowsRecoding outcome ∧ TellsTextsApart outcome :=
  ⟨allowsRecoding_derive p level, tellsTextsApart_derive p level⟩

/-- The owner `é` of a smart permission may be given by its bytes, the namespace `abcdeé` is refused
and its bytes are not, and the agents `a` and `é` are not mixed up. -/
theorem recodings_are_transparent_of_accented :
    let outcome (subject : Subject) (s : Nat) :=
      (subject.derive (.counting 32 [])).run ⟨Scheme.standard, 0⟩ s
    outcome (smartPermission (.octets .growable accented) (.ofString "b")) 0 =
        outcome (smartPermission (.ofString "é") (.ofString "b")) 0 ∧
      ¬ (outcome (namespaceRegistry (.bytes ([0x61, 0x62, 0x63, 0x64, 0x65] ++ accented)))
        3).FailsWith .refusedInput ∧
      ∃ b c, b ≠ c ∧ ∀ s, (outcome (agent (.ofString "a")) s).asked = [.bytes b] ∧
        (outcome (agent (.ofString "é")) s).asked = [.bytes c] := by
  intro outcome
  obtain ⟨hallows, happart⟩ := recodings_are_transparent (.counting 32 []) 0
  have hencode : Utf8.encode (Text.ofString "abcdeé") =
      .ok ([0x61, 0x62, 0x63, 0x64, 0x65] ++ accented) := rfl
  have hrecoded : (smartPermission (.ofString "é") (.ofString "b")).IsRecoding
      (smartPermission (.octets .growable accented) (.ofString "b")) :=
    .smartPermission (.form rfl (by decide)) (.same _)
  refine ⟨hallows.recoded hrecoded (fun _ h => (by cases h)) 0, ?_,
    happart.different agent (.tail _ (.head _)) rfl rfl (by decide)⟩
  have hcut : ¬ Utf8.IsBoundary (Text.ofString "abcdeé") 6 := fun hboundary =>
    absurd ((Utf8.isComplete_take_iff hencode (by decide)).mpr hboundary) (by decide)
  exact (hallows.cut hencode (by decide) (by decide) hcut 3).2.2

end Subject

end StateAddress
