import StateAddress.Proofs.ErrorContract
import StateAddress.Proofs.OneSlice
import StateAddress.Proofs.Precedence
import StateAddress.Proofs.SharedDeriver

/-!
# Truncated namespaces

The registry of a namespace is identified by six bytes.  A namespace that is a text is accepted
exactly if it has no lone surrogates and if some of its leading characters have six bytes together;
then only these characters matter, and the provider is asked for their bytes.  All other texts are
refused, for a surrogate wherever it stands, else for their length, else because the six bytes end
inside a character.  A byte string is cut after six bytes whatever they are.

## Main definitions

* `Subject.registered` : what the derivation for the registry of a namespace leaves behind.
* `Subject.TruncatesText`, `Subject.TruncatesOctets` : how texts and byte strings are truncated.

## Main results

* `Identifier.registry_of_lead` : the leading characters with six bytes identify the registry.
* `Subject.exists_address_of_registry` : the address depends on the six bytes only.
* `Subject.truncates_namespaces` : all namespaces are truncated so.
-/

namespace StateAddress

variable {σ α : Type}

/-! ### Leading characters -/

theorem Utf8.encode_take_isPrefix {t : Text} {k : Nat} {b lead : Bytes} (ht : encode t = .ok b)
    (hlead : encode (t.take k) = .ok lead) : lead <+: b := by
  obtain ⟨-, rfl⟩ := encode_eq_ok_iff.mp ht
  obtain ⟨-, rfl⟩ := encode_eq_ok_iff.mp hlead
  refine ⟨(t.drop k).flatMap ofCodePoint, ?_⟩
  rw [← List.flatMap_append, List.take_append_drop]

namespace Identifier

variable {t : Text} {b : Bytes}

theorem registry_text (h : Utf8.encode t = .ok b) :
    registry Scheme.standard (.text t) = significant (.text t) b := by
  rw [registry_standard, encode, h]
  rfl

/-- Leading characters with six bytes identify the registry of a namespace without surrogates. -/
theorem registry_of_lead {k : Nat} {lead : Bytes} (ht : t.isWellFormed = true)
    (hlead : Utf8.encode (t.take k) = .ok lead) (hlength : lead.length = 6) :
    registry Scheme.standard (.text t) = .ok lead := by
  have hencode : Utf8.encode t = .ok (t.flatMap Utf8.ofCodePoint) :=
    Utf8.encode_eq_ok_iff.mpr ⟨ht, rfl⟩
  have hprefix := Utf8.encode_take_isPrefix hencode hlead
  have hle : 6 ≤ (t.flatMap Utf8.ofCodePoint).length := hlength ▸ hprefix.length_le
  have htake : (t.flatMap Utf8.ofCodePoint).take 6 = lead := by
    rw [← hlength]
    exact (List.prefix_iff_eq_take.mp hprefix).symm
  have hcomplete : Utf8.isComplete lead = true := by
    rw [← htake]
    exact (Utf8.isComplete_take_iff hencode hle).mpr ⟨k, lead, hlead, hlength⟩
  rw [registry_text hencode, significant, if_neg (Nat.not_lt.mpr hle), htake, hcomplete]
  rfl

/-- A surrogate anywhere in a namespace is reported. -/
theorem registry_of_not_isWellFormed (h : t.isWellFormed = false) :
    registry Scheme.standard (.text t) = .error (.rejected (.notUtf8 "namespace" t)) := by
  rw [registry_standard, encode]
  cases hencode : Utf8.encode t with
  | ok b =>
      rw [(Utf8.encode_eq_ok_iff.mp hencode).1] at h
      cases h
  | error run => rfl

theorem registry_of_short (h : Utf8.encode t = .ok b) (hlength : b.length < 6) :
    registry Scheme.standard (.text t) =
      .error (.rejected (.namespaceTooShort (.text t) (.int 6))) := by
  rw [registry_text h, significant, if_pos hlength]

/-- With enough bytes, a namespace of which no leading characters have six bytes is cut inside a
character, which is reported. -/
theorem registry_of_cut (h : Utf8.encode t = .ok b) (hlength : 6 ≤ b.length)
    (hcut : ¬ Utf8.IsBoundary t 6) :
    registry Scheme.standard (.text t) =
      .error (.rejected (.namespaceCut (.text t) (.int 6))) := by
  have hincomplete : Utf8.isComplete (b.take 6) = false := by
    rw [← Utf8.isComplete_take_iff h hlength] at hcut
    exact Bool.eq_false_iff.mpr hcut
  rw [registry_text h, significant, if_neg (Nat.not_lt.mpr hlength), hincomplete]
  rfl

theorem registry_octets {kind : OctetKind} (hkind : kind ≠ .view) :
    registry Scheme.standard (.octets kind b) =
      if b.length < 6 then
        .error (.rejected (.namespaceTooShort (.octets kind b) (.int 6)))
      else .ok (b.take 6) := by
  cases kind with
  | view => exact absurd rfl hkind
  | _ =>
      rw [registry_standard]
      rfl

end Identifier

/-! ### Derivations for registries -/

/-- Whether an operation refused its input for a reason, which goes back to a failed conversion or
to none. -/
def Outcome.IsRefusedFor (o : Outcome σ α) (reason : Rejection) (origin : Option Utf8.Failure) :
    Prop :=
  o.result = .error (.rejected reason) ∧ reason.origin? = origin

namespace Subject

/-- What the derivation for the registry of a namespace leaves behind in the standard scheme. -/
def registered (p : Provider σ) (level : Level) (given : Value) (s : σ) : Outcome σ Bytes :=
  ((namespaceRegistry given).derive p).run ⟨Scheme.standard, level⟩ s

section Registered

variable {p : Provider σ} (level : Level)

/-- With long enough digests that depend on the data alone, the provider is asked for the six bytes
of a namespace, and the address depends on them only. -/
theorem exists_address_of_registry {digest : Bytes → Digest} (hp : p.AnswersBy digest)
    (hdigest : ∀ b, Provider.IsAmple (.ok (digest b))) (lead : Bytes) :
    ∃ a, ∀ given s, Identifier.registry Scheme.standard given = .ok lead →
      (registered p level given s).result = .ok a ∧
        (registered p level given s).asked = [.bytes lead] := by
  obtain ⟨kind, c, hvalue, hlength⟩ := hdigest lead
  have htake : (digest lead).toValue.take (Scheme.standard.portion .namespaceRegistry) =
      .ok (.octets kind (c.take 32)) := by
    rw [hvalue]
    exact (Value.take_octets kind c 32).trans (if_pos hlength)
  have hjoined : joinOctets 1 [.octets kind (c.take 32)] = .ok (c.take 32) := by
    rw [joinOctets, joinOctets, Except.map, List.append_nil]
  have hcompose : Address.compose Scheme.standard .namespaceRegistry
      [.octets kind (c.take 32)] = .ok (Entity.namespaceRegistry.tag ++ c.take 32) :=
    Address.compose_standard hjoined (by rw [List.length_take_of_le hlength]; rfl)
  refine ⟨Entity.namespaceRegistry.tag ++ c.take 32, fun given s hgiven => ?_⟩
  rw [registered, run_derive_of_slice p s rfl hgiven, hp lead s]
  refine ⟨?_, rfl⟩
  change ((digest lead).toValue.take (Scheme.standard.portion .namespaceRegistry)).bind
    (fun v => Address.compose Scheme.standard .namespaceRegistry [v]) = _
  rw [htake, ← hcompose]
  rfl

theorem registered_of_rejected {given : Value} {reason : Rejection}
    (h : Identifier.registry Scheme.standard given = .error (.rejected reason)) (s : σ) :
    (registered p level given s).IsRefusedFor reason reason.origin? := by
  rw [registered, run_derive_of_withheld p s rfl h]
  exact ⟨rfl, rfl⟩

/-- What an operation on namespaces leaves behind for a text that *truncates* it: it succeeds
exactly if no surrogate occurs, the form has six bytes and some leading characters have six bytes
together.
Then the provider is asked for these bytes, and whatever follows these characters does not matter,
nor whether they are given as characters or as bytes.  In all other cases the text is refused, for
the first of the three that does not hold. -/
structure TruncatesText (outcome : Value → σ → Outcome σ Bytes) (t : Text) (s : σ) : Prop where
  exists_iff : (∃ a, (outcome (.text t) s).result = .ok a) ↔
    t.isWellFormed = true ∧ (∃ b, Utf8.encode t = .ok b ∧ 6 ≤ b.length) ∧ Utf8.IsBoundary t 6
  truncated : ∀ k lead, t.isWellFormed = true → Utf8.encode (t.take k) = .ok lead →
    lead.length = 6 → (outcome (.text t) s).asked = [.bytes lead] ∧
      ∃ a, (outcome (.text t) s).result = .ok a ∧ ∀ s',
        (outcome (.text (t.take k)) s').result = .ok a ∧
        (∀ u : Text, u.isWellFormed = true → (outcome (.text (t.take k ++ u)) s').result = .ok a) ∧
        (outcome (.bytes lead) s').result = .ok a
  surrogate : t.isWellFormed = false →
    (outcome (.text t) s).IsRefusedFor (.notUtf8 "namespace" t) (some .unencodable)
  short : ∀ b, Utf8.encode t = .ok b → b.length < 6 →
    (outcome (.text t) s).IsRefusedFor (.namespaceTooShort (.text t) (.int 6)) none
  cut : ∀ b, Utf8.encode t = .ok b → 6 ≤ b.length → ¬ Utf8.IsBoundary t 6 →
    (outcome (.text t) s).IsRefusedFor (.namespaceCut (.text t) (.int 6)) (some .undecodable)

/-- What an operation on namespaces leaves behind for a byte string that *truncates* it: it succeeds
exactly if there are six bytes, which the provider is asked for, and refuses it otherwise. -/
structure TruncatesOctets (outcome : Value → σ → Outcome σ Bytes) (kind : OctetKind) (b : Bytes)
    (s : σ) : Prop where
  exists_iff : (∃ a, (outcome (.octets kind b) s).result = .ok a) ↔ 6 ≤ b.length
  truncated : 6 ≤ b.length → (outcome (.octets kind b) s).asked = [.bytes (b.take 6)]
  short : b.length < 6 →
    (outcome (.octets kind b) s).IsRefusedFor (.namespaceTooShort (.octets kind b) (.int 6)) none

variable {digest : Bytes → Digest} (hp : p.AnswersBy digest)
  (hdigest : ∀ b, Provider.IsAmple (.ok (digest b)))

include hp hdigest

/-- An address is derived exactly if the namespace has six bytes that identify its registry. -/
theorem exists_registered_iff (given : Value) (s : σ) :
    (∃ a, (registered p level given s).result = .ok a) ↔
      Identifier.IsAcceptableNamespace 6 given := by
  have hdecided := Identifier.registry_isDecidedBy given
  rw [← hdecided.exists_ok_iff]
  constructor
  · rintro ⟨a, ha⟩
    cases hgiven : Identifier.registry Scheme.standard given with
    | ok lead => exact ⟨lead, rfl⟩
    | error fault =>
        obtain ⟨reason, rfl⟩ := hdecided.exists_rejected hgiven
        cases ha.symm.trans (registered_of_rejected level hgiven s).1
  · rintro ⟨lead, hlead⟩
    obtain ⟨a, ha⟩ := exists_address_of_registry level hp hdigest lead
    exact ⟨a, (ha given s hlead).1⟩

theorem truncatesText_registered (t : Text) (s : σ) :
    TruncatesText (registered p level) t s where
  exists_iff := by
    rw [exists_registered_iff level hp hdigest]
    constructor
    · rintro ⟨b, hb, hlength, hboundary⟩
      exact ⟨(Utf8.encode_eq_ok_iff.mp hb).1, ⟨b, hb, hlength⟩, hboundary⟩
    · rintro ⟨-, ⟨b, hb, hlength⟩, hboundary⟩
      exact ⟨b, hb, hlength, hboundary⟩
  truncated := by
    intro k lead ht hlead hlength
    obtain ⟨a, ha⟩ := exists_address_of_registry level hp hdigest lead
    obtain ⟨hresult, hasked⟩ := ha (.text t) s (Identifier.registry_of_lead ht hlead hlength)
    have hfirst : Text.isWellFormed (t.take k) = true := (Utf8.encode_eq_ok_iff.mp hlead).1
    refine ⟨hasked, a, hresult, fun s' => ⟨?_, fun u hu => ?_, ?_⟩⟩
    · have hsame : (t.take k).take k = t.take k := by rw [List.take_take, Nat.min_self]
      exact (ha _ s' (Identifier.registry_of_lead hfirst (hsame ▸ hlead) hlength)).1
    · have hsame : (t.take k ++ u).take (t.take k).length = t.take k := List.take_left
      have hwell : Text.isWellFormed (t.take k ++ u) = true := by
        rw [Quoted.isWellFormed_append, hfirst, hu]
        rfl
      exact (ha _ s' (Identifier.registry_of_lead hwell (hsame.symm ▸ hlead) hlength)).1
    · refine (ha _ s' ?_).1
      rw [Identifier.registry_octets (by decide), if_neg (by omega), ← hlength, List.take_length]
  surrogate h := registered_of_rejected level (Identifier.registry_of_not_isWellFormed h) s
  short _ hb hlength := registered_of_rejected level (Identifier.registry_of_short hb hlength) s
  cut _ hb hlength hcut :=
    registered_of_rejected level (Identifier.registry_of_cut hb hlength hcut) s

theorem truncatesOctets_registered {kind : OctetKind} (hkind : kind ≠ .view) (b : Bytes) (s : σ) :
    TruncatesOctets (registered p level) kind b s where
  exists_iff := by
    rw [exists_registered_iff level hp hdigest]
    cases kind with
    | view => exact absurd rfl hkind
    | _ => rfl
  truncated h := by
    obtain ⟨a, ha⟩ := exists_address_of_registry level hp hdigest (b.take 6)
    refine (ha (.octets kind b) s ?_).2
    rw [Identifier.registry_octets hkind, if_neg (Nat.not_lt.mpr h)]
  short h := by
    refine registered_of_rejected level ?_ s
    rw [Identifier.registry_octets hkind, if_pos h]

/-- **Namespaces are truncated where a character ends.**  In the standard scheme and with long
enough digests that depend on the data alone, the derivation for the registry of a namespace
truncates all texts, and all byte strings that are no views of others. -/
theorem truncates_namespaces :
    (∀ (t : Text) (s : σ), TruncatesText (registered p level) t s) ∧
      ∀ kind ≠ OctetKind.view, ∀ (b : Bytes) (s : σ),
        TruncatesOctets (registered p level) kind b s :=
  ⟨truncatesText_registered level hp hdigest,
    fun _ hkind => truncatesOctets_registered level hp hdigest hkind⟩

end Registered

/-- The form of the character `é`. -/
def accented : Bytes := [0xc3, 0xa9]

/-- Three times `é` are six bytes, and what follows them does not matter; after five letters, `é` is
cut and the namespace is refused. -/
theorem truncates_namespaces_of_accented :
    let digest : Bytes → Bytes := fun b => b ++ List.replicate 32 0
    let p : Provider Nat :=
      .bare (.numbered digest (fun _ => false) fun _ => .raised ⟨.runtime, []⟩) none (.given .null)
    let lead := accented ++ accented ++ accented
    (registered p 0 (.ofString "éééX") 0).asked = [.bytes lead] ∧
      (∃ a, (registered p 0 (.ofString "éééX") 0).result = .ok a ∧
        (registered p 0 (.ofString "éééYZ") 7).result = .ok a ∧
        (registered p 0 (.bytes lead) 8).result = .ok a) ∧
      (registered p 0 (.ofString "abcdeé") 0).IsRefusedFor
        (.namespaceCut (.ofString "abcdeé") (.int 6)) (some .undecodable) := by
  intro digest p lead
  have hp : p.AnswersBy fun b => .bytes (digest b) :=
    (Provider.isIntermittent_bare digest (fun _ => false) _ none (.given .null)).answersBy (by simp)
  have hdigest : ∀ b, Provider.IsAmple (.ok (.bytes (digest b))) := fun b =>
    ⟨.fixed, _, rfl, by rw [List.length_append, List.length_replicate]; omega⟩
  obtain ⟨htexts, -⟩ := truncates_namespaces 0 hp hdigest
  obtain ⟨hasked, a, hresult, hsame⟩ := (htexts "éééX" 0).truncated 3 lead rfl rfl rfl
  refine ⟨hasked, ⟨a, hresult, (hsame 7).2.1 "YZ" rfl, (hsame 8).2.2⟩, ?_⟩
  have hencode : Utf8.encode (Text.ofString "abcdeé") =
      .ok ([0x61, 0x62, 0x63, 0x64, 0x65] ++ accented) := rfl
  refine (htexts "abcdeé" 0).cut _ hencode (by decide) fun hboundary => ?_
  have hcomplete := (Utf8.isComplete_take_iff hencode (by decide)).mpr hboundary
  exact absurd hcomplete (by decide)

end Subject

end StateAddress
