import StateAddress.Proofs.Acceptance
import StateAddress.Proofs.HexForm
import StateAddress.Proofs.Shape

/-!
# The kind of an address

The tags of the kinds of entities lead no common byte string, so that an address tells its kind
in whatever order the kinds are tried.  The kind of a derived address is that of its computation,
and therefore computations for different kinds never derive the same address, whatever their
identifiers and their hash providers are.

## Main definitions

* `Address.IsForm` : the two forms of an address.

## Main results

* `Entity.ofTagIn?_eq_some_iff` : the kind whose tag leads a byte string, in any order of search.
* `Address.entity?_isDecidedBy` : the kind is looked for exactly in the two forms.
* `Address.entity?_of_belongs`, `Address.entity?_of_lower` : the kind of an address, given as bytes
  or in hexadecimal form.
* `Computation.entity?_of_result` : derived addresses tell their kind, and never collide across
  kinds.
-/

namespace StateAddress

/-! ### Looking for a tag -/

namespace Entity

theorem tag_isPrefix_of_ofTagIn? {order : List Entity} {b : Bytes} {e : Entity}
    (h : ofTagIn? order b = some e) : e.tag <+: b := by
  have hfound := List.find?_some (p := fun d : Entity => d.tag.isPrefixOf b) h
  exact List.isPrefixOf_iff_prefix.mp hfound

/-- In an order of search that leaves no kind out, the kind that is found is the one whose tag
leads the byte string. -/
theorem ofTagIn?_eq_some_iff {order : List Entity} {b : Bytes} {e : Entity}
    (horder : ∀ d, d ∈ order) : ofTagIn? order b = some e ↔ e.tag <+: b := by
  refine ⟨tag_isPrefix_of_ofTagIn?, fun he => ?_⟩
  cases h : ofTagIn? order b with
  | none =>
      have hnone := List.find?_eq_none.mp h e (horder e)
      exact absurd (List.isPrefixOf_iff_prefix.mpr he) hnone
  | some d =>
      rw [eq_of_tag_isPrefix (tag_isPrefix_of_ofTagIn? h) he]

theorem ofTag?_eq_some_iff {b : Bytes} {e : Entity} : ofTag? b = some e ↔ e.tag <+: b :=
  ofTagIn?_eq_some_iff mem_searchOrder

end Entity

/-! ### Accepted forms -/

namespace Hex

theorem length_pairs : (t : Text) → (pairs t).length = t.length / 2
  | [] => rfl
  | [_] => by simp [pairs]
  | _ :: _ :: rest => by
      rw [pairs, List.length_cons, length_pairs rest, List.length_cons, List.length_cons]
      omega

theorem decode_isDecidedBy (t : Text) :
    IsDecidedBy ((decode t).mapError Fault.rejected)
      (t.length % 2 = 0 ∧ t.all isDigit = true) := by
  rw [decode]
  split
  · next hodd => exact .inr ⟨fun h => hodd h.1, _, rfl⟩
  · next heven =>
      split
      · next hdigits => exact .inl ⟨⟨Decidable.not_not.mp heven, hdigits⟩, _, rfl⟩
      · next hdigits => exact .inr ⟨fun h => hdigits h.2, _, rfl⟩

theorem length_of_decode {t : Text} {b : Bytes}
    (h : (decode t).mapError Fault.rejected = .ok b) : t.length = 2 * b.length := by
  rw [decode] at h
  split at h
  · cases h
  · next heven =>
      split at h
      · cases h
        rw [length_pairs]
        omega
      · cases h

end Hex

/-! ### Addresses of the standard scheme -/

namespace Address

theorem checkLength_standard {b : Bytes} (h : b.length = 35) :
    checkLength Scheme.standard b = .ok b := by
  have hlen : hasLength Scheme.standard b = true := by
    rw [hasLength, h]
    rfl
  rw [checkLength, if_pos hlen]

variable {e : Entity} {b : Bytes}

/-- The kind of an address in bytes. -/
theorem entity?_of_belongs (h : Belongs Scheme.standard e b) :
    entity? Scheme.standard (.bytes b) = .ok (some e) := by
  obtain ⟨hlength, hprefix⟩ := belongs_standard_iff.mp h
  change (checkLength Scheme.standard b).map Entity.ofTag? = .ok (some e)
  rw [checkLength_standard hlength, ← Entity.ofTag?_eq_some_iff.mpr hprefix]
  rfl

/-- The kind of an address in hexadecimal form, in any mix of letter cases. -/
theorem entity?_of_lower (h : Belongs Scheme.standard e b) {t : Text}
    (ht : t.lower = Hex.encode b) :
    entity? Scheme.standard (.text t) = .ok (some e) := by
  obtain ⟨hlength, hprefix⟩ := belongs_standard_iff.mp h
  change (((Hex.decode t).mapError Fault.rejected).bind
    (checkLength Scheme.standard)).map Entity.ofTag? = .ok (some e)
  rw [Hex.decode_of_lower ht, ← Entity.ofTag?_eq_some_iff.mpr hprefix]
  change (checkLength Scheme.standard b).map Entity.ofTag? = .ok (Entity.ofTag? b)
  rw [checkLength_standard hlength]
  rfl

/-- Whether a value is an address in one of its forms: 35 bytes, or 70 hexadecimal digits. -/
def IsForm : Value → Prop
  | .text t => t.length = 70 ∧ t.all Hex.isDigit = true
  | .octets .fixed b => b.length = 35
  | .octets .growable b => b.length = 35
  | _ => False

theorem isWellFormed_of_isForm {t : Text} (h : IsForm (.text t)) : t.isWellFormed = true := by
  refine List.all_eq_true.mpr fun p hp => ?_
  have hdigit := List.all_eq_true.mp h.2 p hp
  cases p with
  | scalar c => rfl
  | surrogate offset => cases hdigit

theorem checkLength_isDecidedBy (b : Bytes) :
    IsDecidedBy (checkLength Scheme.standard b) (b.length = 35) := by
  by_cases h : b.length = 35
  · exact .inl ⟨h, b, checkLength_standard h⟩
  · have hlen : ¬ hasLength Scheme.standard b = true := by
      change ¬ (Value.int 35).isCount b.length = true
      rw [Value.isCount_int, decide_eq_true_eq]
      omega
    exact .inr ⟨h, _, if_neg hlen⟩

/-- The address of a text is given exactly if the text is one of its forms. -/
theorem ofHex_text_isDecidedBy (t : Text) :
    IsDecidedBy (ofHex Scheme.standard (.text t)) (IsForm (.text t)) := by
  have hform : IsForm (.text t) ↔
      (t.length % 2 = 0 ∧ t.all Hex.isDigit = true) ∧ t.length = 70 := by
    refine ⟨fun ⟨hlength, hdigits⟩ => ⟨⟨by omega, hdigits⟩, hlength⟩, ?_⟩
    exact fun ⟨⟨_, hdigits⟩, hlength⟩ => ⟨hlength, hdigits⟩
  refine ((Hex.decode_isDecidedBy t).bind fun b hb => ?_).congr hform.symm
  have hlength := Hex.length_of_decode hb
  exact (checkLength_isDecidedBy b).congr ⟨fun h => by omega, fun h => by omega⟩

/-- The kind of an address is looked for exactly in its forms, and all other values are refused. -/
theorem entity?_isDecidedBy (v : Value) :
    IsDecidedBy (entity? Scheme.standard v) (IsForm v) := by
  rcases v with _ | _ | _ | _ | t | ⟨_ | _ | _, b⟩ | _ | _ | _
  case text => exact (ofHex_text_isDecidedBy t).map Entity.ofTag?
  case octets.fixed => exact (checkLength_isDecidedBy b).map _
  case octets.growable => exact (checkLength_isDecidedBy b).map _
  all_goals exact .inr ⟨id, _, rfl⟩

theorem ne_of_belongs {d : Entity} {a : Bytes} (ha : Belongs Scheme.standard d a)
    (hb : Belongs Scheme.standard e b) (hne : d ≠ e) : a ≠ b := by
  rintro rfl
  exact hne (Entity.eq_of_tag_isPrefix (belongs_standard_iff.mp ha).2
    (belongs_standard_iff.mp hb).2)

end Address

/-! ### Derived addresses -/

/-- **Derived addresses tell their kind.** In the standard scheme, with any hash provider, the
kind of a derived address is that of its computation, whether it is given as bytes or in
hexadecimal form in any mix of letter cases.  So two computations for different kinds, each with
a provider of its own, never derive the same address. -/
theorem Computation.entity?_of_result {σ τ : Type} (p : Provider σ) (q : Provider τ)
    (c d : Computation) (level level' : Level) (s : σ) (t : τ) {a : Bytes}
    (ha : ((c.address p).run ⟨Scheme.standard, level⟩ s).result = .ok a) :
    Address.entity? Scheme.standard (.bytes a) = .ok (some c.entity) ∧
      (∃ form, Address.toHex Scheme.standard (.bytes a) = .ok form ∧
        ∀ written : Text, written.lower = form.lower →
          Address.entity? Scheme.standard (.text written) = .ok (some c.entity)) ∧
      (c.entity ≠ d.entity → ∀ b : Bytes,
        ((d.address q).run ⟨Scheme.standard, level'⟩ t).result = .ok b → a ≠ b) := by
  have hbelongs : Address.Belongs Scheme.standard c.entity a :=
    c.belongs_of_result ⟨Scheme.standard, level⟩ s p ha
  refine ⟨Address.entity?_of_belongs hbelongs,
    ⟨Hex.encode a, Address.toHex_of_belongs hbelongs, fun written hwritten => ?_⟩,
    fun hne b hb => ?_⟩
  · rw [Hex.lower_encode] at hwritten
    exact Address.entity?_of_lower hbelongs hwritten
  · have hother : Address.Belongs Scheme.standard d.entity b :=
      d.belongs_of_result ⟨Scheme.standard, level'⟩ t q hb
    exact Address.ne_of_belongs hbelongs hother hne

/-- A provider whose digests are the tag of an agent and then zeros. -/
def Provider.imitating : Provider Unit :=
  .bare (fun _ s => (.ok (.octets .view (Entity.agent.tag ++ List.replicate 28 0)), s)) none
    (.missing "ImitatingProvider")

/-- The address of a contract registry whose digest imitates the tag of an agent: it is told to be
that of a contract registry, also in upper case, and it is no agent's address. -/
theorem Computation.entity?_of_result_of_imitating :
    ∃ a b written, (((ofSubject (.contractRegistry (.bytes [0x61]))).address
        Provider.imitating).run ⟨Scheme.standard, 0⟩ ()).result = .ok a ∧
      (((ofSubject (.agent (.bytes [0x61]))).address (Provider.counting 40 [])).run
        ⟨Scheme.standard, 0⟩ 0).result = .ok b ∧
      a = [0x00, 0xec, 0x01] ++ Entity.agent.tag ++ List.replicate 28 0 ∧
      written = Text.ofString "00EC01CAD11D00" ++ List.replicate 56 (.scalar '0') ∧
      Address.entity? Scheme.standard (.bytes a) = .ok (some .contractRegistry) ∧
      Address.entity? Scheme.standard (.text written) = .ok (some .contractRegistry) ∧ a ≠ b := by
  obtain ⟨hkind, ⟨form, hform, hwritten⟩, hne⟩ :=
    entity?_of_result Provider.imitating (Provider.counting 40 [])
      (ofSubject (.contractRegistry (.bytes [0x61]))) (ofSubject (.agent (.bytes [0x61]))) 0 0
      () 0 rfl
  cases hform
  exact ⟨_, _, _, rfl, rfl, rfl, rfl, hkind, hwritten _ (by decide), hne (by decide) _ rfl⟩

end StateAddress
