import StateAddress.Proofs.Consultation
import StateAddress.Setting

/-!
# The shape of derived addresses

Whatever a provider answers and whatever values the constants have, an address that is derived
has the address length in force and begins with the tag in force of its kind of entity.  Nothing
is promised about the digests, so the shape is that of the composition, which every derivation
ends with.

## Main definitions

* `Computation` : the seven computations of an address.
* `Address.Belongs` : the shape of an address of a kind of entity under a scheme.

## Main results

* `Address.belongs_of_compose` : a composed address has the shape of its kind.
* `Address.belongs_standard_iff` : the shape in the standard scheme.
* `Computation.belongs_of_result` : a computed address has the shape of its kind.
* `run_toHex_of_belongs` : computed addresses can be written in hexadecimal form.
-/

namespace StateAddress

/-! ### Computations -/

/-- One of the seven computations of an address, with the identifiers given. -/
inductive Computation where
  | ofSubject (subject : Subject)
  | ofSetting (key : Value)
  deriving Repr

namespace Computation

/-- The kind of entity of a computation. -/
def entity : Computation → Entity
  | ofSubject subject => subject.entity
  | ofSetting _ => .setting

/-- The computation of an address with a hash provider, which settings do not use. -/
def address {σ : Type} (p : Provider σ) : Computation → Operation σ Bytes
  | ofSubject subject => subject.derive p
  | ofSetting key => SettingKey.address key

end Computation

/-! ### Lengths and tags -/

theorem Value.isCount_eq_same (v : Value) (n : Nat) : v.isCount n = (Value.int n).same v := by
  cases v <;> simp [isCount, same, number?, Decimal.Scaled.eq, eq_comm]

theorem Scheme.hex_ofValue_tag (e : Entity) : Hex.ofValue (standard (.tag e)) = .ok e.tag := by
  change (Hex.decode (Hex.encode e.tag)).mapError Fault.rejected = .ok e.tag
  rw [Hex.decode_encode]
  rfl

namespace Address

/-- A byte string *belongs* to a kind of entity under a scheme when its length equals the address
length in force and it begins with the bytes of the kind's tag in force. -/
structure Belongs (s : Scheme) (e : Entity) (b : Bytes) : Prop where
  length_same : (Value.int b.length).same (s .addressLength) = true
  tag_isPrefix : ∃ tag, Hex.ofValue (s (.tag e)) = .ok tag ∧ tag <+: b

/-- A composed address has the shape of its kind, whatever its parts are. -/
theorem belongs_of_compose {s : Scheme} {e : Entity} {parts : List Value} {b : Bytes}
    (h : compose s e parts = .ok b) : Belongs s e b := by
  obtain ⟨tag, rest, htag, -, rfl, hlen⟩ := compose_eq_ok h
  refine ⟨?_, tag, htag, List.prefix_append tag rest⟩
  rw [← Value.isCount_eq_same]
  exact hlen

theorem toHex_of_belongs {s : Scheme} {e : Entity} {b : Bytes} (h : Belongs s e b) :
    toHex s (.bytes b) = .ok (Hex.encode b) := by
  have hlength : hasLength s b = true := by
    rw [hasLength, Value.isCount_eq_same]
    exact h.length_same
  change (checkLength s b).map Hex.encode = _
  rw [checkLength, if_pos hlength]
  rfl

theorem compose_standard {e : Entity} {parts : List Value} {rest : Bytes}
    (hjoined : joinOctets 1 parts = .ok rest) (hlength : e.tag.length + rest.length = 35) :
    compose Scheme.standard e parts = .ok (e.tag ++ rest) := by
  have hlen : hasLength Scheme.standard (e.tag ++ rest) = true := by
    rw [hasLength, List.length_append, hlength]
    rfl
  rw [compose, Scheme.hex_ofValue_tag, hjoined]
  exact if_pos hlen

/-- With a tag of the standard scheme, parts make up no address because one of them is no byte
string or because their total length is not the right one. -/
theorem compose_eq_error {s : Scheme} {e : Entity} (htag : s (.tag e) = Scheme.standard (.tag e))
    {parts : List Value} {fault : Fault} (h : compose s e parts = .error fault) :
    (∃ reason, fault = .misused reason) ∨
      ∃ actual, fault = .unfit (.addressLength e.label actual (s .addressLength)) := by
  rw [compose, htag, Scheme.hex_ofValue_tag] at h
  change joinOctets 1 parts >>= _ = .error fault at h
  cases hrest : joinOctets 1 parts with
  | error reason =>
      rw [hrest] at h
      cases h
      exact .inl (exists_misused_of_joinOctets hrest)
  | ok rest =>
      rw [hrest] at h
      change (if _ then _ else _) = _ at h
      split at h
      · cases h
      · cases h
        exact .inr ⟨_, rfl⟩

/-- In the standard scheme an address has 35 bytes and begins with the tag of its kind. -/
theorem belongs_standard_iff {e : Entity} {b : Bytes} :
    Belongs Scheme.standard e b ↔ b.length = 35 ∧ e.tag <+: b := by
  have hlen : (Value.int b.length).same (Scheme.standard .addressLength) = true ↔
      b.length = 35 := by
    change (Value.int b.length).same (.int 35) = true ↔ b.length = 35
    rw [Value.same_int, decide_eq_true_eq]
    omega
  constructor
  · rintro ⟨hsame, tag, htag, hprefix⟩
    rw [Scheme.hex_ofValue_tag] at htag
    cases htag
    exact ⟨hlen.mp hsame, hprefix⟩
  · rintro ⟨hlength, hprefix⟩
    exact ⟨hlen.mpr hlength, e.tag, Scheme.hex_ofValue_tag e, hprefix⟩

end Address

/-! ### Computed addresses -/

section Computed

variable {σ : Type} (setup : Setup) (s : σ) {b : Bytes}

theorem belongs_of_composed {e : Entity} {parts : List Value}
    (h : ((composed e parts).run setup s).result = .ok b) :
    Address.Belongs setup.scheme e b := by
  rw [run_composed] at h
  exact Address.belongs_of_compose h

theorem Subject.belongs_of_derive (p : Provider σ) (subject : Subject)
    (h : ((subject.derive p).run setup s).result = .ok b) :
    Address.Belongs setup.scheme subject.entity b := by
  obtain ⟨parts, -, hcompose⟩ := subject.exists_parts_of_derive p setup s h
  exact Address.belongs_of_compose hcompose

theorem SettingKey.run_address (key : Value) :
    (SettingKey.address key).run setup s =
      match hashed setup.scheme key with
      | .error fault => ⟨.error fault, [], [], s⟩
      | .ok found => (composed .setting found).run setup s := by
  rw [SettingKey.address, Operation.run_scheme_bind]
  cases hashed setup.scheme key <;> rfl

theorem SettingKey.belongs_of_address (key : Value)
    (h : ((SettingKey.address key).run setup s).result = .ok b) :
    Address.Belongs setup.scheme .setting b := by
  rw [run_address] at h
  split at h
  · cases h
  · exact belongs_of_composed setup s h

/-- A computed address has the shape of its kind, whatever the provider and the constants are. -/
theorem Computation.belongs_of_result (p : Provider σ) (c : Computation)
    (h : ((c.address p).run setup s).result = .ok b) :
    Address.Belongs setup.scheme c.entity b := by
  cases c with
  | ofSubject subject => exact subject.belongs_of_derive setup s p h
  | ofSetting key => exact SettingKey.belongs_of_address setup s key h

/-- Writing computed addresses in hexadecimal form never fails, and has no effect. -/
theorem run_toHex_of_belongs {o : Operation σ Bytes} {e : Entity}
    (h : ∀ b, (o.run setup s).result = .ok b → Address.Belongs setup.scheme e b) :
    (o >>= fun b => Operation.scheme >>= fun scheme =>
        Operation.ofExcept (Address.toHex scheme (.bytes b))).run setup s =
      { o.run setup s with result := (o.run setup s).result.map Hex.encode } := by
  cases hresult : (o.run setup s).result with
  | error fault =>
      rw [Operation.run_bind_error hresult]
      rfl
  | ok b =>
      rw [Operation.run_bind_ok hresult, Operation.run_scheme_bind, Operation.run_ofExcept,
        Address.toHex_of_belongs (h b hresult), List.append_nil, List.append_nil]
      rfl

end Computed

end StateAddress
