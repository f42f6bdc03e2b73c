import StateAddress.Proofs.Acceptance
import StateAddress.Proofs.OneSlice

/-!
# Contracts with the same identifier

A contract is identified by its name and its version with a comma between them, and nothing is
escaped.  Two contracts have the same identifier exactly if one comes from the other by moving a
comma: some text between two commas ends the name of the one and begins the version of the other.
So identifiers are told apart among names without a comma, and among versions without one.

## Main definitions

* `Identifier.comma` : what stands between a name and a version.
* `Identifier.MovesComma` : a text between two commas goes from a version to a name.
* `Identifier.Collide` : contracts that are the same up to moving a comma.

## Main results

* `Identifier.append_comma_eq_iff` : the ways to divide a text at a comma.
* `Identifier.contract_of_isWellFormed` : the identifier of a contract.
* `Subject.contract_asks_alike_iff` : when the provider is asked for the same bytes.
-/

namespace StateAddress

/-! ### Different texts have different forms -/

theorem Utf8.encode_injective {t u : Text} {b : Bytes} (ht : encode t = .ok b)
    (hu : encode u = .ok b) : t = u := by
  obtain ⟨cs, rfl, hcs⟩ := exists_chars_of_encode ht
  obtain ⟨ds, rfl, hds⟩ := exists_chars_of_encode hu
  rw [ofChars_injective (hcs.symm.trans hds)]

namespace Identifier

/-! ### Dividing a text at a comma -/

/-- The comma, which stands between the name and the version of a contract. -/
def comma : CodePoint := .scalar ','

/-- Whether a name and a version become another name and another version by *moving a comma*: a
text between two commas is the beginning of the version and becomes the end of the name. -/
def MovesComma (name version name' version' : Text) : Prop :=
  ∃ between, name' = name ++ comma :: between ∧ version = between ++ comma :: version'

/-- Whether two contracts *collide*: they are the same, or a comma is moved from one to the
other. -/
def Collide (name version name' version' : Text) : Prop :=
  (name = name' ∧ version = version') ∨ MovesComma name version name' version' ∨
    MovesComma name' version' name version

variable {name version name' version' : Text}

/-- A text that is divided at two commas is divided at the same one, or what stands between them
goes from one side to the other. -/
theorem append_comma_eq_iff :
    name ++ comma :: version = name' ++ comma :: version' ↔
      Collide name version name' version' := by
  constructor
  · intro h
    rcases List.append_eq_append_iff.mp h with ⟨left, hname, hversion⟩ | ⟨left, hname, hversion⟩
    -- The name that is shorter leads the other one, and the rest of that begins with a comma.
    · rcases left with _ | ⟨c, between⟩
      · rw [List.append_nil] at hname
        exact .inl ⟨hname.symm, (List.cons.inj hversion).2⟩
      · obtain ⟨rfl, hrest⟩ := List.cons.inj hversion
        exact .inr (.inl ⟨between, hname, hrest⟩)
    · rcases left with _ | ⟨c, between⟩
      · rw [List.append_nil] at hname
        exact .inl ⟨hname, (List.cons.inj hversion).2.symm⟩
      · obtain ⟨rfl, hrest⟩ := List.cons.inj hversion
        exact .inr (.inr ⟨between, hname, hrest⟩)
  · rintro (⟨rfl, rfl⟩ | ⟨between, rfl, rfl⟩ | ⟨between, rfl, rfl⟩)
    · rfl
    · rw [List.append_assoc, List.cons_append]
    · rw [List.append_assoc, List.cons_append]

/-- After moving a comma, both the name and the version that had been divided hold one. -/
theorem MovesComma.comma_mem (h : MovesComma name version name' version') :
    comma ∈ name' ∧ comma ∈ version := by
  obtain ⟨between, rfl, rfl⟩ := h
  exact ⟨List.mem_append_right _ List.mem_cons_self, List.mem_append_right _ List.mem_cons_self⟩

/-! ### The identifier of a contract -/

/-- Under a scheme with the standard separator, a contract is identified by the form of its name, a
comma and its version. -/
theorem contract_of_isWellFormed {scheme : Scheme}
    (hseparator : scheme .contractSeparator = Scheme.standard .contractSeparator)
    (hname : name.isWellFormed = true) (hversion : version.isWellFormed = true) :
    ∃ b, Utf8.encode (name ++ comma :: version) = .ok b ∧
      contract scheme (.text name) (.text version) = .ok b := by
  have hcomma : separator scheme = .ok [0x2c] := by
    rw [separator, hseparator, ← separator, separator_standard]
  rw [← Text.map_scalar_scalars name hname, ← Text.map_scalar_scalars version hversion]
  have hjoined : name.scalars.map .scalar ++ comma :: version.scalars.map .scalar =
      (name.scalars ++ ',' :: version.scalars).map .scalar := by
    rw [List.map_append, List.map_cons, comma]
  have hbytes : Utf8.ofChars (name.scalars ++ ',' :: version.scalars) =
      Utf8.ofChars name.scalars ++ [0x2c] ++ Utf8.ofChars version.scalars := by
    rw [Utf8.ofChars_append, List.append_assoc]
    rfl
  refine ⟨_, by rw [hjoined, Utf8.encode_map_scalar, hbytes], ?_⟩
  rw [contract, encode_map_scalar, hcomma, encode_map_scalar]
  rfl

/-- Two contracts have the same identifier exactly if they collide. -/
theorem contract_eq_iff {scheme : Scheme}
    (hseparator : scheme .contractSeparator = Scheme.standard .contractSeparator)
    (hname : name.isWellFormed = true) (hversion : version.isWellFormed = true)
    (hname' : name'.isWellFormed = true) (hversion' : version'.isWellFormed = true) :
    contract scheme (.text name) (.text version) =
        contract scheme (.text name') (.text version') ↔
      Collide name version name' version' := by
  obtain ⟨b, hb, hcontract⟩ := contract_of_isWellFormed hseparator hname hversion
  obtain ⟨b', hb', hcontract'⟩ := contract_of_isWellFormed hseparator hname' hversion'
  rw [← append_comma_eq_iff, hcontract, hcontract']
  constructor
  · intro h
    rw [← Except.ok.inj h] at hb'
    exact Utf8.encode_injective hb hb'
  · intro h
    rw [h] at hb
    rw [Except.ok.inj (hb.symm.trans hb')]

end Identifier

/-! ### Derivations for contracts -/

section Derivations

open Identifier

/-- **Contracts collide only by moving a comma.**  Under a scheme with the standard separator,
whatever the other constants are, each provider is asked for the identifier of a contract, and the
identifiers of two contracts are the same exactly if the contracts collide.  With a memoryless
provider, the derivations for contracts that collide end alike.  Among contracts whose names hold no
comma, or whose versions hold none, no two collide. -/
theorem Subject.contract_asks_alike_iff {scheme : Scheme}
    (hseparator : scheme .contractSeparator = Scheme.standard .contractSeparator) (level : Level)
    {name version name' version' : Text}
    (hname : name.isWellFormed = true) (hversion : version.isWellFormed = true)
    (hname' : name'.isWellFormed = true) (hversion' : version'.isWellFormed = true) :
    let first : Subject := .contract (.text name) (.text version)
    let second : Subject := .contract (.text name') (.text version')
    ∃ b b' : Bytes,
      (∀ (σ : Type) (p : Provider σ) (s : σ),
        ((first.derive p).run ⟨scheme, level⟩ s).asked = [.bytes b] ∧
          ((second.derive p).run ⟨scheme, level⟩ s).asked = [.bytes b']) ∧
      (b = b' ↔ Collide name version name' version') ∧
      (Collide name version name' version' →
        ∀ (σ : Type) (p : Provider σ), p.IsMemoryless → ∀ s t,
          ((first.derive p).run ⟨scheme, level⟩ s).result =
            ((second.derive p).run ⟨scheme, level⟩ t).result) ∧
      (comma ∉ name → comma ∉ name' → b = b' → name = name' ∧ version = version') ∧
      (comma ∉ version → comma ∉ version' → b = b' → name = name' ∧ version = version') := by
  intro first second
  obtain ⟨b, -, hb⟩ := contract_of_isWellFormed hseparator hname hversion
  obtain ⟨b', -, hb'⟩ := contract_of_isWellFormed hseparator hname' hversion'
  have hcollide : b = b' ↔ Collide name version name' version' := by
    rw [← contract_eq_iff hseparator hname hversion hname' hversion', hb, hb', Except.ok.injEq]
  refine ⟨b, b', fun σ p s => ⟨?_, ?_⟩, hcollide, fun h σ p hp s t => ?_, fun hleft hright h => ?_,
    fun hleft hright h => ?_⟩
  · rw [first.run_derive_of_slice p s rfl hb]
  · rw [second.run_derive_of_slice p s rfl hb']
  · have hslices : first.slices scheme = second.slices scheme := by
      change [Slice.mk _ _ _] = [Slice.mk _ _ _]
      rw [hb, hb', hcollide.mpr h]
    exact result_derive_of_isMemoryless hp t s rfl hb' rfl hslices
  · rcases hcollide.mp h with hsame | hmoved | hmoved
    · exact hsame
    · exact absurd hmoved.comma_mem.1 hright
    · exact absurd hmoved.comma_mem.1 hleft
  · rcases hcollide.mp h with hsame | hmoved | hmoved
    · exact hsame
    · exact absurd hmoved.comma_mem.2 hleft
    · exact absurd hmoved.comma_mem.2 hright

/-- The version `b,c` of `a` and the version `c` of `a,b` have the same identifier, and the same
address. -/
theorem Subject.contract_asks_alike_iff_of_moved :
    Collide "a" "b,c" "a,b" "c" ∧
      (∃ b : Bytes, ∀ (σ : Type) (p : Provider σ) (s : σ),
        (((contract (.ofString "a") (.ofString "b,c")).derive p).run
          ⟨Scheme.standard, 0⟩ s).asked = [.bytes b] ∧
        (((contract (.ofString "a,b") (.ofString "c")).derive p).run
          ⟨Scheme.standard, 0⟩ s).asked = [.bytes b]) ∧
      ∀ s t : Unit, (((contract (.ofString "a") (.ofString "b,c")).derive .sha512).run
          ⟨Scheme.standard, 0⟩ s).result =
        (((contract (.ofString "a,b") (.ofString "c")).derive .sha512).run
          ⟨Scheme.standard, 0⟩ t).result := by
  have hcollide : Collide "a" "b,c" "a,b" "c" := .inr (.inl ⟨"b", rfl, rfl⟩)
  obtain ⟨b, b', hasked, hsame, halike, -⟩ :=
    @contract_asks_alike_iff Scheme.standard rfl 0 "a" "b,c" "a,b" "c" rfl rfl rfl rfl
  obtain rfl := hsame.mpr hcollide
  exact ⟨hcollide, ⟨b, hasked⟩, halike hcollide Unit _ fun _ _ _ => rfl⟩

end Derivations

end StateAddress
