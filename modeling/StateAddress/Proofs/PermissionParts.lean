import StateAddress.Proofs.DigestContents

/-!
# The parts of a smart permission

The address of a smart permission is its tag, a part for the owner and a part for the name, and each
part can be told without the other one.  So two such addresses can be put together to a third one,
a change of the owner or of the name stays in its own part, and each part occurs in other addresses
as well: that of the owner in the addresses of the organization and of the agent with the same
identifier, that of the name in the address of the contract registry with the same name.

## Main definitions

* `Subject.HasAddress` : the address that a derivation gives in all states of the provider.

## Main results

* `Identifier.exists_encode` : all fields of requests read an identifier alike.
* `Subject.permission_decomposes` : how addresses of smart permissions are put together.
-/

namespace StateAddress

variable {σ : Type}

/-- The bytes of an acceptable identifier do not depend on the field that it is given in. -/
theorem Identifier.exists_encode {v : Value} (h : IsAcceptable v) :
    ∃ b, ∀ field, encode field v = .ok b := by
  rcases v with _ | _ | _ | _ | t | ⟨_ | _ | _, b⟩ | _ | _ | _
  case text =>
    refine ⟨t.flatMap Utf8.ofCodePoint, fun field => ?_⟩
    rw [encode, Utf8.encode_eq_ok_iff.mpr ⟨h, rfl⟩]
  case octets.fixed => exact ⟨b, fun _ => rfl⟩
  case octets.growable => exact ⟨b, fun _ => rfl⟩
  all_goals exact h.elim

namespace Subject

/-- Whether the derivation for a subject gives an address in the standard scheme, in whatever state
the provider is. -/
def HasAddress (p : Provider σ) (level : Level) (subject : Subject) (a : Bytes) : Prop :=
  ∀ s, ((subject.derive p).run ⟨Scheme.standard, level⟩ s).result = .ok a

section Parts

variable {p : Provider σ} {content : Bytes → Bytes} (hp : p.HashesBy content)
  (hlong : ∀ b, 32 ≤ (content b).length) (level : Level)

include hp hlong

/-- The address of a smart permission is made of three bytes for the owner and 29 for the name. -/
theorem hasAddress_smartPermission {owner name : Value} {o n : Bytes}
    (howner : ∀ field, Identifier.encode field owner = .ok o)
    (hname : ∀ field, Identifier.encode field name = .ok n) :
    (smartPermission owner name).HasAddress p level
      (Entity.smartPermission.tag ++ ((content o).take 3 ++ (content n).take 29)) := by
  have hpayloads : ((smartPermission owner name).slices Scheme.standard).map Slice.payload =
      [o, n].map .ok := by
    rw [slices, List.map_cons, List.map_singleton, howner, hname]
    rfl
  intro s
  rw [exists_address_of_hashesBy hp hlong hpayloads level s]
  change Except.ok (_ ++ ((content o).take 3 ++ ((content n).take 29 ++ []))) = _
  rw [List.append_nil]
  rfl

theorem hasAddress_of_slice {subject : Subject} {slice : Slice} {b : Bytes}
    (hslices : subject.slices Scheme.standard = [slice]) (hpayload : slice.payload = .ok b) :
    subject.HasAddress p level
      (subject.entity.tag ++ (content b).take slice.portion.standardLength) := by
  have hpayloads : (subject.slices Scheme.standard).map Slice.payload = [b].map .ok := by
    rw [hslices, List.map_singleton, hpayload, List.map_singleton]
  intro s
  rw [exists_address_of_hashesBy hp hlong hpayloads level s, hslices]
  change Except.ok (_ ++ ((content b).take _ ++ [])) = _
  rw [List.append_nil]

end Parts

/-! ### Where the parts are -/

/-- The part for the owner is in the bytes 3 to 5 of an address, and the part for the name in the
bytes 6 to 34. -/
theorem layout_smartPermission {own named : Bytes} (hown : own.length = 3)
    (hnamed : named.length = 29) :
    let a := Entity.smartPermission.tag ++ (own ++ named)
    a.length = 35 ∧ a.take 3 = Entity.smartPermission.tag ∧
      a.take 6 = Entity.smartPermission.tag ++ own ∧ a.drop 6 = named ∧
      a.extract 3 6 = own ∧ a.extract 6 35 = named := by
  intro a
  have htag : Entity.smartPermission.tag.length = 3 := rfl
  have hfront : (Entity.smartPermission.tag ++ own).length = 6 := by
    rw [List.length_append, htag, hown]
  have hassoc : a = (Entity.smartPermission.tag ++ own) ++ named :=
    (List.append_assoc ..).symm
  have hdrop : a.drop 6 = named := by rw [hassoc, List.drop_left' hfront]
  refine ⟨?_, List.take_left' htag, ?_, hdrop, ?_, ?_⟩
  · rw [hassoc, List.length_append, hfront, hnamed]
  · rw [hassoc, List.take_left' hfront]
  · rw [List.extract, List.drop_left' htag, List.take_left' hown]
  · rw [List.extract, hdrop, List.take_of_length_le (Nat.le_of_eq hnamed)]

theorem extract_tag_append {tag content : Bytes} {start count taken : Nat}
    (htag : tag.length = start) (hle : count ≤ taken) :
    (tag ++ content.take taken).extract start (start + count) = content.take count := by
  rw [List.extract, List.drop_left' htag, List.take_take, Nat.add_sub_cancel_left,
    Nat.min_eq_left hle]

/-- **Smart permissions decompose.**  In the standard scheme, with long enough digests that depend
on the data alone, all acceptable owners and names have addresses, in which the first six bytes do
not depend on the name and all bytes but 3 to 5 do not depend on the owner.  So the beginning of one
address and the end of another one make up the address for the owner of the former and the name of
the latter.  The bytes for the owner stand in the addresses of the organization and of the agent
with the same identifier as well, and those for the name in the address of the contract registry. -/
theorem permission_decomposes {p : Provider σ} {content : Bytes → Bytes} (hp : p.HashesBy content)
    (hlong : ∀ b, 32 ≤ (content b).length) (level : Level) {owner owner' name name' : Value}
    (howner : Identifier.IsAcceptable owner) (howner' : Identifier.IsAcceptable owner')
    (hname : Identifier.IsAcceptable name) (hname' : Identifier.IsAcceptable name') :
    ∃ a other joined moved organization agent registry : Bytes,
      (smartPermission owner name).HasAddress p level a ∧
      (smartPermission owner' name').HasAddress p level other ∧
      (smartPermission owner name').HasAddress p level joined ∧
      (smartPermission owner' name).HasAddress p level moved ∧
      (Subject.organization owner).HasAddress p level organization ∧
      (Subject.agent owner).HasAddress p level agent ∧
      (contractRegistry name).HasAddress p level registry ∧
      a.length = 35 ∧ other.length = 35 ∧ a.take 6 ++ other.drop 6 = joined ∧
      (moved.take 3 = a.take 3 ∧ moved.drop 6 = a.drop 6) ∧ joined.take 6 = a.take 6 ∧
      a.extract 3 6 = organization.extract 4 7 ∧ a.extract 3 6 = agent.extract 4 7 ∧
      a.extract 6 35 = registry.extract 3 32 := by
  obtain ⟨o, ho⟩ := Identifier.exists_encode howner
  obtain ⟨o', ho'⟩ := Identifier.exists_encode howner'
  obtain ⟨n, hn⟩ := Identifier.exists_encode hname
  obtain ⟨n', hn'⟩ := Identifier.exists_encode hname'
  have hown (b : Bytes) : ((content b).take 3).length = 3 :=
    List.length_take_of_le (Nat.le_trans (by decide) (hlong b))
  have hnamed (b : Bytes) : ((content b).take 29).length = 29 :=
    List.length_take_of_le (Nat.le_trans (by decide) (hlong b))
  obtain ⟨hlength, htag, hfront, hback, howned, hcalled⟩ :=
    layout_smartPermission (hown o) (hnamed n)
  obtain ⟨hlength', -, -, hback', -⟩ := layout_smartPermission (hown o') (hnamed n')
  obtain ⟨-, -, hfrontJoined, -⟩ := layout_smartPermission (hown o) (hnamed n')
  obtain ⟨-, htagMoved, -, hbackMoved, -⟩ := layout_smartPermission (hown o') (hnamed n)
  refine ⟨_, _, _, _, _, _, _, hasAddress_smartPermission hp hlong level ho hn,
    hasAddress_smartPermission hp hlong level ho' hn',
    hasAddress_smartPermission hp hlong level ho hn',
    hasAddress_smartPermission hp hlong level ho' hn,
    hasAddress_of_slice hp hlong level rfl (ho _), hasAddress_of_slice hp hlong level rfl (ho _),
    hasAddress_of_slice hp hlong level rfl (hn _), hlength, hlength', ?_, ⟨?_, ?_⟩, ?_, ?_, ?_, ?_⟩
  · rw [hfront, hback', List.append_assoc]
  · rw [htagMoved, htag]
  · rw [hbackMoved, hback]
  · rw [hfrontJoined, hfront]
  · rw [howned]
    exact (extract_tag_append rfl (by decide : 3 ≤ 31)).symm
  · rw [howned]
    exact (extract_tag_append rfl (by decide : 3 ≤ 31)).symm
  · rw [hcalled]
    exact (extract_tag_append rfl (by decide : 29 ≤ 32)).symm

/-- The owner `o` as a text and the name `n` as bytes, with a provider that counts its calls and
whose digests are the data and zeros: the addresses for both owners and both names. -/
theorem permission_decomposes_of_padding :
    let content : Bytes → Bytes := fun b => b ++ List.replicate 32 0
    let p : Provider Nat := .bare
      (fun data calls => (data.hashInput.map fun b => .octets .view (content b), calls + 1)) none
      (.missing "PaddingProvider")
    p.HashesBy content ∧
      ∃ a other joined : Bytes,
        (smartPermission (.ofString "o") (.bytes [0x6e])).HasAddress p 0 a ∧
        (smartPermission (.octets .growable []) (.ofString "m")).HasAddress p 0 other ∧
        (smartPermission (.ofString "o") (.ofString "m")).HasAddress p 0 joined ∧
        a.take 6 ++ other.drop 6 = joined ∧
        joined = [0x00, 0xec, 0x03, 0x6f, 0x00, 0x00, 0x6d] ++ List.replicate 28 0 := by
  intro content p
  have hp : p.HashesBy content := fun b s => ⟨_, .view, rfl, rfl⟩
  have hlong (b : Bytes) : 32 ≤ (content b).length := by
    rw [List.length_append, List.length_replicate]
    omega
  obtain ⟨a, other, joined, -, -, -, -, ha, hother, hjoined, -, -, -, -, -, -, hdecomposed, -⟩ :=
    @permission_decomposes _ p content hp hlong 0 (.ofString "o") (.octets .growable [])
      (.bytes [0x6e]) (.ofString "m") rfl trivial trivial rfl
  exact ⟨hp, a, other, joined, ha, hother, hjoined, hdecomposed,
    (Except.ok.inj (hjoined 0)).symm⟩

end Subject

end StateAddress
