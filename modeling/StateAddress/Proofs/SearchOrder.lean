import StateAddress.Proofs.AddressForm

/-!
# Telling the kind of an address in any order

To tell the kind of an address, the kinds are tried one after the other, those with the longer tags
first: the tag of each is read from its hexadecimal form, and the first kind whose tag leads the
bytes is the answer.  As no byte string is led by the tags of two kinds, the same kind is found
whatever the order is.  The form in which the address is given makes no difference, and all values
that are no address are refused.

## Main definitions

* `Entity.declared`, `Entity.isSearchedBefore` : the kinds as they are declared, and the order of
  search.
* `Entity.Leads`, `Entity.search` : kinds whose tag leads a byte string, and the search for one.
* `Address.entityIn?` : the kind of an address, the kinds being tried in an order.
* `Address.IsFormOf` : the forms of an address.
* `Address.IsExactClassifier` : what it means to tell the kinds of addresses.

## Main results

* `Entity.search_eq` : the search never fails.
* `Entity.ofTagIn?_congr` : in any two orders of all kinds the same is found.
* `Address.isExactClassifier_entity?` : the kinds of addresses are told.
-/

namespace StateAddress

namespace Entity

/-! ### The search -/

/-- All kinds, in the order of their declaration. -/
def declared : List Entity :=
  [namespaceRegistry, contractRegistry, contract, smartPermission, agent, organization, setting]

/-- Whether a kind is searched for no later than another: its written tag is no shorter. -/
def isSearchedBefore (d e : Entity) : Bool :=
  (Hex.encode e.tag).length ≤ (Hex.encode d.tag).length

theorem isSearchedBefore_eq (d e : Entity) :
    isSearchedBefore d e = decide (e.tag.length ≤ d.tag.length) := by
  rw [isSearchedBefore, Hex.length_encode, Hex.length_encode]
  exact decide_eq_decide.mpr (by omega)

/-- The kinds are searched for with the longer tags first, and else as they are declared. -/
theorem searchOrder_eq : searchOrder = declared.mergeSort isSearchedBefore := by
  simp [declared, searchOrder, List.mergeSort, List.MergeSort.Internal.splitInTwo,
    isSearchedBefore_eq, tag]

/-- Whether the tag of a kind, read from its hexadecimal form, leads a byte string. -/
def Leads (e : Entity) (b : Bytes) : Prop :=
  ∃ tag, Hex.ofValue (Scheme.tagValue e) = .ok tag ∧ tag <+: b

/-- The search through kinds: their tags are read and compared one after the other. -/
def search (b : Bytes) : List Entity → Except Fault (Option Entity)
  | [] => .ok none
  | e :: rest =>
      (Hex.ofValue (Scheme.tagValue e)).bind fun tag =>
        if tag.isPrefixOf b then .ok (some e) else search b rest

theorem mem_declared (e : Entity) : e ∈ declared := by
  cases e <;> decide

theorem ofValue_tagValue (e : Entity) : Hex.ofValue (Scheme.tagValue e) = .ok e.tag :=
  Scheme.hex_ofValue_tag e

theorem leads_iff {e : Entity} {b : Bytes} : e.Leads b ↔ e.tag <+: b := by
  refine ⟨?_, fun h => ⟨e.tag, ofValue_tagValue e, h⟩⟩
  rintro ⟨tag, htag, h⟩
  cases (ofValue_tagValue e).symm.trans htag
  exact h

/-- The search never fails, and finds the first kind whose tag leads. -/
theorem search_eq (b : Bytes) (order : List Entity) :
    search b order = .ok (ofTagIn? order b) := by
  induction order with
  | nil => rfl
  | cons e rest ih =>
      rw [search, ofValue_tagValue, ofTagIn?, List.find?_cons]
      change (if e.tag.isPrefixOf b then _ else _) = _
      cases h : e.tag.isPrefixOf b with
      | true => rfl
      | false => exact ih

/-- In any two orders that leave no kind out, the same is found. -/
theorem ofTagIn?_congr {order order' : List Entity} (horder : ∀ e, e ∈ order)
    (horder' : ∀ e, e ∈ order') (b : Bytes) : ofTagIn? order b = ofTagIn? order' b :=
  Option.ext fun _ => (ofTagIn?_eq_some_iff horder).trans (ofTagIn?_eq_some_iff horder').symm

end Entity

namespace Address

/-! ### Orders and forms -/

/-- The kind of an address in either form, the kinds being tried in an order. -/
def entityIn? (order : List Entity) (s : Scheme) (v : Value) : Except Fault (Option Entity) :=
  (bytes s v).bind fun b => Entity.search b order

/-- The kind of an address does not depend on the order in which the kinds are tried. -/
theorem entityIn?_eq {order : List Entity} (horder : ∀ e, e ∈ order) (s : Scheme) (v : Value) :
    entityIn? order s v = entity? s v := by
  rw [entityIn?, entity?]
  cases bytes s v with
  | error fault => rfl
  | ok b =>
      change Entity.search b order = .ok (Entity.ofTag? b)
      rw [Entity.search_eq, Entity.ofTag?, Entity.ofTagIn?_congr horder Entity.mem_searchOrder]

/-- Whether a value is a byte string in one of its forms: fixed or growable, or written with its
digits in any mix of letter cases. -/
def IsFormOf (b : Bytes) : Value → Prop
  | .octets .fixed c => c = b
  | .octets .growable c => c = b
  | .text t => t.lower = Hex.encode b
  | _ => False

/-- The kind of an address is that of its bytes, in whatever form it is given. -/
theorem entity?_of_isFormOf {b : Bytes} {v : Value} (hb : b.length = 35) (hv : IsFormOf b v) :
    entity? Scheme.standard v = .ok (Entity.ofTag? b) := by
  have hbytes : bytes Scheme.standard v = .ok b := by
    rcases v with _ | _ | _ | _ | t | ⟨_ | _ | _, c⟩ | _ | _ | _
    case text =>
      exact ofHex_text_eq_ok_iff.mpr ⟨Hex.decode_eq_ok_iff.mp (Hex.decode_of_lower hv), hb⟩
    case octets.fixed =>
      obtain rfl : c = b := hv
      exact checkLength_standard hb
    case octets.growable =>
      obtain rfl : c = b := hv
      exact checkLength_standard hb
    all_goals exact False.elim hv
  rw [entity?, hbytes]
  rfl

theorem entity?_bytes {b : Bytes} (hb : b.length = 35) :
    entity? Scheme.standard (.bytes b) = .ok (Entity.ofTag? b) := by
  have hform : IsFormOf b (.bytes b) := rfl
  exact entity?_of_isFormOf hb hform

/-! ### Exact classification -/

/-- A classifier is *exact* when it tells the kind of every address by the only tag that leads it,
in whatever form the address is given and in whatever order the kinds are tried, and refuses every
other value. -/
structure IsExactClassifier (classify : Value → Except Fault (Option Entity)) : Prop where
  /-- What is no address is refused, and nothing else is. -/
  refused_iff : ∀ v, (∃ r, classify v = .error (.rejected r)) ↔ ¬ (IsInBytes v ∨ IsInHex v)
  /-- There is no other way to fail. -/
  answered : ∀ v, IsInBytes v ∨ IsInHex v → ∃ e, classify v = .ok e
  /-- At most one kind has a tag that leads. -/
  eq_of_leads : ∀ (b : Bytes) (d e : Entity), d.Leads b → e.Leads b → d = e
  /-- A kind is told exactly if its tag leads. -/
  known_iff : ∀ b e, b.length = 35 → (classify (.bytes b) = .ok (some e) ↔ e.Leads b)
  /-- No kind is told exactly if no tag leads. -/
  unknown_iff : ∀ b, b.length = 35 → (classify (.bytes b) = .ok none ↔ ∀ e : Entity, ¬ e.Leads b)
  /-- The form makes no difference. -/
  of_form : ∀ b v, b.length = 35 → IsFormOf b v → classify v = classify (.bytes b)
  /-- The kinds with the longer tags are tried first. -/
  sorted : ∀ v, classify v =
    entityIn? (Entity.declared.mergeSort Entity.isSearchedBefore) Scheme.standard v
  /-- The order in which the kinds are tried makes no difference. -/
  of_order : ∀ order : List Entity, order.Perm Entity.declared →
    ∀ v, classify v = entityIn? order Scheme.standard v

/-- **The kinds of addresses are told exactly.**  In the standard scheme a value is refused exactly
if it is no address, and for an address the kind is told whose tag leads the bytes, which is one
kind at most.  It is the same for the address as a fixed or growable byte string and in
hexadecimal form in any mix of letter cases, and it would be the same if the kinds were tried in
another order. -/
theorem isExactClassifier_entity? : IsExactClassifier (entity? Scheme.standard) where
  refused_iff v := by
    have hdecided := (entity?_isDecidedBy v).congr (isForm_iff v)
    refine ⟨?_, hdecided.exists_rejected_of_not⟩
    rintro ⟨r, hr⟩ hform
    obtain ⟨e, he⟩ := hdecided.exists_ok_iff.mpr hform
    cases hr.symm.trans he
  answered v := ((entity?_isDecidedBy v).congr (isForm_iff v)).exists_ok_iff.mpr
  eq_of_leads _ _ _ hd he :=
    Entity.eq_of_tag_isPrefix (Entity.leads_iff.mp hd) (Entity.leads_iff.mp he)
  known_iff b e hb := by
    rw [entity?_bytes hb, Entity.leads_iff, ← Entity.ofTag?_eq_some_iff]
    exact ⟨Except.ok.inj, congrArg _⟩
  unknown_iff b hb := by
    rw [entity?_bytes hb]
    refine ⟨fun hnone e he => ?_, fun hnone => ?_⟩
    · have hsome := Entity.ofTag?_eq_some_iff.mpr (Entity.leads_iff.mp he)
      cases hsome.symm.trans (Except.ok.inj hnone)
    · refine congrArg _ (Option.eq_none_iff_forall_ne_some.mpr fun e he => ?_)
      exact hnone e (Entity.leads_iff.mpr (Entity.ofTag?_eq_some_iff.mp he))
  of_form b v hb hv := by rw [entity?_of_isFormOf hb hv, entity?_bytes hb]
  sorted v := by rw [← Entity.searchOrder_eq, entityIn?_eq Entity.mem_searchOrder]
  of_order order horder v :=
    (entityIn?_eq (fun e => horder.mem_iff.mpr (Entity.mem_declared e)) _ v).symm

end Address

end StateAddress
