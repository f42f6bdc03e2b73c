import StateAddress.Proofs.Shape

/-!
# Addresses of settings in the standard scheme

A key of a setting is cut at its first three dots, and missing parts are empty.  With dots between
them again, the four parts are the key followed by one dot for each part that was missing.  So a
lone surrogate of the key is one of its parts, and the address is composed of four digests of
eight bytes exactly if there is none.

## Main definitions

* `SettingKey.filledUp` : a key with the dots of its missing parts.
* `SettingKey.IsDivision` : the four parts of a key.
* `SettingKey.partOctets`, `SettingKey.octets` : the bytes of a part, and of the whole address.

## Main results

* `SettingKey.exists_division` : a key is cut into its four parts.
* `SettingKey.run_address_of_parts` : the address of a key without surrogates.
* `SettingKey.address_cases` : how the derivation of an address of a setting ends.
-/

namespace StateAddress

/-! ### Lone surrogates in joined texts -/

namespace Text

theorem isWellFormed_append_iff {s t : Text} :
    isWellFormed (s ++ t) = true ↔ s.isWellFormed = true ∧ t.isWellFormed = true := by
  rw [Quoted.isWellFormed_append, Bool.and_eq_true]

theorem isWellFormed_replicate (n : Nat) (c : Char) :
    isWellFormed (List.replicate n (.scalar c)) = true := by
  simp [isWellFormed]

end Text

namespace SettingKey

/-! ### Joining parts -/

theorem intercalate_append : {first second : List Text} → first ≠ [] → second ≠ [] →
    List.intercalate [dot] (first ++ second) =
      List.intercalate [dot] first ++ dot :: List.intercalate [dot] second
  | [], _, h, _ => absurd rfl h
  | [part], second, _, hsecond => by
      simp [List.intercalate_cons_of_ne_nil hsecond]
  | part :: next :: first, second, _, hsecond => by
      have ih := intercalate_append (List.cons_ne_nil next first) hsecond
      rw [List.cons_append, List.intercalate_cons_of_ne_nil (by simp), ih,
        List.intercalate_cons_of_ne_nil (List.cons_ne_nil next first)]
      simp only [List.append_assoc]

theorem intercalate_fillUp (found : List Text) (h : found ≠ []) (n : Nat) :
    List.intercalate [dot] (found ++ List.replicate n []) =
      List.intercalate [dot] found ++ List.replicate n dot := by
  induction n generalizing found with
  | zero => simp
  | succ n ih =>
      have hone := ih (found ++ [[]]) (by simp)
      rw [intercalate_append h (List.cons_ne_nil [] [])] at hone
      rw [List.replicate_succ, List.replicate_succ]
      simpa [List.intercalate] using hone

/-- All that is left over is kept as one part. -/
theorem intercalate_limit (cuts : Nat) {found : List Text} (h : found ≠ []) :
    List.intercalate [dot] (limit cuts found) = List.intercalate [dot] found := by
  rw [limit]
  split
  · rfl
  · next hlength =>
      cases cuts with
      | zero => simp [List.intercalate]
      | succ cuts =>
          have htake : found.take (cuts + 1) ≠ [] := by simp [h]
          have hdrop : found.drop (cuts + 1) ≠ [] := by
            rw [Ne, List.drop_eq_nil_iff]
            omega
          rw [intercalate_append htake (List.cons_ne_nil _ []), List.intercalate_singleton,
            ← intercalate_append htake hdrop, List.take_append_drop]

theorem isWellFormed_intercalate (found : List Text) :
    Text.isWellFormed (List.intercalate [dot] found) = true ↔
      ∀ part ∈ found, part.isWellFormed = true := by
  induction found with
  | nil => simp [Text.isWellFormed]
  | cons part rest ih =>
      rcases rest with _ | ⟨next, rest⟩
      · simp
      · have hdot : Text.isWellFormed [dot] = true := rfl
        rw [List.intercalate_cons_cons, Text.isWellFormed_append_iff,
          Text.isWellFormed_append_iff, ih]
        simp only [hdot, and_true, List.forall_mem_cons]

/-! ### The parts of a key -/

theorem length_split (t : Text) : (split t).length = t.count dot + 1 := by
  induction t with
  | nil => rfl
  | cons p t ih =>
      have hcons : split (p :: t) = prepend p (split t) := rfl
      simp only [hcons, prepend]
      split
      · next hp => rw [hp, List.count_cons_self, List.length_cons, ih]
      · next hp =>
          rw [List.count_cons_of_ne hp]
          cases hs : split t with
          | nil => exact absurd hs (split_ne_nil t)
          | cons first rest =>
              rw [hs] at ih
              exact ih

theorem length_limit (cuts : Nat) (found : List Text) :
    (limit cuts found).length = min found.length (cuts + 1) := by
  rw [limit]
  split
  · omega
  · rw [List.length_append, List.length_take, List.length_singleton]
    omega

theorem take_limit (cuts : Nat) (found : List Text) :
    (limit cuts found).take cuts = found.take cuts := by
  rw [limit]
  split
  · rfl
  · exact List.take_left' (by rw [List.length_take]; omega)

/-- A key followed by one dot for each of its first three dots that is missing. -/
def filledUp (t : Text) : Text := t ++ List.replicate (3 - t.count dot) dot

/-- Four parts are the *division* of a key when the first three hold no dot, and when with dots
between them the parts are the key filled up. -/
structure IsDivision (t : Text) (found : List Text) : Prop where
  length_eq : found.length = 4
  dotless : ∀ part ∈ found.take 3, dot ∉ part
  joined : List.intercalate [dot] found = filledUp t

/-- In the standard scheme a key is cut into its division. -/
theorem exists_division (t : Text) :
    ∃ found, parts (Scheme.standard .settingParts) t = .ok found ∧ IsDivision t found := by
  have hlength := length_limit 3 (split t)
  rw [length_split] at hlength
  have hne : limit 3 (split t) ≠ [] := by
    intro h
    rw [h, List.length_nil] at hlength
    omega
  have hfill : fillUp 4 (limit 3 (split t)) =
      .ok (limit 3 (split t) ++ List.replicate (3 - t.count dot) []) := by
    rw [fillUp, if_neg (by rw [countLimit]; omega)]
    congr 3
    omega
  refine ⟨_, hfill, ?_, fun part hpart => ?_, ?_⟩
  · rw [List.length_append, List.length_replicate]
    omega
  · rw [List.take_append, take_limit] at hpart
    rcases List.mem_append.mp hpart with hfound | hempty
    · exact not_mem_of_mem_split (List.mem_of_mem_take hfound)
    · rw [List.eq_of_mem_replicate (List.mem_of_mem_take hempty)]
      exact List.not_mem_nil
  · rw [intercalate_fillUp _ hne, intercalate_limit 3 (split_ne_nil t), intercalate_split,
      filledUp]

theorem IsDivision.isWellFormed_iff {t : Text} {found : List Text} (h : IsDivision t found) :
    (∀ part ∈ found, part.isWellFormed = true) ↔ t.isWellFormed = true := by
  rw [← isWellFormed_intercalate, h.joined, filledUp, Text.isWellFormed_append_iff]
  exact and_iff_left (Text.isWellFormed_replicate _ '.')

/-! ### The digests of parts -/

/-- The bytes of a part without surrogates: the first eight of its digest. -/
def partOctets (part : Text) : Bytes := (sha256 (part.flatMap Utf8.ofCodePoint)).take 8

@[simp] theorem length_partOctets (part : Text) : (partOctets part).length = 8 := by
  simp [partOctets]

theorem length_flatten_partOctets (found : List Text) :
    (found.map partOctets).flatten.length = 8 * found.length := by
  induction found with
  | nil => rfl
  | cons part rest ih =>
      rw [List.map_cons, List.flatten_cons, List.length_append, length_partOctets, ih,
        List.length_cons]
      omega

theorem partDigest_of_isWellFormed {part : Text} (h : part.isWellFormed = true) :
    partDigest (.int 8) part = .ok (.bytes (partOctets part)) := by
  rw [partDigest, Utf8.encode_eq_ok_iff.mpr ⟨h, rfl⟩]
  rfl

theorem digests_of_isWellFormed (found : List Text)
    (h : ∀ part ∈ found, part.isWellFormed = true) :
    digests (.int 8) found = .ok ((found.map partOctets).map .bytes) := by
  induction found with
  | nil => rfl
  | cons part rest ih =>
      rw [digests, partDigest_of_isWellFormed (h part List.mem_cons_self),
        ih fun x hx => h x (List.mem_cons_of_mem _ hx)]
      rfl

/-- The first surrogate in the parts is reported as such. -/
theorem digests_of_not_isWellFormed (found : List Text)
    (h : ¬ ∀ part ∈ found, part.isWellFormed = true) :
    ∃ run, digests (.int 8) found = .error (.unencodable run) := by
  induction found with
  | nil => exact absurd (fun _ hx => by cases hx) h
  | cons part rest ih =>
      by_cases hpart : part.isWellFormed = true
      · obtain ⟨run, hrun⟩ := ih fun hrest => h (List.forall_mem_cons.mpr ⟨hpart, hrest⟩)
        refine ⟨run, ?_⟩
        rw [digests, partDigest_of_isWellFormed hpart, hrun]
        rfl
      · cases hencode : Utf8.encode part with
        | ok b => exact absurd (Utf8.encode_eq_ok_iff.mp hencode).1 hpart
        | error run =>
            refine ⟨run, ?_⟩
            rw [digests, partDigest, hencode]
            rfl

theorem joinOctets_map_bytes (position : Nat) (bs : List Bytes) :
    joinOctets position (bs.map .bytes) = .ok bs.flatten := by
  induction bs generalizing position with
  | nil => rfl
  | cons b bs ih =>
      rw [List.map_cons, joinOctets, ih]
      rfl

/-! ### The address -/

/-- In the standard scheme a key is hashed part by part. -/
theorem hashed_of_parts {c : CodePoint} {t : Text} {found : List Text}
    (h : parts (Scheme.standard .settingParts) (c :: t) = .ok found) :
    hashed Scheme.standard (.text (c :: t)) = digests (.int 8) found := by
  change (parts (Scheme.standard .settingParts) (c :: t)).bind (digests (.int 8)) = _
  rw [h]
  rfl

/-- The bytes of the address of a setting whose key has these parts. -/
def octets (found : List Text) : Bytes := [0x00, 0x00, 0x00] ++ (found.map partOctets).flatten

section Address

variable {σ : Type} (level : Level) (s : σ) {c : CodePoint} {t : Text} {found : List Text}

/-- In the standard scheme, the address of a key without surrogates is composed of the bytes of its
parts, and its derivation asks no provider. -/
theorem run_address_of_parts (hfound : parts (Scheme.standard .settingParts) (c :: t) = .ok found)
    (hdivision : IsDivision (c :: t) found) (hwell : Text.isWellFormed (c :: t) = true) :
    (SettingKey.address (.text (c :: t))).run ⟨Scheme.standard, level⟩ s =
      ⟨.ok (octets found), [], Event.ofComposed .setting level (.ok (octets found)), s⟩ := by
  have hcompose : Address.compose Scheme.standard .setting ((found.map partOctets).map .bytes) =
      .ok (octets found) := by
    refine Address.compose_standard (joinOctets_map_bytes 1 _) ?_
    rw [length_flatten_partOctets, hdivision.length_eq]
    rfl
  rw [run_address, hashed_of_parts hfound,
    digests_of_isWellFormed found (hdivision.isWellFormed_iff.mpr hwell)]
  change (composed .setting ((found.map partOctets).map .bytes)).run ⟨Scheme.standard, level⟩ s = _
  rw [run_composed, hcompose]

theorem run_address_of_not_isWellFormed (hill : Text.isWellFormed (c :: t) = false) :
    ∃ run, (SettingKey.address (.text (c :: t))).run ⟨Scheme.standard, level⟩ s =
      ⟨.error (.unencodable run), [], [], s⟩ := by
  obtain ⟨found, hfound, hdivision⟩ := exists_division (c :: t)
  obtain ⟨run, hrun⟩ := digests_of_not_isWellFormed found fun hall => by
    rw [hdivision.isWellFormed_iff.mp hall] at hill
    cases hill
  refine ⟨run, ?_⟩
  rw [run_address, hashed_of_parts hfound, hrun]

end Address

/-- In the standard scheme a setting has an address if its key is a text that is not empty and has
no surrogates.  A surrogate in the key is reported as such, and other values are refused. -/
theorem address_cases {σ : Type} (key : Value) (level : Level) (s : σ) :
    let result := ((SettingKey.address key).run ⟨Scheme.standard, level⟩ s).result
    (∃ t b, key = .text t ∧ t.isWellFormed = true ∧ result = .ok b) ∨
      (∃ t run, key = .text t ∧ t.isWellFormed = false ∧ result = .error (.unencodable run)) ∨
      (¬ (∃ t, key = .text t ∧ t.isWellFormed = false) ∧
        result = .error (.rejected (.notSettingKey key))) := by
  intro result
  have hrun := run_address ⟨Scheme.standard, level⟩ s key
  rcases key with _ | _ | _ | _ | ⟨_ | ⟨c, t⟩⟩ | _ | _ | _ | _
  case text.cons =>
    cases hwell : Text.isWellFormed (c :: t) with
    | true =>
        obtain ⟨found, hfound, hdivision⟩ := exists_division (c :: t)
        exact .inl ⟨c :: t, octets found, rfl, hwell,
          congrArg Outcome.result (run_address_of_parts level s hfound hdivision hwell)⟩
    | false =>
        obtain ⟨run, hrefused⟩ := run_address_of_not_isWellFormed level s hwell
        exact .inr (.inl ⟨c :: t, run, rfl, hwell, congrArg Outcome.result hrefused⟩)
  all_goals
    refine .inr (.inr ⟨?_, congrArg Outcome.result hrun⟩)
    rintro ⟨t, ht, hill⟩
    cases ht
  cases hill

end SettingKey

end StateAddress
