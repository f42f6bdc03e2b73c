import StateAddress.Proofs.SettingKey
import StateAddress.Session

/-!
# Keys of settings with the same parts

In the standard scheme the four parts of a key determine it up to dots at its end, and nothing else
is lost: two keys have the same parts exactly if they are equal, or if one of them is the other one
followed by dots and has at most three dots.  Such keys share the address, whatever else is going on
in the session that it is derived in.

## Main definitions

* `SettingKey.AddsDots` : a key followed by dots, which has at most three dots.
* `SettingKey.IsAlias` : keys that are the same up to such dots.

## Main results

* `SettingKey.eq_of_intercalate_eq` : parts without dots are determined by what they join to.
* `SettingKey.filledUp_eq_iff` : when two keys are the same once they are filled up.
* `SettingKey.settings_alias_iff` : the address of a setting, and the keys that share it.
-/

namespace StateAddress

namespace SettingKey

/-! ### A key has one division -/

theorem append_dot_inj {part part' rest rest' : Text} (hpart : dot ∉ part) (hpart' : dot ∉ part')
    (h : part ++ dot :: rest = part' ++ dot :: rest') : part = part' ∧ rest = rest' := by
  rcases List.append_eq_append_iff.mp h with ⟨between, rfl, hrest⟩ | ⟨between, rfl, hrest⟩
  -- If one of the two were longer than the other one, its next code point would be a dot.
  · rcases between with _ | ⟨c, between⟩
    · exact ⟨(List.append_nil part).symm, (List.cons.inj hrest).2⟩
    · obtain ⟨rfl, -⟩ := List.cons.inj hrest
      exact absurd (List.mem_append_right part List.mem_cons_self) hpart'
  · rcases between with _ | ⟨c, between⟩
    · exact ⟨List.append_nil part', (List.cons.inj hrest).2.symm⟩
    · obtain ⟨rfl, -⟩ := List.cons.inj hrest
      exact absurd (List.mem_append_right part' List.mem_cons_self) hpart

/-- Parts of which all but the last hold no dot are determined by what they join to. -/
theorem eq_of_intercalate_eq {cuts : Nat} {found found' : List Text}
    (hlength : found.length = cuts + 1) (hlength' : found'.length = cuts + 1)
    (hdotless : ∀ part ∈ found.take cuts, dot ∉ part)
    (hdotless' : ∀ part ∈ found'.take cuts, dot ∉ part)
    (h : List.intercalate [dot] found = List.intercalate [dot] found') : found = found' := by
  induction cuts generalizing found found' with
  | zero =>
      obtain ⟨part, rfl⟩ := List.length_eq_one_iff.mp hlength
      obtain ⟨part', rfl⟩ := List.length_eq_one_iff.mp hlength'
      rw [List.intercalate_singleton, List.intercalate_singleton] at h
      rw [h]
  | succ cuts ih =>
      rcases found with _ | ⟨part, _ | ⟨next, rest⟩⟩
      · cases hlength
      · cases hlength
      rcases found' with _ | ⟨part', _ | ⟨next', rest'⟩⟩
      · cases hlength'
      · cases hlength'
      rw [List.take_succ_cons, List.forall_mem_cons] at hdotless hdotless'
      rw [List.intercalate_cons_cons, List.intercalate_cons_cons, List.append_assoc,
        List.append_assoc] at h
      obtain ⟨rfl, hrest⟩ := append_dot_inj hdotless.1 hdotless'.1 h
      rw [ih (Nat.succ.inj hlength) (Nat.succ.inj hlength') hdotless.2 hdotless'.2 hrest]

theorem IsDivision.eq_of_filledUp_eq {t u : Text} {found found' : List Text}
    (h : IsDivision t found) (h' : IsDivision u found') (hfill : filledUp t = filledUp u) :
    found = found' :=
  eq_of_intercalate_eq h.length_eq h'.length_eq h.dotless h'.dotless
    (h.joined.trans (hfill.trans h'.joined.symm))

/-! ### Keys that are filled up alike -/

/-- Whether a text is a key followed by dots, and has at most three dots. -/
def AddsDots (t longer : Text) : Prop :=
  ∃ n, longer = t ++ List.replicate n dot ∧ longer.count dot ≤ 3

/-- Whether two keys are *aliases*: they are equal, or one of them is the other one followed by dots
and has at most three dots. -/
def IsAlias (t u : Text) : Prop := t = u ∨ AddsDots t u ∨ AddsDots u t

variable {t u : Text}

theorem count_append_dots (t : Text) (n : Nat) :
    (t ++ List.replicate n dot).count dot = t.count dot + n := by
  rw [List.count_append, List.count_replicate_self]

theorem AddsDots.filledUp_eq (h : AddsDots t u) : filledUp t = filledUp u := by
  obtain ⟨n, rfl, hcount⟩ := h
  rw [count_append_dots] at hcount
  rw [filledUp, filledUp, count_append_dots, List.append_assoc, List.replicate_append_replicate]
  congr 2
  omega

/-- Of two keys that are filled up alike, the one that is filled up with more dots is the other one
without dots at its end. -/
theorem eq_or_addsDots_of_filledUp_eq (h : filledUp t = filledUp u)
    (hle : 3 - u.count dot ≤ 3 - t.count dot) : t = u ∨ AddsDots t u := by
  obtain ⟨n, hn⟩ := Nat.exists_eq_add_of_le hle
  rw [filledUp, filledUp, hn, Nat.add_comm, ← List.replicate_append_replicate,
    ← List.append_assoc] at h
  have hlonger : u = t ++ List.replicate n dot := (List.append_cancel_right h).symm
  have hcount : u.count dot = t.count dot + n := by rw [hlonger, count_append_dots]
  by_cases hdots : 3 ≤ t.count dot
  · obtain rfl : n = 0 := by omega
    exact .inl (by rw [hlonger, List.replicate_zero, List.append_nil])
  · exact .inr ⟨n, hlonger, by omega⟩

/-- Two keys are filled up alike exactly if they are aliases. -/
theorem filledUp_eq_iff : filledUp t = filledUp u ↔ IsAlias t u := by
  constructor
  · intro h
    rcases Nat.le_total (3 - u.count dot) (3 - t.count dot) with hle | hle
    · rcases eq_or_addsDots_of_filledUp_eq h hle with heq | hadds
      · exact .inl heq
      · exact .inr (.inl hadds)
    · rcases eq_or_addsDots_of_filledUp_eq h.symm hle with heq | hadds
      · exact .inl heq.symm
      · exact .inr (.inr hadds)
  · rintro (rfl | hadds | hadds)
    · rfl
    · exact hadds.filledUp_eq
    · exact hadds.filledUp_eq.symm

/-- In the standard scheme two keys have the same parts exactly if they are aliases. -/
theorem parts_eq_iff (t u : Text) :
    parts (Scheme.standard .settingParts) t = parts (Scheme.standard .settingParts) u ↔
      IsAlias t u := by
  obtain ⟨found, hfound, hdivision⟩ := exists_division t
  obtain ⟨found', hfound', hdivision'⟩ := exists_division u
  rw [hfound, hfound', Except.ok.injEq, ← filledUp_eq_iff]
  refine ⟨fun h => ?_, hdivision.eq_of_filledUp_eq hdivision'⟩
  rw [← hdivision.joined, h, hdivision'.joined]

/-! ### Addresses in a session -/

section Session

variable {σ : Type}

/-- In a session in the standard scheme, the address of a setting whose key has no surrogates is
composed of the bytes of its parts, and the session is left as it was. -/
theorem perform_setting_of_parts (level : Level) {session : Session σ}
    (hscheme : session.scheme = Scheme.standard) {found : List Text}
    (hfound : parts (Scheme.standard .settingParts) t = .ok found) (hdivision : IsDivision t found)
    (hne : t ≠ []) (hwell : t.isWellFormed = true) :
    ∃ events, session.perform level (.setting (.text t)) =
      (⟨.ok (.value (.bytes (octets found))), [], events, session.state⟩, session) := by
  obtain ⟨scheme, deriver, state⟩ := session
  obtain rfl : scheme = Scheme.standard := hscheme
  rcases t with _ | ⟨c, t⟩
  · exact absurd rfl hne
  · rw [Session.perform, Session.operate, run_address_of_parts level state hfound hdivision hwell]
    exact ⟨_, rfl⟩

end Session

/-- **Keys of settings share an address up to dots at the end.**  In the standard scheme each key
that is not empty and has no surrogates has one division, by which it is hashed: in every session,
whatever deriver is in use there and whatever has been done before, its address is composed of the
bytes of these four parts, no provider is asked, and the session is left as it was.  Two keys have
the same division exactly if they are aliases, and then they have the same address. -/
theorem settings_alias_iff (level : Level) :
    (∀ t : Text, t ≠ [] → t.isWellFormed = true →
      ∃ found, parts (Scheme.standard .settingParts) t = .ok found ∧
        (∀ division, IsDivision t division ↔ division = found) ∧
        (∀ part ∈ found, part.isWellFormed = true) ∧
        ∀ (σ : Type) (session : Session σ), session.scheme = Scheme.standard → ∃ events,
          session.perform level (.setting (.text t)) =
            (⟨.ok (.value (.bytes (octets found))), [], events, session.state⟩, session)) ∧
    ∀ t u : Text, t ≠ [] → t.isWellFormed = true → u ≠ [] → u.isWellFormed = true →
      (parts (Scheme.standard .settingParts) t = parts (Scheme.standard .settingParts) u ↔
        IsAlias t u) ∧
      (IsAlias t u → ∀ (σ τ : Type) (session : Session σ) (other : Session τ),
        session.scheme = Scheme.standard → other.scheme = Scheme.standard →
          (session.perform level (.setting (.text t))).1.result =
            (other.perform level (.setting (.text u))).1.result) := by
  refine ⟨fun t hne hwell => ?_, fun t u hne hwell hne' hwell' =>
    ⟨parts_eq_iff t u, fun halias σ τ session other hscheme hscheme' => ?_⟩⟩
  · obtain ⟨found, hfound, hdivision⟩ := exists_division t
    refine ⟨found, hfound, fun division => ⟨fun h => h.eq_of_filledUp_eq hdivision rfl, ?_⟩,
      hdivision.isWellFormed_iff.mpr hwell, fun σ session hscheme =>
        perform_setting_of_parts level hscheme hfound hdivision hne hwell⟩
    rintro rfl
    exact hdivision
  · obtain ⟨found, hfound, hdivision⟩ := exists_division t
    obtain ⟨found', hfound', hdivision'⟩ := exists_division u
    obtain rfl : found = found' :=
      hdivision.eq_of_filledUp_eq hdivision' (filledUp_eq_iff.mpr halias)
    obtain ⟨events, hperform⟩ :=
      perform_setting_of_parts level hscheme hfound hdivision hne hwell
    obtain ⟨events', hperform'⟩ :=
      perform_setting_of_parts level hscheme' hfound' hdivision' hne' hwell'
    rw [hperform, hperform']

/-- Two dots after `a.b` take the places of the two parts that it lacks.  The address is the same
also in a session whose provider would fail. -/
theorem settings_alias_iff_of_trailing_dots :
    let session : Session Nat := ⟨Scheme.standard, some ⟨.counting 32 [1]⟩, 0⟩
    let other : Session Unit := ⟨Scheme.standard, none, ()⟩
    IsDivision "a.b.." ["a", "b", "", ""] ∧
      (session.perform 0 (.setting (.ofString "a.b.."))).1.asked = [] ∧
      parts (Scheme.standard .settingParts) "a.b" = parts (Scheme.standard .settingParts) "a.b.." ∧
      (session.perform 0 (.setting (.ofString "a.b"))).1.result =
        (other.perform 0 (.setting (.ofString "a.b.."))).1.result := by
  intro session other
  obtain ⟨hkeys, hpairs⟩ := settings_alias_iff 0
  obtain ⟨found, hfound, hdivision, -, haddress⟩ := hkeys "a.b.." (by decide) rfl
  obtain ⟨hsame, hshared⟩ := hpairs "a.b" "a.b.." (by decide) rfl (by decide) rfl
  have halias : IsAlias "a.b" "a.b.." := .inr (.inl ⟨2, rfl, by decide⟩)
  obtain ⟨events, hperform⟩ := haddress Nat session rfl
  exact ⟨(hdivision _).mpr (Except.ok.inj hfound), congrArg (·.1.asked) hperform, hsame.mpr halias,
    hshared halias Nat Unit session other rfl rfl⟩

end SettingKey

end StateAddress
