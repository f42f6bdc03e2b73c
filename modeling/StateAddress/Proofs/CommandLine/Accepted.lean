import StateAddress.CommandLine.Invocation

/-!
# Accepted command lines

A command line that is accepted asks for a request on a topic, with a value for each of its fields
and with one of the known hash providers.  Only where the provider is written as the separator,
behind an equals sign, nothing is left of it.  Words are read from left to right, so that this is
an invariant of the options and of the fields seen so far.

## Main definitions

* `Options.IsKnown` : options with a hash provider that is known, or with nothing of one.
* `Request.IsWritten` : the requests of command lines.

## Main results

* `Fields.length_of_fill` : the fields that are filled have a value for each name.
* `Options.isKnown_of_attach`, `Options.isKnown_of_switch` : options stay known.
* `Invocation.isWritten_of_parse` : what an accepted command line asks for.
-/

namespace StateAddress

/-! ### Results -/

section Results

variable {ε α : Type}

theorem ne_error_of_eq_ok {x : Except ε α} {a : α} (h : x = .ok a) {e : ε} : x ≠ .error e := by
  rw [h]
  exact fun he => nomatch he

end Results

/-! ### Fields -/

/-- The fields that are filled have a value for each name. -/
theorem Fields.length_of_fill (topic : Topic) (names : List String)
    (readings : List (Text × Reading)) {f : Fields} (h : fill topic names readings = .ok f) :
    f.values.length = names.length := by
  fun_induction fill topic names readings generalizing f with
  | case1 names hempty =>
      cases h
      rw [List.isEmpty_iff.mp hempty]
      rfl
  | case2 => cases h
  | case4 => cases h
  -- A word that is left over adds no value.
  | case3 _ _ _ ih | case5 _ _ _ _ _ ih | case9 _ _ _ _ _ ih =>
      obtain ⟨g, hg, rfl⟩ := exists_of_map_eq_ok h
      exact ih (f := g) hg
  -- An operand adds a value, and a name is no longer open.
  | case6 _ _ _ _ _ ih | case7 _ _ _ _ _ ih | case8 _ _ _ _ _ ih =>
      obtain ⟨g, hg, rfl⟩ := exists_of_map_eq_ok h
      exact congrArg (· + 1) (ih hg)

/-! ### Options -/

namespace Options

/-- Options with a hash provider that is known, or with nothing of one. -/
def IsKnown (o : Options) : Prop :=
  (∃ b : Provider.Builtin, o.provider = .ofString b.name) ∨ o.provider = .list []

theorem isKnown_standard : standard.IsKnown := .inl ⟨.sha512, rfl⟩

variable {o o' : Options}

theorem provider_of_switch (flags : List Flag) (h : switch flags o = .ok o') :
    o'.provider = o.provider := by
  fun_induction switch flags o with
  | case1 o =>
      cases h
      rfl
  | case2 rest o ih => exact ih h
  | case3 => cases h
  | case4 => cases h

theorem isKnown_of_switch {flags : List Flag} (ho : o.IsKnown) (h : switch flags o = .ok o') :
    o'.IsKnown := by
  rwa [IsKnown, provider_of_switch flags h]

theorem isKnown_of_choose {name : Text} (h : choose name o = .ok o') : o'.IsKnown := by
  rw [choose] at h
  split at h
  · next hname =>
      cases h
      obtain ⟨known, hknown, hsame⟩ := List.any_eq_true.mp hname
      rw [← of_decide_eq_true hsame]
      simp only [Provider.Builtin.names, List.mem_cons, List.not_mem_nil, or_false] at hknown
      rcases hknown with rfl | rfl
      · exact .inl ⟨.pycryptodome, rfl⟩
      · exact .inl ⟨.sha512, rfl⟩
  · cases h

theorem isKnown_of_attach {f : Flag} {name value : Text} (ho : o.IsKnown)
    (h : attach f name value o = .ok o') : o'.IsKnown := by
  rw [attach] at h
  split at h
  · rw [chooseAttached] at h
    split at h
    · cases h
      exact .inr rfl
    · exact isKnown_of_choose h
  · split at h
    · exact isKnown_of_switch ho h
    · cases h

end Options

/-! ### Invocations -/

/-- The requests of command lines: on a topic, with a hash provider that is known or with nothing of
one, and with a value for each field. -/
inductive Request.IsWritten : Request → Prop
  | onTopic (topic : Topic) {o : Options} {values : List Value} (known : o.IsKnown)
      (length : values.length = topic.fields.length) :
      IsWritten (ofTopic topic o.provider values)

namespace Invocation

variable {inv : Invocation}

theorem isWritten_of_onTopic {o : Options} (ho : o.IsKnown) {name : Text} {rest : List Text}
    (h : onTopic o name rest = .ok inv) : inv.request.IsWritten := by
  rw [onTopic] at h
  split at h
  · cases h
  · split at h
    · cases h
    · obtain ⟨f, hf, h⟩ := exists_of_bind_eq_ok h
      dsimp only at h
      split at h
      · cases h
        exact .onTopic _ ho (Fields.length_of_fill _ _ _ hf)
      · cases h

/-- From options with a known hash provider, the request is one of a command line. -/
theorem isWritten_of_ofReadings (readings : List (Text × Reading)) (o : Options) (ho : o.IsKnown)
    (h : ofReadings readings o = .ok inv) : inv.request.IsWritten := by
  fun_induction ofReadings readings o with
  | case1 => cases h
  | case2 => exact isWritten_of_onTopic ho h
  | case3 => cases h
  | case4 => exact isWritten_of_onTopic ho h
  | case5 w rest o ih => exact ih ho h
  | case6 _ f name value rest o ih =>
      obtain ⟨o', ho', h⟩ := exists_of_bind_eq_ok h
      exact ih o' (Options.isKnown_of_attach ho ho') h
  | case7 _ _ w rest o ih =>
      obtain ⟨o', ho', h⟩ := exists_of_bind_eq_ok h
      exact ih o' (Options.isKnown_of_choose ho') h
  | case8 _ f _ rest o _ ih =>
      obtain ⟨o', ho', h⟩ := exists_of_bind_eq_ok h
      exact ih o' (Options.isKnown_of_switch ho ho') h

/-- What an accepted command line asks for. -/
theorem isWritten_of_parse {ws : List Text} (h : parse ws = .ok inv) : inv.request.IsWritten := by
  rw [parse] at h
  split at h
  · cases h
  · exact isWritten_of_ofReadings _ _ Options.isKnown_standard h

end Invocation

end StateAddress
