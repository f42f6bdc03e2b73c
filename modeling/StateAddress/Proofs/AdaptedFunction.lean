import StateAddress.Proofs.DigestContents
import StateAddress.Proofs.FailureReport

/-!
# Adapted hash functions

The provider that a hash function is adapted to makes a byte string of each value that the function
returns, where the value stands for one: what holds bytes stands for these, sequences for the bytes
that are their items, tables for those that are their keys, and integers for as many zeros.  So a
derivation ends in the report of a failed provider exactly if the function fails in a way that can
be reported or returns a value that stands for no byte string, and an address is made of the leading
bytes of what the returned values stand for.  That an integer stands for zeros means that not every
value other than a byte string is reported.

## Main definitions

* `Value.StandsFor` : the byte strings that values stand for.
* `HashFunction.answers` : the answers of a hash function to questions in order.

## Main results

* `Provider.hasContent_ofValue_iff` : values are converted to what they stand for.
* `Provider.answers_adapted` : an adapted function is answered for by the values that it returns.
* `Subject.derive_adapted` : what becomes of the values that an adapted function returns.
-/

namespace StateAddress

variable {σ : Type}

/-! ### What values stand for -/

namespace Value

/-- Whether an item of a sequence is the number of a byte. -/
def IsByte (item : Value) (byte : UInt8) : Prop := item.int? = some (byte.toNat : Int)

/-- The byte strings that values *stand for*, with memory for so many zeros: byte strings for
themselves, views for the bytes of their items, sequences for the bytes that are their items, tables
for those that are their keys, and counts and truth values for so many zeros. -/
inductive StandsFor (memory : Nat) : Value → Bytes → Prop
  | octets (kind : OctetKind) (b : Bytes) : StandsFor memory (.octets kind b) b
  | view (w : View) : StandsFor memory (.view w) w.content
  | count {n : Nat} (allocatable : n ≤ memory) (sized : isSize ((n : Int) + 33) = true) :
      StandsFor memory (.int n) (List.replicate n 0)
  | truth (b : Bool) : StandsFor memory (.bool b) (List.replicate (if b then 1 else 0) 0)
  | list {items : List Value} {b : Bytes} (bytes : List.Forall₂ IsByte items b) :
      StandsFor memory (.list items) b
  | tuple {items : List Value} {b : Bytes} (bytes : List.Forall₂ IsByte items b) :
      StandsFor memory (.tuple items) b
  | dict {entries : List (Value × Value)} {b : Bytes}
      (bytes : List.Forall₂ IsByte (entries.map Prod.fst) b) : StandsFor memory (.dict entries) b

theorem bytesOfItems_eq_ok_iff {items : List Value} {b : Bytes} :
    bytesOfItems items = .ok b ↔ List.Forall₂ IsByte items b := by
  induction items generalizing b with
  | nil => rw [bytesOfItems, List.forall₂_nil_left_iff, Except.ok.injEq, eq_comm]
  | cons v rest ih =>
      rw [List.forall₂_cons_left_iff, bytesOfItems]
      constructor
      · intro h
        split at h
        · next n hn =>
            split_ifs at h with hbyte
            obtain ⟨c, hrest, rfl⟩ := exists_of_map_eq_ok h
            refine ⟨_, c, ?_, ih.mp hrest, rfl⟩
            rw [IsByte, hn, UInt8.toNat_ofNat', Option.some.injEq]
            omega
        · cases h
      · rintro ⟨byte, c, hbyte, hrest, rfl⟩
        have hlt := byte.toNat_lt
        rw [show v.int? = some (byte.toNat : Int) from hbyte, ih.mpr hrest]
        simp only
        rw [if_pos (by omega), Int.toNat_natCast, UInt8.ofNat_toNat]
        rfl

theorem exists_misused_of_bytesOfItems {items : List Value} {fault : Fault}
    (h : bytesOfItems items = .error fault) : ∃ reason, fault = .misused reason := by
  induction items with
  | nil => cases h
  | cons v rest ih =>
      rw [bytesOfItems] at h
      split at h
      · split_ifs at h
        · exact ih (eq_error_of_map_eq_error h)
        · cases h
          exact ⟨_, rfl⟩
      · cases h
        exact ⟨_, rfl⟩

end Value

namespace Digest

variable {memory : Nat}

/-- An integer gives zeros exactly if it is a count that there is memory for, and the byte string
of so many is no larger than a size. -/
theorem zeroCount_eq_ok_iff {n : Int} {count : Nat} :
    zeroCount memory n = .ok count ↔
      n = count ∧ count ≤ memory ∧ Value.isSize ((count : Int) + 33) = true := by
  constructor
  · intro h
    rw [zeroCount] at h
    split_ifs at h with _ _ hsize
    cases h
    have hcount : (n.toNat : Int) = n := Int.toNat_of_nonneg (by omega)
    refine ⟨hcount.symm, by omega, ?_⟩
    rw [hcount]
    simpa using hsize
  · rintro ⟨rfl, hmemory, hbytes⟩
    have hsize : Value.isSize (count : Int) = true := by
      simp only [Value.isSize, Bool.and_eq_true, decide_eq_true_eq] at hbytes ⊢
      omega
    rw [zeroCount, hsize, hbytes, if_neg (by simp), if_neg (by omega), if_neg (by simp),
      if_neg (by omega), Int.toNat_natCast]

theorem exists_misused_of_zeroCount {n : Int} {fault : Fault}
    (h : zeroCount memory n = .error fault) : ∃ reason, fault = .misused reason := by
  rw [zeroCount] at h
  split_ifs at h <;> cases h <;> exact ⟨_, rfl⟩

theorem exists_standsFor_of_ofValue {v : Value} {digest : Digest}
    (h : ofValue memory v = .ok digest) :
    ∃ b, digest.toValue = .bytes b ∧ v.StandsFor memory b := by
  cases v with
  | octets kind b =>
      cases h
      exact ⟨b, rfl, .octets kind b⟩
  | view w =>
      cases h
      exact ⟨_, rfl, .view w⟩
  | list items =>
      obtain ⟨b, hb, rfl⟩ := exists_of_map_eq_ok h
      exact ⟨b, rfl, .list (Value.bytesOfItems_eq_ok_iff.mp hb)⟩
  | tuple items =>
      obtain ⟨b, hb, rfl⟩ := exists_of_map_eq_ok h
      exact ⟨b, rfl, .tuple (Value.bytesOfItems_eq_ok_iff.mp hb)⟩
  | dict entries =>
      obtain ⟨b, hb, rfl⟩ := exists_of_map_eq_ok h
      exact ⟨b, rfl, .dict (Value.bytesOfItems_eq_ok_iff.mp hb)⟩
  | int n =>
      obtain ⟨count, hcount, rfl⟩ := exists_of_map_eq_ok h
      obtain ⟨rfl, hmemory, hsized⟩ := zeroCount_eq_ok_iff.mp hcount
      exact ⟨_, rfl, .count hmemory hsized⟩
  | bool b =>
      cases h
      exact ⟨_, rfl, .truth b⟩
  | null | decimal _ | text _ => cases h

theorem exists_ofValue_of_standsFor {v : Value} {b : Bytes} (h : v.StandsFor memory b) :
    ∃ digest, ofValue memory v = .ok digest ∧ digest.toValue = .bytes b := by
  cases h with
  | octets kind b => exact ⟨_, rfl, rfl⟩
  | view w => exact ⟨_, rfl, rfl⟩
  | count allocatable sized =>
      exact ⟨_, by rw [ofValue, zeroCount_eq_ok_iff.mpr ⟨rfl, allocatable, sized⟩]; rfl, rfl⟩
  | truth b => exact ⟨_, rfl, rfl⟩
  | list bytes | tuple bytes | dict bytes =>
      exact ⟨_, by rw [ofValue, Value.bytesOfItems_eq_ok_iff.mpr bytes]; rfl, rfl⟩

/-- A value is converted exactly if it stands for a byte string. -/
theorem exists_ofValue_iff {v : Value} :
    (∃ digest, ofValue memory v = .ok digest) ↔ ∃ b, v.StandsFor memory b := by
  constructor
  · rintro ⟨digest, h⟩
    obtain ⟨b, -, hb⟩ := exists_standsFor_of_ofValue h
    exact ⟨b, hb⟩
  · rintro ⟨b, hb⟩
    obtain ⟨digest, h, -⟩ := exists_ofValue_of_standsFor hb
    exact ⟨digest, h⟩

/-- That a value is not converted does not end the program, and it has a text. -/
theorem isReportable_of_ofValue {v : Value} {fault : Fault}
    (h : ofValue memory v = .error fault) : fault.IsReportable := by
  obtain ⟨reason, rfl⟩ : ∃ reason, fault = .misused reason := by
    cases v with
    | list items | tuple items | dict entries =>
        exact Value.exists_misused_of_bytesOfItems (eq_error_of_map_eq_error h)
    | int n => exact exists_misused_of_zeroCount (eq_error_of_map_eq_error h)
    | octets _ _ | view _ | bool _ => cases h
    | null | decimal _ | text _ =>
        cases h
        exact ⟨_, rfl⟩
  exact ⟨rfl, _, rfl⟩

end Digest

/-! ### Answers of adapted functions -/

/-- The answers of a hash function to questions in order. -/
def HashFunction.answers (f : HashFunction σ) : σ → List Value → List (Except Fault Value)
  | _, [] => []
  | s, data :: rest => (f data s).1 :: answers f (f data s).2 rest

namespace Provider

variable {memory : Nat}

/-- The answers of an adapted function to byte strings are what its own answers are converted to. -/
theorem answers_adapted (f : HashFunction σ) (size name : Value) (bs : List Bytes) (s : σ) :
    (adapted memory f size name).answers s (bs.map .bytes) =
      (f.answers s (bs.map .bytes)).map (·.bind (Digest.ofValue memory)) := by
  induction bs generalizing s with
  | nil => rfl
  | cons b bs ih => exact congrArg (_ :: ·) (ih _)

/-- The content of a converted answer is what the returned value stands for. -/
theorem hasContent_ofValue_iff {answer : Except Fault Value} {b : Bytes} :
    HasContent (answer.bind (Digest.ofValue memory)) b ↔
      ∃ v, answer = .ok v ∧ v.StandsFor memory b := by
  constructor
  · rintro ⟨digest, kind, hdigest, hb⟩
    cases answer with
    | error fault => cases hdigest
    | ok v =>
        obtain ⟨c, hc, hstands⟩ := Digest.exists_standsFor_of_ofValue hdigest
        cases hb.symm.trans hc
        exact ⟨v, rfl, hstands⟩
  · rintro ⟨v, rfl, hstands⟩
    obtain ⟨digest, hdigest, hb⟩ := Digest.exists_ofValue_of_standsFor hstands
    exact ⟨digest, .fixed, hdigest, hb⟩

theorem exists_hasContent_of_ofValue {answer : Except Fault Value} {digest : Digest}
    (h : answer.bind (Digest.ofValue memory) = .ok digest) :
    ∃ b, HasContent (answer.bind (Digest.ofValue memory)) b := by
  cases answer with
  | error fault => cases h
  | ok v =>
      obtain ⟨b, hb, -⟩ := Digest.exists_standsFor_of_ofValue h
      exact ⟨b, digest, .fixed, h, hb⟩

theorem forall₂_hasContent_iff {answers : List (Except Fault Value)} {contents : List Bytes} :
    List.Forall₂ HasContent (answers.map (·.bind (Digest.ofValue memory))) contents ↔
      ∃ values, answers = values.map .ok ∧
        List.Forall₂ (Value.StandsFor memory) values contents := by
  rw [List.forall₂_map_left_iff]
  constructor
  · intro h
    induction h with
    | nil => exact ⟨[], rfl, .nil⟩
    | cons hcontent _ ih =>
        obtain ⟨v, rfl, hstands⟩ := hasContent_ofValue_iff.mp hcontent
        obtain ⟨values, rfl, hvalues⟩ := ih
        exact ⟨v :: values, rfl, .cons hstands hvalues⟩
  · rintro ⟨values, rfl, hvalues⟩
    rw [List.forall₂_map_left_iff]
    exact hvalues.imp fun v b hstands => hasContent_ofValue_iff.mpr ⟨v, rfl, hstands⟩

variable (memory) in
/-- Whether a hash function has failed in a way that can be reported, or has returned a value that
stands for no byte string. -/
def IsUnusable (answer : Except Fault Value) : Prop :=
  (∃ fault, answer = .error fault ∧ fault.IsReportable) ∨
    ∃ v, answer = .ok v ∧ ¬ ∃ b, v.StandsFor memory b

/-- A converted answer is a failure that can be reported exactly if the answer is not usable. -/
theorem exists_error_iff_isUnusable {answer : Except Fault Value} :
    (∃ fault, answer.bind (Digest.ofValue memory) = .error fault ∧ fault.IsReportable) ↔
      IsUnusable memory answer := by
  constructor
  · rintro ⟨fault, hfault, hreportable⟩
    cases answer with
    | error other =>
        cases hfault
        exact .inl ⟨fault, rfl, hreportable⟩
    | ok v =>
        refine .inr ⟨v, rfl, fun hstands => ?_⟩
        obtain ⟨digest, hdigest⟩ := Digest.exists_ofValue_iff.mpr hstands
        cases hdigest.symm.trans hfault
  · rintro (⟨fault, rfl, hreportable⟩ | ⟨v, rfl, hstands⟩)
    · exact ⟨fault, rfl, hreportable⟩
    · cases hv : Digest.ofValue memory v with
      | ok digest => exact absurd (Digest.exists_ofValue_iff.mp ⟨digest, hv⟩) hstands
      | error fault => exact ⟨fault, hv, Digest.isReportable_of_ofValue hv⟩

theorem exists_error_mem_iff {answers : List (Except Fault Value)} :
    (∃ fault, .error fault ∈ answers.map (·.bind (Digest.ofValue memory)) ∧ fault.IsReportable) ↔
      ∃ answer ∈ answers, IsUnusable memory answer := by
  constructor
  · rintro ⟨fault, hmem, hreportable⟩
    obtain ⟨answer, hanswer, hfault⟩ := List.mem_map.mp hmem
    exact ⟨answer, hanswer, exists_error_iff_isUnusable.mp ⟨fault, hfault, hreportable⟩⟩
  · rintro ⟨answer, hanswer, hunusable⟩
    obtain ⟨fault, hfault, hreportable⟩ := exists_error_iff_isUnusable.mpr hunusable
    exact ⟨fault, List.mem_map.mpr ⟨answer, hanswer, hfault⟩, hreportable⟩

end Provider

/-! ### Derivations with adapted functions -/

namespace Subject

/-- **What becomes of the values that an adapted function returns.**  In the standard scheme and
with any memory, a derivation with an adapted hash function ends in the report of a failed provider
exactly if the function has failed in a way that can be reported, or has returned a value that
stands for no byte string.  An address is made of the tag and the leading bytes of what the returned
values stand for.  If all returned values stand for byte strings and the identifiers are acceptable,
then there is such an address, unless one of the byte strings is too short. -/
theorem derive_adapted (memory : Nat) (f : HashFunction σ) (size name : Value) (subject : Subject)
    (level : Level) (s : σ) :
    let outcome := (subject.derive (.adapted memory f size name)).run ⟨Scheme.standard, level⟩ s
    let answers := f.answers s outcome.asked
    (outcome.FailsWith .failedHash ↔ ∃ answer ∈ answers, Provider.IsUnusable memory answer) ∧
    (∀ a, outcome.result = .ok a → ∃ values contents, answers = values.map .ok ∧
      List.Forall₂ (Value.StandsFor memory) values contents ∧
      contents.length = (subject.slices Scheme.standard).length ∧
      a = subject.entity.tag ++ Slice.leads (subject.slices Scheme.standard) contents) ∧
    ∀ values contents, subject.IsAcceptable → answers = values.map .ok →
      List.Forall₂ (Value.StandsFor memory) values contents →
        (∃ a, outcome.result = .ok a) ∨
          ∃ content ∈ contents, ∃ slice ∈ subject.slices Scheme.standard,
            content.length < slice.portion.standardLength ∧
            outcome.result = .error (.unfit (.digestTooShort content.length
              (.int slice.portion.standardLength))) := by
  intro outcome answers
  obtain ⟨bs, hasked, -⟩ := subject.exists_payloads_of_asked (.adapted memory f size name) level s
    Scheme.standard
  have hanswers : (Provider.adapted memory f size name).answers s outcome.asked =
      answers.map (·.bind (Digest.ofValue memory)) := by
    change (Provider.adapted memory f size name).answers s outcome.asked =
      (f.answers s outcome.asked).map _
    rw [show outcome.asked = _ from hasked, Provider.answers_adapted]
  refine ⟨?_, fun a ha => ?_, fun values contents hacceptable hvalues hstands => ?_⟩
  · refine (failsWith_failedHash_iff (.adapted memory f size name) s subject level).trans ?_
    rw [hanswers]
    exact Provider.exists_error_mem_iff
  · have hbytes : ∀ answer ∈ (Provider.adapted memory f size name).answers s outcome.asked,
        ∀ digest, answer = .ok digest → ∃ content, Provider.HasContent answer content := by
      intro answer hanswer digest hdigest
      rw [hanswers] at hanswer
      obtain ⟨given, -, rfl⟩ := List.mem_map.mp hanswer
      exact Provider.exists_hasContent_of_ofValue hdigest
    obtain ⟨contents, hcontents, hlength, haddress⟩ :=
      exists_contents _ subject level s hbytes ha
    rw [hanswers, Provider.forall₂_hasContent_iff] at hcontents
    obtain ⟨values, hvalues, hstands⟩ := hcontents
    exact ⟨values, contents, hvalues, hstands, hlength, haddress⟩
  · have hcontents := Provider.forall₂_hasContent_iff.mpr ⟨values, hvalues, hstands⟩
    rw [← hanswers] at hcontents
    rcases result_of_contents _ subject level s hacceptable hcontents with ⟨-, haddress⟩ | hshort
    · exact .inl ⟨_, haddress⟩
    · exact .inr hshort

/-- A function that returns a table with bytes for keys at its first call and a text at all others:
the table stands for its keys, and with the text a smart permission has no address. -/
theorem derive_adapted_of_table :
    let table : Value := .dict ((List.range 32).map fun n => (.int n, .null))
    let f : HashFunction Nat := fun _ calls =>
      (.ok (if calls = 0 then table else .ofString "text"), calls + 1)
    let outcome (subject : Subject) :=
      (subject.derive (.adapted 0 f (.int 32) (.ofString "callable"))).run ⟨Scheme.standard, 0⟩ 0
    (∃ a, (outcome (organization (.ofString "o"))).result = .ok a) ∧
      (outcome (smartPermission (.ofString "o") (.ofString "n"))).FailsWith .failedHash := by
  intro table f outcome
  obtain ⟨-, -, haddress⟩ :=
    derive_adapted 0 f (.int 32) (.ofString "callable") (organization (.ofString "o")) 0 0
  obtain ⟨hfailed, -⟩ := derive_adapted 0 f (.int 32) (.ofString "callable")
    (smartPermission (.ofString "o") (.ofString "n")) 0 0
  refine ⟨?_, hfailed.mpr ⟨.ok (.ofString "text"), .tail _ (.head _), .inr ⟨_, rfl, ?_⟩⟩⟩
  · have hstands : table.StandsFor 0 ((List.range 32).map UInt8.ofNat) :=
      .dict (Value.bytesOfItems_eq_ok_iff.mp rfl)
    rcases haddress [_] [_] rfl rfl (.cons hstands .nil) with
      ha | ⟨content, hmem, slice, -, hlt, -⟩
    · exact ha
    · have hle := slice.portion.standardLength_le
      rw [List.mem_singleton.mp hmem, List.length_map, List.length_range] at hlt
      omega
  · rintro ⟨b, hstands⟩
    cases hstands

/-- Not every derivation with a function that returns nothing that holds bytes ends in the report of
a failed provider: the integer 64 gives an address of zeros. -/
theorem not_forall_failsWith_of_adapted :
    ¬ ∀ (memory : Nat) (f : HashFunction Unit) (size name : Value) (subject : Subject)
        (level : Level) (s : Unit), subject.IsAcceptable →
      (∀ data t, ∃ v t', f data t = (.ok v, t') ∧ v.content? = none) →
        ((subject.derive (.adapted memory f size name)).run ⟨Scheme.standard, level⟩ s).FailsWith
          .failedHash := by
  intro h
  obtain ⟨fault, hfault, -⟩ := h 64 (fun _ s => (.ok (.int 64), s)) (.int 64)
    (.ofString "callable") (organization (.ofString "org_01")) 0 () rfl
    (fun _ t => ⟨.int 64, t, rfl, rfl⟩)
  cases hfault

end Subject

end StateAddress
