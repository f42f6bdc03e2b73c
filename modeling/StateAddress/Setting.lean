import StateAddress.Derivation

/-!
# Addresses of settings

The key of a setting is cut at its dots into as many parts as the scheme says, the last part
keeping the dots that are left; missing parts are empty.  The address is made of the leading
bytes of each part's SHA-256 digest, whatever hash provider is in use.

## Main definitions

* `SettingKey.parts` : the parts of a key.
* `SettingKey.address` : the address of a setting.

## Main results

* `SettingKey.intercalate_split` : the parts of a text, with dots between them, make it up.
* `SettingKey.not_mem_of_mem_split` : no part holds a dot.
-/

namespace StateAddress

namespace SettingKey

/-- The dot. -/
def dot : CodePoint := .scalar '.'

/-! ### Parts of a key -/

/-- One code point in front of the parts of what follows it. -/
def prepend (p : CodePoint) (parts : List Text) : List Text :=
  if p = dot then [] :: parts
  else match parts with
    | [] => [[p]]
    | first :: rest => (p :: first) :: rest

/-- The parts of a text between its dots. -/
def split (t : Text) : List Text := t.foldr prepend [[]]

/-- The first parts of a text, at most `cuts` of them, and all that is left as one part. -/
def limit (cuts : Nat) (parts : List Text) : List Text :=
  if parts.length ≤ cuts + 1 then parts
  else parts.take cuts ++ [List.intercalate [dot] (parts.drop cuts)]

/-- The number of cuts that a scheme allows.  A negative number stands for any number. -/
def cuts (count : Value) : Except Fault Int :=
  match count, count.int? with
  | _, some n =>
      if Value.isSize (n - 1) then .ok (n - 1) else .error (.misused .oversizedLimit)
  | .decimal _, none => .error (.misused (.notInteger count.typeName))
  | _, none => .error (.misused (.notSubtractable count.typeName (Value.int 1).typeName))

/-- A number of parts that is too large for a sequence, whose items take eight bytes each. -/
def countLimit : Int := 0x1000000000000000

/-- Parts filled up with empty ones to a number of them. -/
def fillUp (count : Int) (found : List Text) : Except Fault (List Text) :=
  if countLimit ≤ count - found.length then .error (.misused .unallocatable)
  else .ok (found ++ List.replicate (count - found.length).toNat [])

/-- The parts of a key, filled up with empty ones. -/
def parts (count : Value) (key : Text) : Except Fault (List Text) :=
  (cuts count).bind fun n =>
    fillUp (n + 1) (if n < 0 then split key else limit n.toNat (split key))

/-! ### The address -/

/-- The leading bytes of the digest of a part. -/
def partDigest (bound : Value) (part : Text) : Except Fault Value :=
  ((Utf8.encode part).mapError .unencodable).bind fun b => (Value.bytes (sha256 b)).leading bound

/-- The digests of several parts, in order. -/
def digests (bound : Value) : List Text → Except Fault (List Value)
  | [] => .ok []
  | part :: rest => do
      let first ← partDigest bound part
      let others ← digests bound rest
      return first :: others

/-- The key in a value, which is a text and not empty. -/
def key (given : Value) : Except Fault Text :=
  match given with
  | .text (p :: t) => .ok (p :: t)
  | _ => .error (.rejected (.notSettingKey given))

/-- The digests of the parts of a key under a scheme. -/
def hashed (s : Scheme) (given : Value) : Except Fault (List Value) := do
  let t ← key given
  let found ← parts (s .settingParts) t
  digests (s .settingPartLength) found

/-- The address of a setting. -/
def address {σ : Type} (given : Value) : Operation σ Bytes := do
  let s ← Operation.scheme
  let found ← Operation.ofExcept (hashed s given)
  composed .setting found

/-! ### Properties of the parts -/

theorem split_ne_nil (t : Text) : split t ≠ [] := by
  cases t with
  | nil => simp [split]
  | cons p t =>
      simp only [split, List.foldr_cons, prepend]
      split
      · simp
      · split <;> simp

theorem intercalate_prepend (p : CodePoint) {parts : List Text} (h : parts ≠ []) :
    List.intercalate [dot] (prepend p parts) = p :: List.intercalate [dot] parts := by
  cases parts with
  | nil => exact absurd rfl h
  | cons first rest =>
      rw [prepend]
      split
      · next hp => simp [hp, List.intercalate]
      · cases rest <;> simp [List.intercalate]

/-- The parts of a text, with dots between them, make it up. -/
theorem intercalate_split (t : Text) : List.intercalate [dot] (split t) = t := by
  induction t with
  | nil => simp [split, List.intercalate]
  | cons p t ih =>
      have hcons : split (p :: t) = prepend p (split t) := rfl
      rw [hcons, intercalate_prepend p (split_ne_nil t), ih]

/-- No part holds a dot. -/
theorem not_mem_of_mem_split {t part : Text} (h : part ∈ split t) : dot ∉ part := by
  induction t generalizing part with
  | nil =>
      simp only [split, List.foldr_nil, List.mem_singleton] at h
      simp [h]
  | cons p t ih =>
      have hcons : split (p :: t) = prepend p (split t) := rfl
      rw [hcons] at h
      simp only [prepend] at h
      split at h
      · rcases List.mem_cons.1 h with rfl | h
        · simp
        · exact ih h
      · next hp =>
          split at h
          · simp only [List.mem_singleton] at h
            subst h
            simpa using fun hd => hp hd.symm
          · next first rest hs =>
              rcases List.mem_cons.1 h with rfl | h
              · have hfirst : dot ∉ first := ih (by rw [hs]; exact List.mem_cons_self)
                simpa [hfirst] using fun hd => hp hd.symm
              · exact ih (by rw [hs]; exact List.mem_cons_of_mem _ h)

end SettingKey

end StateAddress
