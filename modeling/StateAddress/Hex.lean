import StateAddress.Fault

/-!
# Hexadecimal forms

A byte string is written as two digits for each byte, in lower case.  Reading accepts both
cases, and exactly the texts of an even number of digits.

## Main definitions

* `Hex.encode` : the digits of a byte string.
* `Hex.digitValue?` : the number of a digit.
* `Hex.decode` : the byte string of a hexadecimal text, or why it is none.
* `Hex.ofValue` : the same for any value.

## Main results

* `Hex.decode_encode` : reading undoes writing.
-/

namespace StateAddress

namespace Hex

/-! ### Digits -/

/-- The number of a digit in either case. -/
def charValue? (c : Char) : Option Nat :=
  if '0' ≤ c ∧ c ≤ '9' then some (c.toNat - '0'.toNat)
  else if 'a' ≤ c ∧ c ≤ 'f' then some (c.toNat - 'a'.toNat + 10)
  else if 'A' ≤ c ∧ c ≤ 'F' then some (c.toNat - 'A'.toNat + 10)
  else none

/-- The number of a code point that is a digit. -/
def digitValue? : CodePoint → Option Nat
  | .scalar c => charValue? c
  | .surrogate _ => none

/-- Whether a code point is a digit. -/
def isDigit (p : CodePoint) : Bool := (digitValue? p).isSome

/-- The number of a digit; what is no digit counts as zero. -/
def digitValue (p : CodePoint) : Nat := (digitValue? p).getD 0

/-! ### Writing -/

/-- The two digits of a byte. -/
def encodeByte (b : UInt8) : Text :=
  [.scalar (Text.hexDigit (b.toNat / 16)), .scalar (Text.hexDigit (b.toNat % 16))]

/-- The digits of a byte string. -/
def encode (b : Bytes) : Text := b.flatMap encodeByte

@[simp] theorem encode_nil : encode [] = [] := rfl

theorem encode_cons (x : UInt8) (b : Bytes) :
    encode (x :: b) =
      .scalar (Text.hexDigit (x.toNat / 16)) :: .scalar (Text.hexDigit (x.toNat % 16)) ::
        encode b := by
  simp [encode, encodeByte]

@[simp] theorem length_encode (b : Bytes) : (encode b).length = 2 * b.length := by
  induction b with
  | nil => rfl
  | cons x b ih =>
      simp only [encode_cons, List.length_cons, ih]
      omega

/-! ### Reading -/

/-- The bytes of pairs of digits. -/
def pairs : Text → Bytes
  | high :: low :: rest => UInt8.ofNat (16 * digitValue high + digitValue low) :: pairs rest
  | _ => []

/-- The byte string of a hexadecimal text.  An odd number of digits is reported first. -/
def decode (t : Text) : Except Rejection Bytes :=
  if t.length % 2 ≠ 0 then .error (.oddHexDigits t)
  else if t.all isDigit then .ok (pairs t)
  else .error (.notHexDigits t)

/-! ### Round trip -/

theorem digitValue?_hexDigit : (n : Nat) → n < 16 →
    digitValue? (.scalar (Text.hexDigit n)) = some n
  | 0, _ | 1, _ | 2, _ | 3, _ | 4, _ | 5, _ | 6, _ | 7, _ | 8, _ | 9, _ | 10, _ | 11, _
  | 12, _ | 13, _ | 14, _ | 15, _ => by decide
  | n + 16, h => by omega

theorem all_isDigit_encode (b : Bytes) : (encode b).all isDigit = true := by
  induction b with
  | nil => rfl
  | cons x b ih =>
      have hx := x.toNat_lt
      simp [encode_cons, ih, isDigit, digitValue?_hexDigit (x.toNat / 16) (by omega),
        digitValue?_hexDigit (x.toNat % 16) (by omega)]

theorem pairs_encode (b : Bytes) : pairs (encode b) = b := by
  induction b with
  | nil => rfl
  | cons x b ih =>
      have hx := x.toNat_lt
      have hsum : 16 * (x.toNat / 16) + x.toNat % 16 = x.toNat := by omega
      simp [encode_cons, pairs, ih, digitValue, digitValue?_hexDigit (x.toNat / 16) (by omega),
        digitValue?_hexDigit (x.toNat % 16) (by omega), hsum]

/-- Reading undoes writing. -/
theorem decode_encode (b : Bytes) : decode (encode b) = .ok b := by
  simp [decode, all_isDigit_encode, pairs_encode]

/-- The byte string of a value that is a hexadecimal text. -/
def ofValue : Value → Except Fault Bytes
  | .text t => (decode t).mapError .rejected
  | v => .error (.rejected (.notHexText v))

end Hex

end StateAddress
