import StateAddress.Value.Sequence

/-!
# Digests

What a hash provider answers: in general a value, whatever it is.  A provider that makes byte
strings of the answers of a function turns an integer into as many zeros, and such a digest is
given by its length alone.

## Main definitions

* `Digest` : a value, or a number of zeros.
* `Digest.toValue` : the value that a digest is.
* `Digest.take` : the leading part of a digest that is long enough.
* `Digest.ofValue` : the byte string that a value is converted to.

## Main results

* `Digest.take_eq` : the leading part of a digest is that of its value.
-/

namespace StateAddress

/-- What a hash provider answers. -/
inductive Digest where
  | value (v : Value)
  /-- A fixed byte string of zeros. -/
  | zeros (count : Nat)
  deriving Repr

namespace Digest

/-- A fixed byte string. -/
abbrev bytes (b : Bytes) : Digest := value (.bytes b)

/-- The value that a digest is. -/
def toValue : Digest → Value
  | value v => v
  | zeros count => .bytes (List.replicate count 0)

@[simp] theorem toValue_value (v : Value) : (value v).toValue = v := rfl

@[simp] theorem toValue_zeros (count : Nat) :
    (zeros count).toValue = .bytes (List.replicate count 0) := rfl

/-! ### Leading parts -/

theorem leadingItems_replicate {α : Type} (bound : Option Int) (count : Nat) (x : α) :
    Value.leadingItems bound (List.replicate count x) =
      List.replicate (Value.leadingCount bound count) x := by
  rcases bound with _ | n | n
  · rfl
  · simp [Value.leadingItems, leading, Value.leadingCount, List.take_replicate]
  · simp [Value.leadingItems, leading, Value.leadingCount, List.take_replicate]

/-- The leading part of a digest, which is refused if the digest is too short for it. -/
def take (d : Digest) (bound : Value) : Except Fault Value :=
  match d with
  | value v => v.take bound
  | zeros count => do
      if ← (Value.int count).lt bound then
        throw (.unfit (.digestTooShort count bound))
      (Value.sliceBound bound).map fun n => .bytes (List.replicate (Value.leadingCount n count) 0)

/-- The leading part of a digest is that of its value. -/
theorem take_eq (d : Digest) (bound : Value) : d.take bound = d.toValue.take bound := by
  cases d with
  | value v => rfl
  | zeros count =>
      simp only [take, toValue, Value.take, Value.length, Value.length?, Value.leading,
        List.length_replicate, leadingItems_replicate]
      rfl

/-! ### Conversion -/

variable (memory : Nat)

/-- The number of zeros that an integer stands for, with memory for so many of them.  A byte string
takes 33 bytes more than it holds, and this sum is a size too. -/
def zeroCount (n : Int) : Except Fault Nat :=
  if !Value.isSize n then .error (.misused .oversizedCount)
  else if n < 0 then .error (.misused .negativeCount)
  else if !Value.isSize (n + 33) then .error (.misused .oversizedBytes)
  else if memory < n then .error (.misused .unallocatable)
  else .ok n.toNat

/-- The byte string that a value is converted to: what holds bytes gives them in the order of its
items, a sequence of integers gives its items, a table its keys, and an integer as many zeros. -/
def ofValue : Value → Except Fault Digest
  | .octets _ b => .ok (bytes b)
  | .view w => .ok (bytes w.content)
  | .list items => (Value.bytesOfItems items).map bytes
  | .tuple items => (Value.bytesOfItems items).map bytes
  | .dict entries => (Value.bytesOfItems (entries.map Prod.fst)).map bytes
  | .int n => (zeroCount memory n).map zeros
  | .bool b => .ok (zeros (if b then 1 else 0))
  | .text _ => .error (.misused .unencodedText)
  | v => .error (.misused (.notConvertible v.typeName))

end Digest

end StateAddress
