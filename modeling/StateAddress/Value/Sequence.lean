import StateAddress.Value.Order

/-!
# Cutting, joining and converting values

Digests are values of any kind.  Only sequences have a length and a leading part, and only byte
strings are joined.

## Main definitions

* `leading`, `Value.leadingCount` : the leading part of a list, counted from either end, and how
  many items it has.
* `Value.length`, `Value.leading` : the same for a value.
* `Value.take` : the leading part of a digest that is long enough.
* `joinOctets` : the byte string that several values make up.
* `Value.bytesOfItems` : the byte string of a sequence of integers.

## Main results

* `Value.take_octets_of_count`, `Value.take_octets`, `Value.take_view_of_count` : what is taken of
  a byte string or of a view is as long as asked for, or refused.
* `Value.exists_octets_of_take` : a part that is a byte string is taken of one.
* `Value.take_eq_error` : why nothing is taken of a value.
-/

namespace StateAddress

/-! ### Leading parts -/

/-- The first items up to a bound, which below zero counts from the end. -/
def leading {α : Type} : (bound : Int) → List α → List α
  | .ofNat n, xs => xs.take n
  | .negSucc n, xs => xs.take (xs.length - (n + 1))

@[simp] theorem leading_natCast {α : Type} (n : Nat) (xs : List α) :
    leading (n : Int) xs = xs.take n := rfl

namespace Value

/-- The number of items of a value that has items. -/
def length? : Value → Option Nat
  | text t => some t.length
  | octets _ b => some b.length
  | view w => some w.length
  | list items => some items.length
  | tuple items => some items.length
  | dict entries => some entries.length
  | _ => none

/-- The number of items of a value. -/
def length (v : Value) : Except Fault Nat :=
  match v.length? with
  | some n => .ok n
  | none => .error (.misused (.unsized v.typeName))

/-- The bound that a value gives to a leading part; the null value gives none. -/
def sliceBound (bound : Value) : Except Fault (Option Int) :=
  match bound with
  | null => .ok none
  | _ =>
      match bound.int? with
      | some n => .ok (some n)
      | none => .error (.misused .notSliceBound)

/-- The items up to a bound, or all of them without one. -/
def leadingItems {α : Type} : Option Int → List α → List α
  | some n, xs => StateAddress.leading n xs
  | none, xs => xs

/-- The number of items up to a bound, or of all items without one. -/
def leadingCount : (bound : Option Int) → (count : Nat) → Nat
  | none, count => count
  | some (.ofNat n), count => min n count
  | some (.negSucc n), count => count - (n + 1)

/-- The leading part of a value, of the kind that the value has.  A table is read by key only,
and a bound is no key. -/
def leading (v bound : Value) : Except Fault Value :=
  match v with
  | text t => (sliceBound bound).map fun n => text (leadingItems n t)
  | octets kind b => (sliceBound bound).map fun n => octets kind (leadingItems n b)
  | view w =>
      if w.dimensions.isEmpty then .error (.misused .dimensionless)
      else (sliceBound bound).map fun n => view (w.cut (leadingCount n w.length))
  | list items => (sliceBound bound).map fun n => list (leadingItems n items)
  | tuple items => (sliceBound bound).map fun n => tuple (leadingItems n items)
  | dict _ => .error (.misused (.unhashable "slice"))
  | v => .error (.misused (.unsized v.typeName))

/-- The leading part of a digest, which is refused if the digest is too short for it. -/
def take (digest bound : Value) : Except Fault Value := do
  let size ← digest.length
  if ← (int size).lt bound then
    throw (.unfit (.digestTooShort size bound))
  digest.leading bound

theorem sliceBound_of_int? {bound : Value} {n : Int} (h : bound.int? = some n) :
    bound.sliceBound = .ok (some n) := by
  cases bound <;> cases h <;> rfl

/-- What is taken of a value with items up to what counts as an integer: its leading part, unless
the bound is above its length. -/
theorem take_of_length? {v bound : Value} {size : Nat} {n : Int} (hsize : v.length? = some size)
    (h : bound.int? = some n) :
    v.take bound =
      if (size : Int) < n then .error (.unfit (.digestTooShort size bound))
      else v.leading bound := by
  rw [take, length, hsize]
  change (int size).lt bound >>= _ = _
  rw [int_lt_of_int? h]
  by_cases hshort : (size : Int) < n
  · rw [if_pos hshort, decide_eq_true hshort]
    rfl
  · rw [if_neg hshort, decide_eq_false hshort]
    rfl

theorem take_octets_of_int? (kind : OctetKind) (b : Bytes) {bound : Value} {n : Int}
    (h : bound.int? = some n) :
    (octets kind b).take bound =
      if (b.length : Int) < n then .error (.unfit (.digestTooShort b.length bound))
      else .ok (octets kind (StateAddress.leading n b)) := by
  rw [take_of_length? rfl h, leading, sliceBound_of_int? h]
  rfl

/-- What is taken of a byte string is as long as asked for, or refused. -/
theorem take_octets_of_count (kind : OctetKind) (b : Bytes) {bound : Value} {n : Nat}
    (h : bound.int? = some (n : Int)) :
    (octets kind b).take bound =
      if n ≤ b.length then .ok (octets kind (b.take n))
      else .error (.unfit (.digestTooShort b.length bound)) := by
  rw [take_octets_of_int? kind b h, leading_natCast]
  by_cases hlong : n ≤ b.length
  · rw [if_pos hlong, if_neg (by omega)]
  · rw [if_neg hlong, if_pos (by omega)]

theorem take_octets (kind : OctetKind) (b : Bytes) (n : Nat) :
    (octets kind b).take (int n) =
      if n ≤ b.length then .ok (octets kind (b.take n))
      else .error (.unfit (.digestTooShort b.length (int n))) :=
  take_octets_of_count kind b rfl

/-- What is taken of a view has as many places of the first dimension as are asked for, or is
refused. -/
theorem take_view_of_count {w : View} (hw : w.dimensions ≠ []) {bound : Value} {n : Nat}
    (h : bound.int? = some (n : Int)) :
    (view w).take bound =
      if n ≤ w.length then .ok (view (w.cut n))
      else .error (.unfit (.digestTooShort w.length bound)) := by
  have hleading : (view w).leading bound = .ok (view (w.cut (min n w.length))) := by
    rw [leading, sliceBound_of_int? h, if_neg (by simpa using hw)]
    rfl
  rw [take_of_length? rfl h, hleading]
  by_cases hlong : n ≤ w.length
  · rw [if_pos hlong, if_neg (by omega), Nat.min_eq_left hlong]
  · rw [if_neg hlong, if_pos (by omega)]

theorem leading_of_take {v bound part : Value} (h : v.take bound = .ok part) :
    v.leading bound = .ok part := by
  rw [take] at h
  obtain ⟨size, -, h⟩ := exists_of_bind_eq_ok h
  obtain ⟨short, -, h⟩ := exists_of_bind_eq_ok h
  cases short with
  | true => cases h
  | false => exact h

/-- A part that is a byte string is taken of a byte string. -/
theorem exists_octets_of_take {v bound : Value} {kind : OctetKind} {b : Bytes}
    (h : v.take bound = .ok (.octets kind b)) : ∃ content, v = .octets kind content := by
  have hleading := leading_of_take h
  cases v with
  | octets kind' content =>
      cases hbound : bound.sliceBound <;> simp only [leading, hbound, Except.map] at hleading <;>
        cases hleading
      exact ⟨_, rfl⟩
  | view w =>
      rw [leading] at hleading
      split at hleading
      · cases hleading
      · obtain ⟨n, -, hn⟩ := exists_of_map_eq_ok hleading
        cases hn
  | _ => cases hbound : bound.sliceBound <;> simp only [leading, hbound, Except.map] at hleading <;>
        cases hleading

theorem exists_misused_of_sliceBound {bound : Value} {fault : Fault}
    (h : bound.sliceBound = .error fault) : ∃ reason, fault = .misused reason := by
  cases bound <;> cases h <;> exact ⟨_, rfl⟩

theorem exists_misused_of_leading {v bound : Value} {fault : Fault}
    (h : v.leading bound = .error fault) : ∃ reason, fault = .misused reason := by
  have hbounded {α : Type} {f : Option Int → α} (hf : bound.sliceBound.map f = .error fault) :
      ∃ reason, fault = .misused reason :=
    exists_misused_of_sliceBound (eq_error_of_map_eq_error hf)
  cases v with
  | text t | octets kind b | list items | tuple items => exact hbounded h
  | view w =>
      rw [leading] at h
      split at h
      · cases h
        exact ⟨_, rfl⟩
      · exact hbounded h
  | _ =>
      cases h
      exact ⟨_, rfl⟩

/-- The leading part of a digest is refused because a value is used as what it is not, or because
the digest is too short. -/
theorem take_eq_error {digest bound : Value} {fault : Fault}
    (h : digest.take bound = .error fault) :
    (∃ reason, fault = .misused reason) ∨
      ∃ size, digest.length? = some size ∧ (int size).lt bound = .ok true ∧
        fault = .unfit (.digestTooShort size bound) := by
  rw [take, length] at h
  cases hsize : digest.length? with
  | none =>
      rw [hsize] at h
      cases h
      exact .inl ⟨_, rfl⟩
  | some size =>
      rw [hsize] at h
      change (int size).lt bound >>= _ = .error fault at h
      cases hlt : (int size).lt bound with
      | error reason =>
          rw [hlt] at h
          cases h
          exact .inl (exists_misused_of_lt hlt)
      | ok short =>
          rw [hlt] at h
          cases short with
          | true =>
              cases h
              exact .inr ⟨size, rfl, hlt, rfl⟩
          | false => exact .inl (exists_misused_of_leading h)

/-! ### Conversion -/

/-- The bytes of a sequence of integers. -/
def bytesOfItems : List Value → Except Fault Bytes
  | [] => .ok []
  | v :: rest =>
      match v.int? with
      | some n =>
          if 0 ≤ n ∧ n < 256 then (bytesOfItems rest).map (UInt8.ofNat n.toNat :: ·)
          else .error (.misused .notByte)
      | none => .error (.misused (.notInteger v.typeName))

/-- Whether an integer is a size: sizes have 64 bits with a sign. -/
def isSize (n : Int) : Bool := -0x8000000000000000 ≤ n && n < 0x8000000000000000

end Value

/-! ### Joining -/

/-- The byte string that several values make up, the first of them at a position.  Of views only
those are joined whose bytes lie in memory in the order of the items. -/
def joinOctets : (position : Nat) → List Value → Except Fault Bytes
  | _, [] => .ok []
  | position, .octets _ b :: rest => (joinOctets (position + 1) rest).map (b ++ ·)
  | position, .view w :: rest =>
      if w.isContiguous then (joinOctets (position + 1) rest).map (w.content ++ ·)
      else .error (.misused (.notOctets position (Value.view w).typeName))
  | position, v :: _ => .error (.misused (.notOctets position v.typeName))

theorem exists_misused_of_joinOctets {position : Nat} {parts : List Value} {fault : Fault}
    (h : joinOctets position parts = .error fault) : ∃ reason, fault = .misused reason := by
  induction parts generalizing position with
  | nil => cases h
  | cons v rest ih =>
      cases v with
      | octets kind b =>
          rw [joinOctets] at h
          exact ih (eq_error_of_map_eq_error h)
      | view w =>
          rw [joinOctets] at h
          split at h
          · exact ih (eq_error_of_map_eq_error h)
          · cases h
            exact ⟨_, rfl⟩
      | _ =>
          cases h
          exact ⟨_, rfl⟩

end StateAddress
