import StateAddress.Fault

/-!
# The order of values

Sizes and lengths are values of any kind, and they are compared with one another.  Numbers are
ordered as numbers, texts and byte strings code by code, and sequences of one kind by the first
items that differ, a shorter one first if there are none.  Other values have no order between
them, nor have two sequences whose first differing items have none.

## Main definitions

* `Value.same` : whether two values are equal, whatever numbers or byte strings they are.
* `Value.less` : whether the first value is smaller, or which two kinds have no order.
* `Value.lt`, `Value.gt` : the same, with the fault of a comparison that is not possible.
* `Value.greatest` : the first greatest of several values.

## Main results

* `Value.same_int`, `Value.lt_int`, `Value.greater_int` : the order of integers.
* `Value.exists_greatest_int` : the greatest of several integers.
* `Value.int_lt_of_int?` : an integer against what counts as one.
-/

namespace StateAddress

namespace Value

/-! ### Equality -/

mutual

/-- Whether two values are equal.  Numbers are equal as numbers and byte strings as sequences of
bytes, whatever their kinds; views are equal item by item. -/
def same : Value → Value → Bool
  | null, null => true
  | text s, text t => s = t
  | octets _ b, octets _ c => b = c
  | view v, view w => v.sameItems w
  | view w, octets _ b => w.isRowOf b
  | octets _ b, view w => w.isRowOf b
  | list xs, list ys => sameItems xs ys
  | tuple xs, tuple ys => sameItems xs ys
  | dict xs, dict ys => xs.length = ys.length && sameEntries xs ys
  | x, y =>
      match x.number?, y.number? with
      | some m, some n => m.eq n
      | _, _ => false

/-- Whether two sequences have equal items. -/
def sameItems : List Value → List Value → Bool
  | [], [] => true
  | x :: xs, y :: ys => x.same y && sameItems xs ys
  | _, _ => false

/-- Whether the entries of a table occur in another one. -/
def sameEntries : List (Value × Value) → List (Value × Value) → Bool
  | [], _ => true
  | (key, x) :: rest, ys =>
      (match ys.find? fun e => key.same e.1 with
        | some e => x.same e.2
        | none => false) && sameEntries rest ys

end

/-! ### Order -/

/-- The names of two kinds of values without an order between them. -/
structure Unordered where
  left : String
  right : String
  deriving DecidableEq, Repr

/-- Whether the first of two sequences of codes comes earlier in a dictionary. -/
def earlier (m n : List Nat) : Bool := m < n

/-- Whether byte strings of two kinds are compared.  A growable one is compared with any other,
and a fixed one with a fixed one. -/
def OctetKind.comparable : OctetKind → OctetKind → Bool
  | .growable, _ => true
  | _, .growable => true
  | .fixed, .fixed => true
  | _, _ => false

mutual

/-- Whether the first value is smaller. -/
def less : Value → Value → Except Unordered Bool
  | text s, text t => .ok (earlier (s.map CodePoint.value) (t.map CodePoint.value))
  | octets k b, octets l c =>
      if OctetKind.comparable k l then .ok (earlier (b.map UInt8.toNat) (c.map UInt8.toNat))
      else .error ⟨k.typeName, l.typeName⟩
  | octets k b, view w =>
      if k = .growable ∧ w.isContiguous then
        .ok (earlier (b.map UInt8.toNat) (w.content.map UInt8.toNat))
      else .error ⟨k.typeName, (view w).typeName⟩
  | view w, octets k b =>
      if k = .growable ∧ w.isContiguous then
        .ok (earlier (w.content.map UInt8.toNat) (b.map UInt8.toNat))
      else .error ⟨(view w).typeName, k.typeName⟩
  | list xs, list ys => lessItems xs ys
  | tuple xs, tuple ys => lessItems xs ys
  | x, y =>
      match x.number?, y.number? with
      | some m, some n => .ok (m.lt n)
      | _, _ => .error ⟨x.typeName, y.typeName⟩

/-- Whether the first sequence is smaller: at the first items that differ, or by its length. -/
def lessItems : List Value → List Value → Except Unordered Bool
  | x :: xs, y :: ys => if x.same y then lessItems xs ys else x.less y
  | [], _ :: _ => .ok true
  | _, [] => .ok false

end

/-- Whether the first value is smaller. -/
def lt (x y : Value) : Except Fault Bool :=
  (x.less y).mapError fun u => .misused (.unordered "<" u.left u.right)

/-- Whether the first value is greater. -/
def gt (x y : Value) : Except Fault Bool :=
  (y.less x).mapError fun u => .misused (.unordered ">" u.right u.left)

/-- The greater of two values, the first of equal ones. -/
def greater (x y : Value) : Except Fault Value :=
  (y.gt x).map fun isGreater => if isGreater then y else x

/-- The first greatest of several values. -/
def greatest (x : Value) (rest : List Value) : Except Fault Value := rest.foldlM greater x

/-! ### Integers -/

@[simp] theorem same_int (m n : Int) : (int m).same (int n) = decide (m = n) := by
  simp [same]

@[simp] theorem lt_int (m n : Int) : (int m).lt (int n) = .ok (decide (m < n)) := by
  simp [lt, less, mapError_ok]

@[simp] theorem greater_int (m n : Int) : (int m).greater (int n) = .ok (int (max m n)) := by
  simp only [greater, gt, less, number?_int, Decimal.Scaled.lt_ofInt, mapError_ok, Except.map,
    decide_eq_true_eq]
  split <;> congr <;> omega

/-- The greatest of several integers is the one that exactly those are below which are below some of
them. -/
theorem exists_greatest_int (first : Int) (rest : List Int) :
    ∃ m, (int first).greatest (rest.map int) = .ok (int m) ∧
      ∀ size, size < m ↔ ∃ n ∈ first :: rest, size < n := by
  induction rest generalizing first with
  | nil => exact ⟨first, rfl, fun size => by simp⟩
  | cons next rest ih =>
      obtain ⟨m, hm, hlt⟩ := ih (max first next)
      refine ⟨m, ?_, fun size => ?_⟩
      · rw [greatest, List.map_cons, List.foldlM_cons, greater_int]
        exact hm
      · have hmax : size < max first next ↔ size < first ∨ size < next := by omega
        simp only [hlt, List.mem_cons, exists_eq_or_imp, hmax, or_assoc]

theorem exists_misused_of_lt {x y : Value} {fault : Fault} (h : x.lt y = .error fault) :
    ∃ reason, fault = .misused reason := by
  rw [lt] at h
  cases hless : x.less y with
  | ok b =>
      rw [hless] at h
      cases h
  | error u =>
      rw [hless] at h
      cases h
      exact ⟨_, rfl⟩

/-- An integer is compared with what counts as one as with that integer. -/
theorem int_lt_of_int? {m n : Int} {v : Value} (h : v.int? = some n) :
    (int m).lt v = .ok (decide (m < n)) := by
  simp [lt, less, number?_of_int? h, mapError_ok]

end Value

end StateAddress
