import StateAddress.Text.Utf8

/-!
# Views of memory

A view shows memory as items of some size, laid out along any number of dimensions.  It is as
long as its first dimension, and cutting it cuts that dimension; the items keep their size and
their distance.  A plain row of bytes is a byte string of its own kind, so it is left out here.

## Main definitions

* `Dimension` : a number of places and the distance between them.
* `View` : item size, dimensions and the bytes of the items in order.
* `View.length`, `View.cut` : the places of the first dimension, and the first of them.
* `View.isContiguous` : whether the bytes lie in memory in the order of the items.
* `View.sameItems`, `View.isRowOf` : when a view equals another one, or a byte string.
-/

namespace StateAddress

/-- One dimension of a view. -/
structure Dimension where
  /-- The number of places. -/
  extent : Nat
  /-- The distance in memory from one place to the next. -/
  stride : Int
  deriving DecidableEq, Repr

namespace Dimension

/-- The number of items along several dimensions. -/
def volume : List Dimension → Nat
  | [] => 1
  | d :: rest => d.extent * volume rest

/-- Whether single bytes along one dimension make up a plain row. -/
def arePlain (itemSize : Nat) : List Dimension → Bool
  | [d] => itemSize = 1 && d.stride = 1
  | _ => false

/-- Whether the places of each dimension follow one another without a gap.  The distance between
places does not matter where there is only one. -/
def areDense (itemSize : Nat) : List Dimension → Bool
  | [] => true
  | d :: rest =>
      (d.extent ≤ 1 || d.stride = (itemSize * volume rest : Nat)) && areDense itemSize rest

/-- The first places of the first dimension, if there is one. -/
def cut (n : Nat) : List Dimension → List Dimension
  | [] => []
  | d :: rest => ⟨min n d.extent, d.stride⟩ :: rest

theorem volume_cut_le (n : Nat) : (ds : List Dimension) → volume (cut n ds) ≤ volume ds
  | [] => Nat.le_refl _
  | _ :: _ => Nat.mul_le_mul_right _ (Nat.min_le_right _ _)

theorem arePlain_cut (itemSize n : Nat) : (ds : List Dimension) →
    arePlain itemSize (cut n ds) = arePlain itemSize ds
  | [] | [_] | _ :: _ :: _ => rfl

end Dimension

/-- A view of memory other than a plain row of bytes. -/
structure View where
  /-- The number of bytes of an item. -/
  itemSize : Nat
  /-- The dimensions, the first one outermost. -/
  dimensions : List Dimension
  /-- The bytes of all items, in the order of the items. -/
  content : Bytes
  length_content : content.length = itemSize * Dimension.volume dimensions
  not_plain : Dimension.arePlain itemSize dimensions = false
  deriving Repr

namespace View

/-- The number of places of the first dimension.  A single item without dimensions counts as one. -/
def length (w : View) : Nat :=
  match w.dimensions with
  | [] => 1
  | d :: _ => d.extent

/-- The number of bytes in one place of the first dimension. -/
def width (w : View) : Nat := w.itemSize * Dimension.volume w.dimensions.tail

/-- The first places of the first dimension. -/
def cut (w : View) (n : Nat) : View where
  itemSize := w.itemSize
  dimensions := Dimension.cut n w.dimensions
  content := w.content.take (w.itemSize * Dimension.volume (Dimension.cut n w.dimensions))
  length_content := by
    rw [List.length_take, w.length_content]
    exact Nat.min_eq_left (Nat.mul_le_mul_left _ (Dimension.volume_cut_le n w.dimensions))
  not_plain := by
    rw [Dimension.arePlain_cut]
    exact w.not_plain

/-- Whether the bytes lie in memory in the order of the items.  A view without items does, but of
one dimension only if its places would be without gaps. -/
def isContiguous (w : View) : Bool :=
  match w.dimensions with
  | [] => true
  | [d] => d.extent = 1 || d.stride = w.itemSize
  | ds => w.content.isEmpty || Dimension.areDense w.itemSize ds

/-- The numbers of places along the dimensions. -/
def shape (w : View) : List Nat := w.dimensions.map Dimension.extent

/-- Whether two views show the same items in the same arrangement. -/
def sameItems (v w : View) : Bool :=
  v.itemSize = w.itemSize && v.shape = w.shape && v.content = w.content

/-- Whether a view shows the bytes of a byte string, one after the other. -/
def isRowOf (w : View) (b : Bytes) : Bool :=
  w.itemSize = 1 && w.shape.length = 1 && w.content = b

/-! ### The parts of a view that is cut -/

theorem length_cut (w : View) {n : Nat} (hw : w.dimensions ≠ []) (hn : n ≤ w.length) :
    (w.cut n).length = n := by
  obtain ⟨d, rest, hd⟩ := List.exists_cons_of_ne_nil hw
  simp only [length, hd] at hn
  simp only [length, cut, hd, Dimension.cut]
  exact Nat.min_eq_left hn

theorem content_cut (w : View) {n : Nat} (hw : w.dimensions ≠ []) (hn : n ≤ w.length) :
    (w.cut n).content = w.content.take (n * w.width) := by
  obtain ⟨d, rest, hd⟩ := List.exists_cons_of_ne_nil hw
  simp only [length, hd] at hn
  simp only [cut, width, hd, Dimension.cut, Dimension.volume, List.tail_cons,
    Nat.min_eq_left hn, Nat.mul_left_comm]

end View

end StateAddress
