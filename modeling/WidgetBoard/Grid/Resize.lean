import WidgetBoard.Grid

/-!
# Resizing by drag

A widget is resized by dragging its edge: the distance dragged, in whole cells, is added to its
width, within one and the room its row had when the drag began.

* `GridPixels.cellWidth`   the width of a cell in pixels;
* `roundAway`              a finite double rounded to an integer, halves away from zero;
* `resizedWidth`           the width after a drag;
* `Gesture`                a drag under way, or none, with the listeners released so far.

A gesture owns the listener it was begun with and releases it when it ends, in whatever way.
-/

namespace WidgetBoard

/-! ## Geometry -/

/-- the pixel size of a grid: its whole width and the gap between two cells -/
structure GridPixels where
  width : Float
  gap : Float
  columns : Nat
  deriving Repr

def GridPixels.cellWidth (p : GridPixels) : Float :=
  let columns := Float.ofNat (clampColumns p.columns)
  (p.width - (columns - 1.0) * p.gap) / columns

/-- `n / 2^k`, rounded to the nearest integer, halves up -/
def roundShift (n k : Nat) : Nat :=
  (n + Nat.pow 2 k / 2) / Nat.pow 2 k

/-- a finite double rounded to the nearest integer, halves away from zero -/
def roundAway (f : Float) : Int :=
  let bits := f.toBits.toNat
  let fraction := bits % Nat.pow 2 52
  let exponent := bits / Nat.pow 2 52 % Nat.pow 2 11
  let m := if exponent = 0 then fraction else Nat.pow 2 52 + fraction
  let n := if 1075 ≤ exponent then m * Nat.pow 2 (exponent - 1075) else roundShift m (1075 - exponent)
  if bits / Nat.pow 2 63 = 1 then -(n : Int) else n

/-- the cells that a pointer moved over; none when the cell has no width or the distance is not
finite -/
def draggedCells (p : GridPixels) (startX pointerX : Float) : Int :=
  let cell := p.cellWidth
  if cell > 0.0 && cell.isFinite then
    let cells := (pointerX - startX) / cell
    if cells.isFinite then roundAway cells else 0
  else 0

def clampWidth (n : Int) (maxWidth : Nat) : Nat :=
  (max 1 (min n (max maxWidth 1 : Nat))).toNat

theorem clampWidth_mem (n : Int) (m : Nat) : 1 ≤ clampWidth n m ∧ clampWidth n m ≤ max m 1 := by
  simp only [clampWidth]
  omega

def resizedWidth (p : GridPixels) (startX pointerX : Float) (startWidth maxWidth : Nat) : Nat :=
  clampWidth (startWidth + draggedCells p startX pointerX) maxWidth

/-! ## Gestures -/

/-- a listener that is released once, or none to release -/
abbrev Subscription := Option Nat

/-- what a drag began with; the room is measured once -/
structure DragOrigin where
  widget : String
  startX : Float
  startWidth : Nat
  maxWidth : Nat
  listener : Subscription
  deriving Repr

structure Gesture where
  origin : Option DragOrigin := none
  released : List Nat := []
  deriving Repr

structure ResizeUpdate where
  widget : String
  width : Nat
  deriving DecidableEq, Repr

namespace Gesture

def isDragging (g : Gesture) : Bool :=
  g.origin.isSome

/-- no drag any more; its listener is released -/
def stop (g : Gesture) : Gesture :=
  { origin := none, released := g.released ++ (g.origin.bind (·.listener)).toList }

/-- begins to drag widget `index` of a grid, and stops the drag before; whether there is such a
widget -/
def begin (g : Gesture) (widget : String) (index : Nat) (grid : Grid) (x : Float)
    (listener : Subscription) : Bool × Gesture :=
  match grid.widths[index]?, grid.maxWidthAt? index with
  | some startWidth, some maxWidth =>
    (true, { g.stop with origin := some ⟨widget, x, startWidth, maxWidth, listener⟩ })
  | _, _ => (false, { g.stop with released := g.stop.released ++ listener.toList })

/-- the width with the pointer at `x`, while dragging -/
def move? (g : Gesture) (x : Float) (p : GridPixels) : Option ResizeUpdate :=
  g.origin.map fun o => ⟨o.widget, resizedWidth p o.startX x o.startWidth o.maxWidth⟩

/-- the width with the pointer let go at `x`; the drag stops -/
def up (g : Gesture) (x : Float) (p : GridPixels) : Option ResizeUpdate × Gesture :=
  (g.move? x p, g.stop)

end Gesture

end WidgetBoard
