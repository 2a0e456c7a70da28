/-!
# Appearance of widgets

* `TextStyle`    the content of a text widget and how it is set;
* `LineLabels`   which points of a line chart carry their value;
* `Span`         the columns a widget spans: one to four;
* `Height`       half a row or a full one;
* `WidgetSize`   span and height.
-/

namespace WidgetBoard

inductive TextAlign where
  | left
  | center
  | right
  deriving DecidableEq, Repr

namespace TextAlign

def all : List TextAlign := [.left, .center, .right]

def name : TextAlign → String
  | .left => "left"
  | .center => "center"
  | .right => "right"

end TextAlign

structure TextStyle where
  content : String := ""
  fontSize : UInt16 := 16
  align : TextAlign := .left
  deriving DecidableEq, Repr

inductive LabelMode where
  | both
  | peaks
  | valleys
  deriving DecidableEq, Repr

namespace LabelMode

def all : List LabelMode := [.both, .peaks, .valleys]

def name : LabelMode → String
  | .both => "both"
  | .peaks => "peaks"
  | .valleys => "valleys"

end LabelMode

structure LineLabels where
  enabled : Bool := false
  mode : LabelMode := .both
  sensitivity : UInt8 := 50
  window : UInt8 := 3
  minGap : UInt8 := 2
  deriving DecidableEq, Repr

namespace LineLabels

def minSensitivity : UInt8 := 25

def maxSensitivity : UInt8 := 100

/-- sensitivity within its bounds, window and gap fixed -/
def normalize (l : LineLabels) : LineLabels :=
  { l with
    sensitivity := max minSensitivity (min l.sensitivity maxSensitivity)
    window := 3
    minGap := 2 }

/-- switches the labels; a change also goes back to both peaks and valleys -/
def switch (l : LineLabels) (enabled : Bool) : LineLabels :=
  if l.enabled = enabled then l else { l with enabled := enabled, mode := .both }

end LineLabels

/-! ## Sizes -/

/-- a number from one to four -/
structure Span where
  val : Nat
  one_le : 1 ≤ val
  le_four : val ≤ 4
  deriving Repr

namespace Span

theorem ext {a b : Span} (h : a.val = b.val) : a = b := by
  cases a
  cases b
  simp only at h
  subst h
  rfl

instance : DecidableEq Span := fun a b =>
  decidable_of_iff (a.val = b.val) ⟨ext, fun h => h ▸ rfl⟩

/-- the span nearest to a number -/
def clamp (n : Nat) : Span :=
  ⟨max 1 (min n 4), by omega, by omega⟩

theorem clamp_val (a : Span) : clamp a.val = a := by
  apply ext
  have h1 := a.one_le
  have h4 := a.le_four
  simp only [clamp]
  omega

theorem val_clamp (n : Nat) : (clamp n).val = max 1 (min n 4) := rfl

end Span

inductive Height where
  | half
  | full
  deriving DecidableEq, Repr

/-- less than a full row is half a row -/
def Height.ofFloat (f : Float) : Height :=
  if f < 1.0 then .half else .full

def Height.toFloat : Height → Float
  | .half => 0.5
  | .full => 1.0

structure WidgetSize where
  width : Span := Span.clamp 1
  height : Height := .full
  deriving DecidableEq, Repr

end WidgetBoard
