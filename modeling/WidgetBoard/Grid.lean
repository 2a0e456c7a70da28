/-!
# Section grids

The widgets of a section are packed from left to right, in order, into rows of at most four columns.
A widget that no longer fits in the running row begins the next one; a row that is exactly full is
closed.

* `clampColumns`, `effectiveWidth`   the columns of a grid, and those a widget really takes;
* `Grid.usedBefore`                  for each widget, how much of its row is taken in front of it;
* `Grid.rows`                        the widgets of each row, by index, and what they take;
* `Grid.remaining`                   the columns that are free in the last row;
* `Grid.maxWidthAt?`                 the widest that a widget can be without leaving its row.
-/

namespace WidgetBoard

def maxColumns : Nat := 4

/-- at least one column and at most four -/
def clampColumns (n : Nat) : Nat :=
  max 1 (min n maxColumns)

/-- a declared width, at least one and at most four, and never more than the columns there are -/
def effectiveWidth (declared columns : Nat) : Nat :=
  min (max 1 (min declared maxColumns)) (clampColumns columns)

theorem clampColumns_mem (n : Nat) : 1 ≤ clampColumns n ∧ clampColumns n ≤ 4 := by
  simp only [clampColumns, maxColumns]
  omega

theorem clampColumns_eq_self {n : Nat} (h : 1 ≤ n ∧ n ≤ 4) : clampColumns n = n := by
  simp only [clampColumns, maxColumns]
  omega

@[simp] theorem clampColumns_clampColumns (n : Nat) :
    clampColumns (clampColumns n) = clampColumns n :=
  clampColumns_eq_self (clampColumns_mem n)

theorem effectiveWidth_mem (w n : Nat) :
    1 ≤ effectiveWidth w n ∧ effectiveWidth w n ≤ clampColumns n := by
  have := clampColumns_mem n
  simp only [effectiveWidth, maxColumns]
  omega

theorem effectiveWidth_clampColumns (w n : Nat) :
    effectiveWidth w (clampColumns n) = effectiveWidth w n := by
  simp [effectiveWidth]

theorem effectiveWidth_eq_self {w n : Nat} (h : 1 ≤ w) (hn : w ≤ n) (h4 : n ≤ 4) :
    effectiveWidth w n = w := by
  rw [effectiveWidth, clampColumns_eq_self ⟨Nat.le_trans h hn, h4⟩, maxColumns]
  omega

structure Grid where
  columns : Nat
  widths : List Nat
  deriving DecidableEq, Repr

/-- the indices of the widgets of a row, and the columns they take -/
structure GridRow where
  widgets : List Nat
  used : Nat
  deriving DecidableEq, Repr

namespace Grid

/-- the grid of a section with these declared widths -/
def ofDeclared (columns : Nat) (declared : List Nat) : Grid :=
  ⟨clampColumns columns, declared.map fun w => effectiveWidth w columns⟩

/-! ## Packing -/

/-- how much of the row is taken where a widget of width `w` is put, when `used` is taken -/
def startOf (columns used w : Nat) : Nat :=
  if columns < used + w then 0 else used

/-- how much is taken behind a widget of width `w` put at `start`; nothing in a full row -/
def endOf (columns start w : Nat) : Nat :=
  if start + w = columns then 0 else start + w

/-- for each width, how much of its row is taken in front of it -/
def starts (columns used : Nat) : List Nat → List Nat
  | [] => []
  | w :: ws =>
    let start := startOf columns used w
    start :: starts columns (endOf columns start w) ws

def usedBefore (g : Grid) : List Nat :=
  starts g.columns 0 g.widths

/-- puts widget `i`, of width `w`, behind the rows so far: at the start of a row, or in the last -/
def place (rows : List GridRow) (i start w : Nat) : List GridRow :=
  match rows.getLast? with
  | some row =>
    if 0 < start then rows.dropLast ++ [⟨row.widgets ++ [i], row.used + w⟩]
    else rows ++ [⟨[i], w⟩]
  | none => [⟨[i], w⟩]

/-- packs the widths from index `i` on behind the rows so far -/
def pack (columns : Nat) : List GridRow → Nat → Nat → List Nat → List GridRow
  | rows, _, _, [] => rows
  | rows, i, used, w :: ws =>
    let start := startOf columns used w
    pack columns (place rows i start w) (i + 1) (endOf columns start w) ws

def rows (g : Grid) : List GridRow :=
  pack g.columns [] 0 0 g.widths

/-! ## Room -/

/-- all columns of an empty grid are free -/
def remaining (g : Grid) : Nat :=
  match g.rows.getLast? with
  | some row => g.columns - row.used
  | none => g.columns

/-- for each widget, the columns from its start to the end of its row -/
def maxWidths (g : Grid) : List Nat :=
  g.usedBefore.map fun used => max (g.columns - used) 1

def maxWidthAt? (g : Grid) (i : Nat) : Option Nat :=
  g.maxWidths[i]?

end Grid

end WidgetBoard
