import WidgetBoard.Grid
import WidgetBoard.Proofs.Lists

/-!
# Room in the rows of a grid

A widget is put where it still fits, so the columns from its start to the end of its row are never
fewer than it takes.

* `Grid.Fits`                 one to four columns, and no width beyond them;
* `Grid.add_le_of_starts`     where a widget starts, it ends within the row;
* `Grid.exists_maxWidthAt?`   the widest that a widget can be: from its width to the columns.
-/

namespace WidgetBoard.Grid

/-- one to four columns, and every width from one to the columns -/
structure Fits (g : Grid) : Prop where
  columns : 1 ≤ g.columns ∧ g.columns ≤ 4
  widths : ∀ w ∈ g.widths, 1 ≤ w ∧ w ≤ g.columns

theorem fits_ofDeclared (columns : Nat) (declared : List Nat) :
    (ofDeclared columns declared).Fits where
  columns := clampColumns_mem columns
  widths w hw := by
    obtain ⟨v, _, rfl⟩ := List.mem_map.1 hw
    exact effectiveWidth_mem v columns

/-- a grid whose widths fit is packed with just these widths -/
theorem Fits.ofDeclared_eq {g : Grid} (h : g.Fits) : ofDeclared g.columns g.widths = g := by
  have hwidths : (g.widths.map fun w => effectiveWidth w g.columns) = g.widths := by
    refine map_eq_self fun w hw => ?_
    exact effectiveWidth_eq_self (h.widths w hw).1 (h.widths w hw).2 h.columns.2
  rw [ofDeclared, hwidths, clampColumns_eq_self h.columns]

theorem length_widths_ofDeclared (columns : Nat) (declared : List Nat) :
    (ofDeclared columns declared).widths.length = declared.length :=
  List.length_map _

/-! ## starts -/

theorem length_starts (columns used : Nat) (ws : List Nat) :
    (starts columns used ws).length = ws.length := by
  induction ws generalizing used with
  | nil => rfl
  | cons w ws ih => rw [starts, List.length_cons, List.length_cons, ih]

theorem startOf_add_le {columns w : Nat} (used : Nat) (h : w ≤ columns) :
    startOf columns used w + w ≤ columns := by
  unfold startOf
  split <;> omega

/-- a widget ends within the row that it starts in -/
theorem add_le_of_starts {columns used i start w : Nat} {ws : List Nat}
    (h : ∀ v ∈ ws, v ≤ columns) (hs : (starts columns used ws)[i]? = some start)
    (hw : ws[i]? = some w) : start + w ≤ columns := by
  induction ws generalizing used i with
  | nil => exact nomatch hw
  | cons v ws ih =>
    cases i with
    | zero =>
      obtain rfl : v = w := Option.some.inj hw
      obtain rfl : startOf columns used v = start := Option.some.inj hs
      exact startOf_add_le used (h v List.mem_cons_self)
    | succ i => exact ih (fun u hu => h u (List.mem_cons_of_mem _ hu)) hs hw

/-! ## room -/

/-- a widget of the grid could be as wide as it is, and no wider than the grid -/
theorem exists_maxWidthAt? {g : Grid} (h : g.Fits) {i w : Nat} (hw : g.widths[i]? = some w) :
    ∃ m, g.maxWidthAt? i = some m ∧ w ≤ m ∧ m ≤ g.columns := by
  have hi : i < g.usedBefore.length := by
    rw [usedBefore, length_starts]
    exact (List.getElem?_eq_some_iff.1 hw).1
  have hs : g.usedBefore[i]? = some g.usedBefore[i] := List.getElem?_eq_getElem hi
  have hle : g.usedBefore[i] + w ≤ g.columns :=
    add_le_of_starts (fun v hv => (h.widths v hv).2) hs hw
  refine ⟨max (g.columns - g.usedBefore[i]) 1, ?_, by omega, by have := h.columns; omega⟩
  rw [maxWidthAt?, maxWidths, List.getElem?_map, hs]
  rfl

end WidgetBoard.Grid
