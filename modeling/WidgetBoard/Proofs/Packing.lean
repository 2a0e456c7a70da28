import Mathlib.Data.List.Induction
import WidgetBoard.Proofs.Room

/-!
# Widgets packed one by one

Packing goes by a counter, which is set back where a row is full and where a widget does not fit.
The room of a grid is read off its last row.  The two agree, so the room says where one more widget
goes.

* `Grid.counter`     what the counter says behind some widths;
* `Grid.taken`       what the last row says instead;
* `Grid.concat`      a grid with one more widget;
* `Grid.Next`        how a widget is put behind the rows so far: it is the first of all, joins the
                     last row, or opens a row;
* `Grid.Packed`      rows that come of putting widgets there one by one;
* `Grid.Foretells`   what the room of a grid says of a widget behind all others.

Main statements: `Grid.packed_rows` (the rows of a grid come about that way),
`Grid.foretells_ofDeclared`.
-/

namespace WidgetBoard.Grid

/-! ## the counter and the last row -/

theorem startOf_zero (columns w : Nat) : startOf columns 0 w = 0 :=
  ite_self 0

/-- a widget that does not start a row goes on where the row ends -/
theorem startOf_eq_of_pos {columns used w : Nat} (h : 0 < startOf columns used w) :
    startOf columns used w = used := by
  unfold startOf at h ⊢
  split
  next hover => exact absurd h (by rw [if_pos hover]; exact Nat.lt_irrefl 0)
  next => rfl

/-- what is taken of the running row behind some widths -/
def counter (columns used : Nat) (ws : List Nat) : Nat :=
  ws.foldl (fun used w => endOf columns (startOf columns used w) w) used

theorem starts_append (columns used : Nat) (ws vs : List Nat) :
    starts columns used (ws ++ vs)
      = starts columns used ws ++ starts columns (counter columns used ws) vs := by
  induction ws generalizing used with
  | nil => rfl
  | cons w ws ih =>
    rw [List.cons_append, starts, starts, ih]
    rfl

theorem pack_append (columns : Nat) (rows : List GridRow) (i used : Nat) (ws vs : List Nat) :
    pack columns rows i used (ws ++ vs)
      = pack columns (pack columns rows i used ws) (i + ws.length)
          (counter columns used ws) vs := by
  induction ws generalizing rows i used with
  | nil => rfl
  | cons w ws ih =>
    rw [List.cons_append, pack, pack, ih, List.length_cons, Nat.add_assoc, Nat.add_comm 1]
    rfl

/-- what is taken of the running row: all of the last row, or nothing if that is full -/
def taken (columns : Nat) (rows : List GridRow) : Nat :=
  match rows.getLast? with
  | some row => if row.used = columns then 0 else row.used
  | none => 0

theorem taken_concat (columns : Nat) (rows : List GridRow) (row : GridRow) :
    taken columns (rows ++ [row]) = if row.used = columns then 0 else row.used := by
  rw [taken, List.getLast?_concat]

theorem place_concat (rows : List GridRow) (row : GridRow) (i start w : Nat) :
    place (rows ++ [row]) i start w
      = if 0 < start then rows ++ [⟨row.widgets ++ [i], row.used + w⟩]
        else rows ++ [row] ++ [⟨[i], w⟩] := by
  rw [place, List.getLast?_concat, List.dropLast_concat]

/-- the last row says the same as the counter when a widget is put where the counter says -/
theorem taken_place (columns : Nat) (rows : List GridRow) (i w : Nat) :
    taken columns (place rows i (startOf columns (taken columns rows) w) w)
      = endOf columns (startOf columns (taken columns rows) w) w := by
  rcases List.eq_nil_or_concat rows with rfl | ⟨front, last, rfl⟩
  · have hstart : startOf columns (taken columns []) w = 0 := startOf_zero columns w
    rw [hstart, endOf, Nat.zero_add]
    rfl
  · rw [List.concat_eq_append, place_concat]
    by_cases hpos : 0 < startOf columns (taken columns (front ++ [last])) w
    · -- the last row goes on, so it was not full, and the counter was not set back
      have hstart := startOf_eq_of_pos hpos
      have hfull : last.used ≠ columns := by
        intro hfull
        rw [hstart, taken_concat, if_pos hfull] at hpos
        exact Nat.lt_irrefl 0 hpos
      rw [if_pos hpos, hstart, taken_concat, taken_concat, if_neg hfull, endOf]
    · rw [if_neg hpos, taken_concat, Nat.eq_zero_of_not_pos hpos, endOf, Nat.zero_add]

theorem taken_pack (columns : Nat) (rows : List GridRow) (i : Nat) (ws : List Nat) :
    taken columns (pack columns rows i (taken columns rows) ws)
      = counter columns (taken columns rows) ws := by
  induction ws generalizing rows i with
  | nil => rfl
  | cons w ws ih =>
    rw [pack, ← taken_place columns rows i w, ih, taken_place]
    rfl

/-- the counter behind all widths of a grid -/
theorem counter_eq_taken (g : Grid) : counter g.columns 0 g.widths = taken g.columns g.rows :=
  (taken_pack g.columns [] 0 g.widths).symm

/-! ## one widget more -/

def concat (g : Grid) (w : Nat) : Grid :=
  { g with widths := g.widths ++ [w] }

/-- where a widget starts that is put behind all others -/
def nextStart (g : Grid) (w : Nat) : Nat :=
  startOf g.columns (taken g.columns g.rows) w

theorem rows_concat (g : Grid) (w : Nat) :
    (g.concat w).rows = place g.rows g.widths.length (g.nextStart w) w := by
  show pack g.columns [] 0 0 (g.widths ++ [w]) = _
  rw [pack_append, counter_eq_taken, Nat.zero_add]
  rfl

/-- widget `i`, of width `w`, is put behind the rows so far; it starts at `start` -/
inductive Next (columns i w : Nat) (rows : List GridRow) : Nat → List GridRow → Prop
  | first (h : rows = []) : Next columns i w rows 0 [⟨[i], w⟩]
  | joins {front : List GridRow} {last : GridRow} (h : rows = front ++ [last])
      (fits : last.used + w ≤ columns) :
      Next columns i w rows last.used (front ++ [⟨last.widgets ++ [i], last.used + w⟩])
  | opens {front : List GridRow} {last : GridRow} (h : rows = front ++ [last])
      (exceeds : columns < last.used + w) :
      Next columns i w rows 0 (front ++ [last] ++ [⟨[i], w⟩])

theorem next_place (columns i : Nat) {w : Nat} {rows : List GridRow}
    (h : ∀ row ∈ rows, 0 < row.used) (hw : 1 ≤ w) :
    Next columns i w rows (startOf columns (taken columns rows) w)
      (place rows i (startOf columns (taken columns rows) w) w) := by
  rcases List.eq_nil_or_concat rows with rfl | ⟨front, last, rfl⟩
  · have hstart : startOf columns (taken columns []) w = 0 := startOf_zero columns w
    rw [hstart]
    exact .first rfl
  · rw [List.concat_eq_append] at h ⊢
    have hpos : 0 < last.used := h last (List.mem_append_right _ List.mem_cons_self)
    by_cases hfit : last.used + w ≤ columns
    · have hstart : startOf columns (taken columns (front ++ [last])) w = last.used := by
        rw [taken_concat, if_neg (by omega), startOf, if_neg (by omega)]
      rw [hstart, place_concat, if_pos hpos]
      exact .joins rfl hfit
    · have hstart : startOf columns (taken columns (front ++ [last])) w = 0 := by
        rw [taken_concat, startOf]
        split <;> split <;> omega
      rw [hstart, place_concat, if_neg (Nat.lt_irrefl 0)]
      exact .opens rfl (Nat.lt_of_not_le hfit)

/-! ## all widgets -/

/-- the rows that come of putting widgets of these widths behind one another -/
inductive Packed (columns : Nat) : List Nat → List GridRow → Prop
  | nil : Packed columns [] []
  | concat {ws : List Nat} {rows rows' : List GridRow} {w start : Nat}
      (packed : Packed columns ws rows) (one_le : 1 ≤ w) (le : w ≤ columns)
      (next : Next columns ws.length w rows start rows') : Packed columns (ws ++ [w]) rows'

/-- no row is empty, and none is too full -/
theorem Packed.used_mem {columns : Nat} {ws : List Nat} {rows : List GridRow}
    (h : Packed columns ws rows) : ∀ row ∈ rows, 1 ≤ row.used ∧ row.used ≤ columns := by
  induction h with
  | nil => exact fun row hrow => nomatch hrow
  | concat _ hw hle next ih =>
    cases next with
    | first _ => exact List.forall_mem_singleton.2 ⟨hw, hle⟩
    | @joins front last h fits =>
      subst h
      obtain ⟨hfront, hlast⟩ := List.forall_mem_append.1 ih
      have hused := (hlast last List.mem_cons_self).1
      refine List.forall_mem_append.2 ⟨hfront, List.forall_mem_singleton.2 ⟨?_, fits⟩⟩
      exact Nat.le_add_right_of_le hused
    | opens h _ =>
      subst h
      exact List.forall_mem_append.2 ⟨ih, List.forall_mem_singleton.2 ⟨hw, hle⟩⟩

theorem Packed.taken_le {columns : Nat} {ws : List Nat} {rows : List GridRow}
    (h : Packed columns ws rows) : taken columns rows ≤ columns := by
  rcases List.eq_nil_or_concat rows with rfl | ⟨front, last, rfl⟩
  · exact Nat.zero_le columns
  · rw [List.concat_eq_append] at h ⊢
    have hlast := h.used_mem last (List.mem_append_right _ List.mem_cons_self)
    rw [taken_concat]
    split <;> omega

variable {g : Grid}

theorem Fits.init {w : Nat} (h : (g.concat w).Fits) : g.Fits ∧ 1 ≤ w ∧ w ≤ g.columns where
  left := ⟨h.columns, fun v hv => h.widths v (List.mem_append_left _ hv)⟩
  right := h.widths w (List.mem_append_right _ List.mem_cons_self)

theorem next_concat_of_pos {w : Nat} (h : ∀ row ∈ g.rows, 0 < row.used) (hw : 1 ≤ w) :
    Next g.columns g.widths.length w g.rows (g.nextStart w) (g.concat w).rows := by
  rw [rows_concat]
  exact next_place _ _ h hw

/-- **The rows of a grid come of putting its widgets behind one another.** -/
theorem packed_rows (h : g.Fits) : Packed g.columns g.widths g.rows := by
  obtain ⟨columns, ws⟩ := g
  induction ws using List.reverseRec with
  | nil => exact .nil
  | append_singleton ws w ih =>
    obtain ⟨hinit, hw⟩ := Fits.init (g := ⟨columns, ws⟩) h
    have hpacked := ih hinit
    have hpos : ∀ row ∈ (⟨columns, ws⟩ : Grid).rows, 0 < row.used :=
      fun row hrow => (hpacked.used_mem row hrow).1
    exact .concat hpacked hw.1 hw.2 (next_concat_of_pos hpos hw.1)

theorem next_concat (h : g.Fits) {w : Nat} (hw : 1 ≤ w) :
    Next g.columns g.widths.length w g.rows (g.nextStart w) (g.concat w).rows :=
  next_concat_of_pos (fun row hrow => ((packed_rows h).used_mem row hrow).1) hw

/-! ## room for one widget more -/

theorem Packed.rows_eq_nil_iff {columns : Nat} {ws : List Nat} {rows : List GridRow}
    (h : Packed columns ws rows) : rows = [] ↔ ws = [] := by
  cases h with
  | nil => exact iff_of_true rfl rfl
  | concat _ _ _ next => cases next <;> simp

theorem remaining_of_rows_eq_nil (h : g.rows = []) : g.remaining = g.columns := by
  rw [remaining, h]
  rfl

theorem remaining_of_rows_eq_concat {front : List GridRow} {last : GridRow}
    (h : g.rows = front ++ [last]) : g.remaining = g.columns - last.used := by
  rw [remaining, h, List.getLast?_concat]

/-- the room of `g` tells where a widget of width `e` is put that `next` has behind those of `g` -/
structure Foretells (g next : Grid) (e : Nat) : Prop where
  first : g.widths = [] → g.rows = [] ∧ g.remaining = g.columns ∧ next.rows = [⟨[0], e⟩]
  /-- the rows stay, and the widget joins the last of them or opens another -/
  later : g.widths ≠ [] → ∃ front last, g.rows = front ++ [last] ∧
    (next.rows = front ++ [⟨last.widgets ++ [g.widths.length], last.used + e⟩]
      ↔ e ≤ g.remaining) ∧
    (next.rows = front ++ [last] ++ [⟨[g.widths.length], e⟩] ↔ g.remaining < e)
  full : g.remaining = 0 ↔ ∃ last, g.rows.getLast? = some last ∧ last.used = g.columns

theorem remaining_eq_zero_iff (h : g.Fits) :
    g.remaining = 0 ↔ ∃ last, g.rows.getLast? = some last ∧ last.used = g.columns := by
  rcases List.eq_nil_or_concat g.rows with hrows | ⟨front, last, hrows⟩
  · rw [remaining_of_rows_eq_nil hrows, hrows]
    have hcolumns := h.columns.1
    constructor
    · omega
    · exact fun ⟨last, hlast, _⟩ => nomatch hlast
  · rw [List.concat_eq_append] at hrows
    have hlast := (packed_rows h).used_mem last (hrows ▸ List.mem_append_right _ List.mem_cons_self)
    rw [remaining_of_rows_eq_concat hrows, hrows, List.getLast?_concat]
    constructor
    · exact fun hzero => ⟨last, rfl, by omega⟩
    · rintro ⟨_, hsame, hused⟩
      obtain rfl := Option.some.inj hsame
      omega

theorem foretells_concat (h : g.Fits) {w : Nat} (hw : 1 ≤ w) : g.Foretells (g.concat w) w where
  full := remaining_eq_zero_iff h
  first hnil := by
    have hrows := (packed_rows h).rows_eq_nil_iff.2 hnil
    refine ⟨hrows, remaining_of_rows_eq_nil hrows, ?_⟩
    rw [rows_concat, hrows, hnil]
    rfl
  later hne := by
    have hnext := next_concat h hw
    generalize (g.concat w).rows = rows, g.nextStart w = start at hnext ⊢
    cases hnext with
    | first hrows => exact absurd ((packed_rows h).rows_eq_nil_iff.1 hrows) hne
    | @joins front last hrows fits =>
      have hroom : w ≤ g.remaining := by
        rw [remaining_of_rows_eq_concat hrows]
        omega
      refine ⟨front, last, hrows, iff_of_true rfl hroom, iff_of_false ?_ (Nat.not_lt.2 hroom)⟩
      exact fun heq => by simpa using congrArg List.length heq
    | @opens front last hrows exceeds =>
      have hroom : g.remaining < w := by
        rw [remaining_of_rows_eq_concat hrows]
        omega
      refine ⟨front, last, hrows, iff_of_false ?_ (Nat.not_le.2 hroom), iff_of_true rfl hroom⟩
      exact fun heq => by simpa using congrArg List.length heq

theorem ofDeclared_concat (columns : Nat) (declared : List Nat) (w : Nat) :
    ofDeclared columns (declared ++ [w])
      = (ofDeclared columns declared).concat (effectiveWidth w columns) := by
  rw [ofDeclared, List.map_append]
  rfl

/-- **The room of a grid tells where the next widget goes.**  The widget joins the last row exactly
if it is no wider than the columns that are free, and else opens another; whatever its width, no
other row changes. -/
theorem foretells_ofDeclared (columns : Nat) (declared : List Nat) (w : Nat) :
    (ofDeclared columns declared).Foretells (ofDeclared columns (declared ++ [w]))
      (effectiveWidth w columns) := by
  rw [ofDeclared_concat]
  exact foretells_concat (fits_ofDeclared columns declared) (effectiveWidth_mem w columns).1

end WidgetBoard.Grid
