import Mathlib.Algebra.GroupWithZero.Nat
import Mathlib.Data.List.Chain
import WidgetBoard.Proofs.Packing

/-!
# Rows packed greedily

The rows of a grid hold all widgets in order, each row as many as fit.  No other rows do that, and
no way to divide the widgets into runs that fit makes do with fewer rows.

* `Grid.span`        the columns that widgets take, by index;
* `Grid.Overflows`   the first widget of a row does not fit behind another row;
* `Grid.Tight`       rows that are not empty and not too full, each too full for the next one;
* `Grid.IsGreedy`    such rows with all widgets of the grid in order;
* `Grid.Divides`     consecutive runs of all widgets, each of which fits in a row.

Main statements: `Grid.isGreedy_iff` (the rows of a grid are the only greedy ones),
`Grid.IsGreedy.length_le` (they are the fewest).
-/

namespace WidgetBoard.Grid

variable {g : Grid} {rows rows' : List GridRow} {row row' : GridRow} {w : Nat}

/-- the columns that the widgets with these indices take -/
def span (g : Grid) (is : List Nat) : Nat :=
  (is.map fun i => g.widths.getD i 0).sum

theorem span_append (g : Grid) (is js : List Nat) : g.span (is ++ js) = g.span is + g.span js := by
  rw [span, List.map_append, List.sum_append]
  rfl

theorem span_cons (g : Grid) (i : Nat) (is : List Nat) :
    g.span (i :: is) = g.widths.getD i 0 + g.span is := by
  rw [span, List.map_cons, List.sum_cons]
  rfl

/-- the first widget of the next row does not fit behind this one -/
def Overflows (g : Grid) (row next : GridRow) : Prop :=
  ∃ i w, next.widgets.head? = some i ∧ g.widths[i]? = some w ∧ g.columns < row.used + w

structure Tight (g : Grid) (rows : List GridRow) : Prop where
  nonempty : ∀ row ∈ rows, row.widgets ≠ []
  used : ∀ row ∈ rows, row.used = g.span row.widgets
  fits : ∀ row ∈ rows, row.used ≤ g.columns
  full : rows.IsChain g.Overflows

structure IsGreedy (g : Grid) (rows : List GridRow) : Prop where
  order : rows.flatMap (·.widgets) = List.range g.widths.length
  tight : g.Tight rows

/-- the widgets in order, in runs that each fit in a row -/
structure Divides (g : Grid) (runs : List (List Nat)) : Prop where
  order : runs.flatten = List.range g.widths.length
  fits : ∀ run ∈ runs, g.span run ≤ g.columns

/-! ## one widget more -/

theorem span_concat_of_lt {is : List Nat} (h : ∀ i ∈ is, i < g.widths.length) :
    (g.concat w).span is = g.span is := by
  refine congrArg List.sum (List.map_congr_left fun i hi => ?_)
  show (g.widths ++ [w]).getD i 0 = g.widths.getD i 0
  rw [List.getD_eq_getElem?_getD, List.getD_eq_getElem?_getD, List.getElem?_append_left (h i hi)]

theorem span_concat_last (g : Grid) (w : Nat) : (g.concat w).span [g.widths.length] = w := by
  rw [span_cons]
  show (g.widths ++ [w]).getD g.widths.length 0 + 0 = w
  rw [Nat.add_zero, List.getD_eq_getElem?_getD, List.getElem?_concat_length]
  rfl

theorem Overflows.concat (h : g.Overflows row row') : (g.concat w).Overflows row row' := by
  obtain ⟨i, v, hi, hv, hlt⟩ := h
  obtain ⟨hilt, -⟩ := List.getElem?_eq_some_iff.1 hv
  exact ⟨i, v, hi, (List.getElem?_append_left hilt).trans hv, hlt⟩

/-- a widget behind a row that is there does not become its first -/
theorem Overflows.joined (h : g.Overflows row row') (i used : Nat) :
    g.Overflows row ⟨row'.widgets ++ [i], used⟩ := by
  obtain ⟨j, v, hj, hv⟩ := h
  refine ⟨j, v, ?_, hv⟩
  rw [List.head?_append, hj]
  rfl

theorem Next.flatMap_widgets {columns i start : Nat} (h : Next columns i w rows start rows') :
    rows'.flatMap (·.widgets) = rows.flatMap (·.widgets) ++ [i] := by
  cases h with
  | first h => simp [h]
  | joins h _ => simp [h]
  | opens h _ => simp [h]

/-- with one widget more, rows stay as they are -/
theorem Tight.concat (h : g.Tight rows)
    (hlt : ∀ row ∈ rows, ∀ i ∈ row.widgets, i < g.widths.length) : (g.concat w).Tight rows where
  nonempty := h.nonempty
  used row hrow := (h.used row hrow).trans (span_concat_of_lt (hlt row hrow)).symm
  fits := h.fits
  full := h.full.imp fun _ _ => Overflows.concat

/-- rows in front of the last may be followed by another, if that one is right -/
theorem Tight.concat_row {front : List GridRow} (h : g.Tight front) (hne : row.widgets ≠ [])
    (hused : row.used = g.span row.widgets) (hfits : row.used ≤ g.columns)
    (hfull : ∀ last ∈ front.getLast?, g.Overflows last row) : g.Tight (front ++ [row]) where
  nonempty := List.forall_mem_append.2 ⟨h.nonempty, List.forall_mem_singleton.2 hne⟩
  used := List.forall_mem_append.2 ⟨h.used, List.forall_mem_singleton.2 hused⟩
  fits := List.forall_mem_append.2 ⟨h.fits, List.forall_mem_singleton.2 hfits⟩
  full := by
    refine List.isChain_append.2 ⟨h.full, List.isChain_singleton row, fun last hlast r hr => ?_⟩
    obtain rfl : row = r := Option.some.inj hr
    exact hfull last hlast

theorem Tight.init {front : List GridRow} {last : GridRow} (h : g.Tight (front ++ [last])) :
    g.Tight front where
  nonempty := (List.forall_mem_append.1 h.nonempty).1
  used := (List.forall_mem_append.1 h.used).1
  fits := (List.forall_mem_append.1 h.fits).1
  full := (List.isChain_append.1 h.full).1

/-- **A widget put behind greedy rows leaves greedy rows.** -/
theorem IsGreedy.next {start : Nat} (h : g.IsGreedy rows) (hle : w ≤ g.columns)
    (hnext : Next g.columns g.widths.length w rows start rows') : (g.concat w).IsGreedy rows' where
  order := by
    have hlength : (g.concat w).widths.length = g.widths.length + 1 := List.length_append
    rw [hnext.flatMap_widgets, h.order, hlength, List.range_succ]
  tight := by
    have hlt : ∀ row ∈ rows, ∀ i ∈ row.widgets, i < g.widths.length := by
      intro row hrow i hi
      have hmem : i ∈ rows.flatMap (·.widgets) := List.mem_flatMap.2 ⟨row, hrow, hi⟩
      rw [h.order] at hmem
      exact List.mem_range.1 hmem
    have hold : (g.concat w).Tight rows := h.tight.concat hlt
    have hself := (span_concat_last g w).symm
    cases hnext with
    | first hrows =>
      refine (hrows ▸ hold).concat_row ?_ hself hle ?_
      · exact List.cons_ne_nil _ _
      · exact fun _ hlast => nomatch hlast
    | @joins front last hrows fits =>
      subst hrows
      have hmem : last ∈ front ++ [last] := List.mem_append_right _ List.mem_cons_self
      refine hold.init.concat_row (fun he => ?_) ?_ fits fun r hr => ?_
      · exact List.cons_ne_nil _ _ (List.append_eq_nil_iff.1 he).2
      · rw [span_append, ← hself, ← hold.used last hmem]
      · exact ((List.isChain_append.1 hold.full).2.2 r hr last rfl).joined _ _
    | @opens front last hrows exceeds =>
      subst hrows
      refine hold.concat_row (List.cons_ne_nil _ _) hself hle fun r hr => ?_
      rw [List.getLast?_concat] at hr
      obtain rfl := Option.some.inj hr
      exact ⟨_, w, rfl, List.getElem?_concat_length, exceeds⟩

theorem Packed.isGreedy {columns : Nat} {ws : List Nat} (h : Packed columns ws rows) :
    IsGreedy ⟨columns, ws⟩ rows := by
  induction h with
  | nil =>
    have hempty {p : GridRow → Prop} : ∀ row ∈ ([] : List GridRow), p row := List.forall_mem_nil _
    exact ⟨rfl, hempty, hempty, hempty, .nil⟩
  | concat _ _ hle next ih => exact ih.next hle next

/-! ## the only ones -/

/-- what follows a row cannot be taken into it -/
theorem Tight.eq_nil {is js : List Nat} (h : g.Tight (row :: rows))
    (hflat : rows.flatMap (·.widgets) = is ++ js) (hfits : g.span (row.widgets ++ is) ≤ g.columns) :
    is = [] := by
  cases is with
  | nil => rfl
  | cons i is =>
    cases rows with
    | nil => exact nomatch hflat
    | cons next rows =>
      obtain ⟨⟨j, v, hj, hv, hlt⟩, -⟩ := List.isChain_cons_cons.1 h.full
      have hij : i = j := by
        have hhead := congrArg List.head? hflat
        rw [List.flatMap_cons, List.head?_append, hj] at hhead
        exact (Option.some.inj hhead).symm
      have hwidth : g.widths.getD i 0 = v := by rw [hij, List.getD_eq_getElem?_getD, hv]; rfl
      rw [span_append, span_cons, hwidth, ← h.used row List.mem_cons_self] at hfits
      omega

theorem Tight.tail (h : g.Tight (row :: rows)) : g.Tight rows where
  nonempty r hr := h.nonempty r (List.mem_cons_of_mem _ hr)
  used r hr := h.used r (List.mem_cons_of_mem _ hr)
  fits r hr := h.fits r (List.mem_cons_of_mem _ hr)
  full := h.full.tail

theorem Tight.span_le (h : g.Tight (row :: rows)) : g.span row.widgets ≤ g.columns :=
  h.used row List.mem_cons_self ▸ h.fits row List.mem_cons_self

/-- of two such tight of the same widgets neither has a longer row -/
theorem Tight.eq_of_flatMap_eq (h : g.Tight rows) (h' : g.Tight rows')
    (hflat : rows.flatMap (·.widgets) = rows'.flatMap (·.widgets)) : rows = rows' := by
  induction rows generalizing rows' with
  | nil =>
    cases rows' with
    | nil => rfl
    | cons row' rows' =>
      have hnil := (List.append_eq_nil_iff.1 hflat.symm).1
      exact absurd hnil (h'.nonempty row' List.mem_cons_self)
  | cons row rows ih =>
    cases rows' with
    | nil =>
      have hnil := (List.append_eq_nil_iff.1 hflat).1
      exact absurd hnil (h.nonempty row List.mem_cons_self)
    | cons row' rows' =>
      rw [List.flatMap_cons, List.flatMap_cons] at hflat
      have hwidgets : row.widgets = row'.widgets := by
        rcases List.append_eq_append_iff.1 hflat with ⟨is, hrow, hrest⟩ | ⟨is, hrow, hrest⟩
        · have his := h.eq_nil hrest (hrow ▸ h'.span_le)
          rw [hrow, his, List.append_nil]
        · have his := h'.eq_nil hrest (hrow ▸ h.span_le)
          rw [hrow, his, List.append_nil]
      have hused : row.used = row'.used := by
        rw [h.used row List.mem_cons_self, h'.used row' List.mem_cons_self, hwidgets]
      rw [hwidgets] at hflat
      have hrest := ih h.tail h'.tail (List.append_cancel_left hflat)
      cases row
      cases row'
      cases hwidgets
      cases hused
      rw [hrest]

/-- **The rows of a grid are the greedy ones**, and no others are. -/
theorem isGreedy_iff (h : g.Fits) : g.IsGreedy rows ↔ rows = g.rows := by
  have hself : g.IsGreedy g.rows := (packed_rows h).isGreedy
  constructor
  · exact fun hrows => hrows.tight.eq_of_flatMap_eq hself.tight (hrows.order.trans hself.order.symm)
  · rintro rfl
    exact hself

/-! ## the fewest -/

/-- runs that hold what the rows hold, and more in front of it, are no fewer -/
theorem Tight.length_le {runs : List (List Nat)} {more : List Nat} (h : g.Tight rows)
    (hflat : runs.flatten = more ++ rows.flatMap (·.widgets))
    (hfits : ∀ run ∈ runs, g.span run ≤ g.columns) : rows.length ≤ runs.length := by
  induction runs generalizing rows more with
  | nil =>
    have hnil := (List.append_eq_nil_iff.1 hflat.symm).2
    cases rows with
    | nil => exact Nat.le_refl 0
    | cons row rows =>
      exact absurd (List.append_eq_nil_iff.1 hnil).1 (h.nonempty row List.mem_cons_self)
  | cons run runs ih =>
    cases rows with
    | nil => exact Nat.zero_le _
    | cons row rows =>
      rw [List.flatten_cons, List.flatMap_cons, ← List.append_assoc] at hflat
      have hrun : g.span run ≤ g.columns := hfits run List.mem_cons_self
      -- the first run ends where the first row ends, or before
      have hrest : ∃ more', runs.flatten = more' ++ rows.flatMap (·.widgets) := by
        rcases List.append_eq_append_iff.1 hflat with ⟨is, -, hrest⟩ | ⟨is, hall, hrest⟩
        · exact ⟨is, hrest⟩
        · have hspan : g.span (row.widgets ++ is) ≤ g.columns := by
            rw [hall, List.append_assoc, span_append] at hrun
            exact Nat.le_trans (Nat.le_add_left _ _) hrun
          rw [h.eq_nil hrest hspan] at hrest
          exact ⟨[], hrest.symm⟩
      obtain ⟨more', hrest⟩ := hrest
      have hle := ih h.tail hrest fun r hr => hfits r (List.mem_cons_of_mem _ hr)
      exact Nat.succ_le_succ hle

/-- **No division of the widgets has fewer runs** than there are greedy rows. -/
theorem IsGreedy.length_le {runs : List (List Nat)} (h : g.IsGreedy rows) (hruns : g.Divides runs) :
    rows.length ≤ runs.length := by
  have hflat : runs.flatten = [] ++ rows.flatMap (·.widgets) := hruns.order.trans h.order.symm
  exact h.tight.length_le hflat hruns.fits

end WidgetBoard.Grid
