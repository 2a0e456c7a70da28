import WidgetBoard.Proofs.Greedy

/-!
# A new width for one widget

What is packed stays where it is, whatever comes behind it.  So a new width for a widget moves no
widget in front of it, and tells by itself where the widget goes: a row up, no row, or a row down.

* `Grid.rowOf?`       the row that a widget is in, by index;
* `Grid.withWidth`    a grid with a new width for one widget, packed anew;
* `Grid.Opens`        a widget is the first of a row;
* `Grid.KeepsFront`   the widgets in front of one are where they were;
* `Grid.Widest`       a width is the widest that keeps a widget from the next row.

Main statement: `Grid.widest_ofDeclared` (that width is the room of the widget).
-/

namespace WidgetBoard.Grid

variable {g g' : Grid} {rows : List GridRow} {columns used start i j k w : Nat} {ws vs : List Nat}

/-- the first of these rows that widget `i` is in -/
def rowIn? (rows : List GridRow) (i : Nat) : Option Nat :=
  rows.findIdx? fun row => i ∈ row.widgets

/-- the row that widget `i` is in -/
def rowOf? (g : Grid) (i : Nat) : Option Nat :=
  rowIn? g.rows i

/-- the grid packed anew with width `w` for widget `i` -/
def withWidth (g : Grid) (i w : Nat) : Grid :=
  ofDeclared g.columns (g.widths.set i w)

/-- widget `i` is the first of row `r` -/
def Opens (g : Grid) (i r : Nat) : Prop :=
  ∃ row, g.rows[r]? = some row ∧ row.widgets.head? = some i

/-- every widget in front of widget `i` starts where it did, in the row it was in -/
structure KeepsFront (g' g : Grid) (i : Nat) : Prop where
  usedBefore : g'.usedBefore.take i = g.usedBefore.take i
  rowOf : ∀ j < i, g'.rowOf? j = g.rowOf? j

/-- no wider than `m`, widget `i` stays in its row or moves up; any wider, it opens the next row -/
structure Widest (g : Grid) (i m : Nat) : Prop where
  le_columns : m ≤ g.columns
  width_le : ∃ v, g.widths[i]? = some v ∧ v ≤ m
  front : ∀ w, 1 ≤ w → w ≤ g.columns → (g.withWidth i w).KeepsFront g i
  row : ∃ r, g.rowOf? i = some r ∧ ∀ w, 1 ≤ w → w ≤ g.columns →
    ∃ r', (g.withWidth i w).rowOf? i = some r' ∧ (r' ≤ r ↔ w ≤ m) ∧
      (m < w → r' = r + 1 ∧ (g.withWidth i w).Opens i r')

theorem withWidth_ofDeclared (columns : Nat) (declared : List Nat) (i w : Nat) :
    (ofDeclared columns declared).withWidth i w = ofDeclared columns (declared.set i w) := by
  have hwidths := congrArg Grid.widths (fits_ofDeclared columns declared).ofDeclared_eq
  simp only [ofDeclared, effectiveWidth_clampColumns] at hwidths
  simp only [withWidth, ofDeclared, clampColumns_clampColumns, effectiveWidth_clampColumns,
    List.map_set, hwidths]

/-! ## what is packed stays -/

theorem usedBefore_append (columns : Nat) (ws vs : List Nat) :
    (⟨columns, ws ++ vs⟩ : Grid).usedBefore
      = (⟨columns, ws⟩ : Grid).usedBefore ++ starts columns (counter columns 0 ws) vs :=
  starts_append columns 0 ws vs

theorem rows_append (columns : Nat) (ws vs : List Nat) :
    (⟨columns, ws ++ vs⟩ : Grid).rows
      = pack columns (⟨columns, ws⟩ : Grid).rows ws.length (counter columns 0 ws) vs := by
  show pack columns [] 0 0 (ws ++ vs) = _
  rw [pack_append, Nat.zero_add]
  rfl

theorem rowIn?_concat_singleton (hij : j ≠ i) : rowIn? (rows ++ [⟨[i], w⟩]) j = rowIn? rows j := by
  rw [rowIn?, List.findIdx?_append]
  simp [rowIn?, hij]

theorem rowIn?_concat_joined {row : GridRow} (hij : j ≠ i) :
    rowIn? (rows ++ [⟨row.widgets ++ [i], w⟩]) j = rowIn? (rows ++ [row]) j := by
  rw [rowIn?, rowIn?, List.findIdx?_append, List.findIdx?_append]
  simp [hij]

/-- another widget is in the row it was in -/
theorem rowIn?_place (rows : List GridRow) (start w : Nat) (hij : j ≠ i) :
    rowIn? (place rows i start w) j = rowIn? rows j := by
  rcases List.eq_nil_or_concat rows with rfl | ⟨front, last, rfl⟩
  · show rowIn? ([] ++ [⟨[i], w⟩]) j = rowIn? [] j
    exact rowIn?_concat_singleton hij
  · rw [List.concat_eq_append, place_concat]
    split
    · exact rowIn?_concat_joined hij
    · exact rowIn?_concat_singleton hij

theorem rowIn?_pack (hj : j < i) : rowIn? (pack columns rows i used ws) j = rowIn? rows j := by
  induction ws generalizing rows i used with
  | nil => rfl
  | cons w ws ih => rw [pack, ih (Nat.lt_succ_of_lt hj), rowIn?_place _ _ _ (Nat.ne_of_lt hj)]

/-- a row only gains widgets -/
theorem exists_getElem?_place {row : GridRow} (h : rows[k]? = some row) :
    ∃ more used', (place rows i start w)[k]? = some ⟨row.widgets ++ more, used'⟩ := by
  rcases List.eq_nil_or_concat rows with rfl | ⟨front, last, rfl⟩
  · exact nomatch h
  · have hsame : row = ⟨row.widgets ++ [], row.used⟩ := by rw [List.append_nil]
    rw [List.concat_eq_append] at h ⊢
    obtain ⟨hlt, -⟩ := List.getElem?_eq_some_iff.1 h
    rw [place_concat]
    split
    · rw [List.length_append, List.length_singleton] at hlt
      rcases Nat.lt_succ_iff_lt_or_eq.1 hlt with hk | rfl
      · rw [List.getElem?_append_left hk] at h
        exact ⟨[], row.used, by rw [List.getElem?_append_left hk, h, ← hsame]⟩
      · rw [List.getElem?_concat_length] at h
        obtain rfl := Option.some.inj h
        exact ⟨[i], _, List.getElem?_concat_length⟩
    · exact ⟨[], row.used, by rw [List.getElem?_append_left hlt, h, ← hsame]⟩

theorem exists_getElem?_pack {row : GridRow} (h : rows[k]? = some row) :
    ∃ more used', (pack columns rows i used ws)[k]? = some ⟨row.widgets ++ more, used'⟩ := by
  induction ws generalizing rows i used row with
  | nil => exact ⟨[], row.used, by rw [pack, h, List.append_nil]⟩
  | cons w ws ih =>
    obtain ⟨more, used', hplaced⟩ := exists_getElem?_place h
    obtain ⟨more', used'', hpacked⟩ := ih hplaced
    exact ⟨more ++ more', used'', by rw [pack, hpacked, List.append_assoc]⟩

/-! ## the widgets in front -/

theorem rowOf?_append (columns : Nat) (vs : List Nat) (hj : j < ws.length) :
    (⟨columns, ws ++ vs⟩ : Grid).rowOf? j = (⟨columns, ws⟩ : Grid).rowOf? j := by
  rw [rowOf?, rows_append, rowIn?_pack hj, rowOf?]

theorem take_usedBefore_append (columns : Nat) (ws vs : List Nat) :
    (⟨columns, ws ++ vs⟩ : Grid).usedBefore.take ws.length = (⟨columns, ws⟩ : Grid).usedBefore := by
  have hlength : (⟨columns, ws⟩ : Grid).usedBefore.length = ws.length := length_starts _ _ _
  rw [usedBefore_append, ← hlength, List.take_left]

theorem keepsFront_append (columns : Nat) (ws vs vs' : List Nat) :
    KeepsFront ⟨columns, ws ++ vs'⟩ ⟨columns, ws ++ vs⟩ ws.length where
  usedBefore := by rw [take_usedBefore_append, take_usedBefore_append]
  rowOf j hj := by rw [rowOf?_append _ _ hj, rowOf?_append _ _ hj]

theorem opens_append {r : Nat} (vs : List Nat) (h : (⟨columns, ws⟩ : Grid).Opens i r) :
    (⟨columns, ws ++ vs⟩ : Grid).Opens i r := by
  obtain ⟨row, hrow, hhead⟩ := h
  rw [Opens, rows_append]
  obtain ⟨more, used, hpacked⟩ := exists_getElem?_pack hrow
  exact ⟨_, hpacked, by rw [List.head?_append, hhead]; rfl⟩

/-! ## the widget itself -/

/-- no row has a widget that is not packed yet -/
theorem rowIn?_eq_none (h : g.IsGreedy rows) (hi : g.widths.length ≤ i) : rowIn? rows i = none := by
  rw [rowIn?, List.findIdx?_eq_none_iff]
  intro row hrow
  have hmem : i ∈ row.widgets → i ∈ rows.flatMap (·.widgets) := fun hi =>
    List.mem_flatMap.2 ⟨row, hrow, hi⟩
  rw [h.order, List.mem_range] at hmem
  exact decide_eq_false fun hrow => Nat.not_lt.2 hi (hmem hrow)

theorem rowIn?_concat_self {row : GridRow} (h : rowIn? rows i = none) (hi : i ∈ row.widgets) :
    rowIn? (rows ++ [row]) i = some rows.length := by
  rw [rowIn?] at h ⊢
  rw [List.findIdx?_append, h]
  simp [hi]

/-- the row that a widget behind all others is put in, told by where it starts -/
def nextRow (g : Grid) (w : Nat) : Nat :=
  if 0 < g.nextStart w then g.rows.length - 1 else g.rows.length

theorem rowOf?_concat (h : g.Fits) (hw : 1 ≤ w) :
    (g.concat w).rowOf? g.widths.length = some (g.nextRow w) := by
  have hnext := next_concat h hw
  have hused := (packed_rows h).used_mem
  have hnone := rowIn?_eq_none ((isGreedy_iff h).2 rfl) (Nat.le_refl _)
  rw [rowOf?, nextRow]
  generalize (g.concat w).rows = rows', g.nextStart w = start at hnext ⊢
  cases hnext with
  | first hrows =>
    rw [hrows, if_neg (Nat.lt_irrefl 0)]
    show rowIn? ([] ++ [⟨[g.widths.length], w⟩]) g.widths.length = some 0
    exact rowIn?_concat_self rfl List.mem_cons_self
  | @joins front last hrows fits =>
    rw [hrows] at hused hnone ⊢
    have hlast : 0 < last.used := (hused last (List.mem_append_right _ List.mem_cons_self)).1
    rw [rowIn?, List.findIdx?_append, Option.or_eq_none_iff] at hnone
    rw [if_pos hlast, List.length_append, List.length_singleton, Nat.add_sub_cancel]
    exact rowIn?_concat_self hnone.1 (List.mem_append_right _ List.mem_cons_self)
  | opens hrows _ =>
    rw [hrows] at hnone
    rw [if_neg (Nat.lt_irrefl 0), hrows]
    exact rowIn?_concat_self hnone List.mem_cons_self

theorem opens_concat (h : g.nextStart w = 0) :
    (g.concat w).Opens g.widths.length g.rows.length := by
  refine ⟨⟨[g.widths.length], w⟩, ?_, rfl⟩
  rw [rows_concat, h]
  rcases List.eq_nil_or_concat g.rows with hrows | ⟨front, last, hrows⟩
  · rw [hrows]
    rfl
  · rw [hrows, List.concat_eq_append, place_concat, if_neg (Nat.lt_irrefl 0)]
    exact List.getElem?_concat_length

/-- a width moves a widget to the next row exactly if it is beyond the room -/
theorem nextRow_le_iff {v : Nat} (hv : 1 ≤ v) (hvc : v ≤ g.columns) (hw : 1 ≤ w)
    (hwc : w ≤ g.columns) :
    (g.nextRow w ≤ g.nextRow v ↔ w ≤ max (g.columns - g.nextStart v) 1) ∧
      (max (g.columns - g.nextStart v) 1 < w →
        g.nextRow w = g.nextRow v + 1 ∧ g.nextStart w = 0) := by
  have hrows : 0 < taken g.columns g.rows → 0 < g.rows.length := by
    cases g.rows with
    | nil => exact fun h => absurd h (Nat.lt_irrefl 0)
    | cons row rows => exact fun _ => Nat.succ_pos _
  -- either width goes on where the last row ends, if that leaves it room, or opens a row
  simp only [nextRow, nextStart, startOf]
  split_ifs <;> omega

/-! ## a widget with others behind it -/

section

variable {v : Nat}

theorem getElem?_usedBefore_split (columns v : Nat) (ws vs : List Nat) :
    (⟨columns, ws ++ v :: vs⟩ : Grid).usedBefore[ws.length]?
      = some ((⟨columns, ws⟩ : Grid).nextStart v) := by
  have hlength : (⟨columns, ws⟩ : Grid).usedBefore.length = ws.length := length_starts _ _ _
  rw [usedBefore_append, ← hlength, List.getElem?_append_right (Nat.le_refl _), Nat.sub_self,
    starts, counter_eq_taken ⟨columns, ws⟩]
  rfl

theorem rowOf?_split (h : (⟨columns, ws⟩ : Grid).Fits) (vs : List Nat) (hv : 1 ≤ v) :
    (⟨columns, ws ++ v :: vs⟩ : Grid).rowOf? ws.length
      = some ((⟨columns, ws⟩ : Grid).nextRow v) := by
  have hlt : ws.length < (ws ++ [v]).length := by simp
  rw [List.append_cons, rowOf?_append columns vs hlt]
  exact rowOf?_concat h hv

theorem withWidth_split (h : (⟨columns, ws ++ v :: vs⟩ : Grid).Fits) (hw : 1 ≤ w)
    (hwc : w ≤ columns) :
    (⟨columns, ws ++ v :: vs⟩ : Grid).withWidth ws.length w = ⟨columns, ws ++ w :: vs⟩ := by
  have hfits : (⟨columns, ws ++ w :: vs⟩ : Grid).Fits := by
    obtain ⟨hfront, hrest⟩ := List.forall_mem_append.1 h.widths
    have hbehind := (List.forall_mem_cons.1 hrest).2
    refine ⟨h.columns, List.forall_mem_append.2 ⟨hfront, ?_⟩⟩
    exact List.forall_mem_cons.2 ⟨⟨hw, hwc⟩, hbehind⟩
  have hset : (ws ++ v :: vs).set ws.length w = ws ++ w :: vs := by simp
  rw [withWidth, hset]
  exact hfits.ofDeclared_eq

theorem maxWidthAt?_split (columns v : Nat) (ws vs : List Nat) :
    (⟨columns, ws ++ v :: vs⟩ : Grid).maxWidthAt? ws.length
      = some (max (columns - (⟨columns, ws⟩ : Grid).nextStart v) 1) := by
  rw [maxWidthAt?, maxWidths, List.getElem?_map, getElem?_usedBefore_split]
  rfl

theorem widest_split (h : (⟨columns, ws ++ v :: vs⟩ : Grid).Fits) :
    Widest ⟨columns, ws ++ v :: vs⟩ ws.length
      (max (columns - (⟨columns, ws⟩ : Grid).nextStart v) 1) := by
  have hfront : (⟨columns, ws⟩ : Grid).Fits :=
    ⟨h.columns, fun x hx => h.widths x (List.mem_append_left _ hx)⟩
  have hget : (ws ++ v :: vs)[ws.length]? = some v := by simp
  obtain ⟨hv, hvc⟩ := h.widths v (List.mem_of_getElem? hget)
  obtain ⟨m, hm, hvm, hmc⟩ := exists_maxWidthAt? h hget
  obtain rfl := Option.some.inj ((maxWidthAt?_split columns v ws vs).symm.trans hm)
  refine ⟨hmc, ⟨v, hget, hvm⟩, fun w hw hwc => ?_, _, rowOf?_split hfront vs hv, fun w hw hwc => ?_⟩
  · rw [withWidth_split h hw hwc]
    exact keepsFront_append columns ws _ _
  · obtain ⟨hle, hnext⟩ := nextRow_le_iff (g := ⟨columns, ws⟩) hv hvc hw hwc
    rw [withWidth_split h hw hwc]
    refine ⟨_, rowOf?_split hfront vs hw, hle, fun hlt => ?_⟩
    obtain ⟨hrow, hstart⟩ := hnext hlt
    refine ⟨hrow, ?_⟩
    rw [List.append_cons, nextRow, if_neg (by rw [hstart]; exact Nat.lt_irrefl 0)]
    exact opens_append vs (opens_concat hstart)

end

theorem maxWidthAt?_eq_none_iff : g.maxWidthAt? i = none ↔ g.widths.length ≤ i := by
  rw [maxWidthAt?, List.getElem?_eq_none_iff, maxWidths, List.length_map, usedBefore, length_starts]

theorem one_le_of_maxWidthAt? {m : Nat} (h : g.maxWidthAt? i = some m) : 1 ≤ m := by
  rw [maxWidthAt?, maxWidths, List.getElem?_map] at h
  obtain ⟨used, -, rfl⟩ := Option.map_eq_some_iff.1 h
  exact Nat.le_max_right _ _

/-- a widget that has room stands between others -/
theorem exists_split_of_maxWidthAt? {m : Nat} (h : g.maxWidthAt? i = some m) :
    ∃ ws v vs, g = ⟨g.columns, ws ++ v :: vs⟩ ∧ ws.length = i ∧
      m = max (g.columns - (⟨g.columns, ws⟩ : Grid).nextStart v) 1 := by
  obtain ⟨columns, widths⟩ := g
  obtain ⟨v, hv⟩ : ∃ v, widths[i]? = some v := by
    rw [← Option.ne_none_iff_exists', Ne, List.getElem?_eq_none_iff]
    exact fun hle => nomatch h.symm.trans (maxWidthAt?_eq_none_iff.2 hle)
  obtain ⟨ws, vs, rfl, rfl⟩ := exists_split_of_getElem? hv
  exact ⟨ws, v, vs, rfl, rfl, Option.some.inj (h.symm.trans (maxWidthAt?_split columns v ws vs))⟩

theorem Fits.widest {m : Nat} (h : g.Fits) (hm : g.maxWidthAt? i = some m) : g.Widest i m := by
  obtain ⟨ws, v, vs, hg, rfl, rfl⟩ := exists_split_of_maxWidthAt? hm
  rw [hg] at h ⊢
  exact widest_split h

/-- a width that was cut to the room is not cut again, wherever the widget is then -/
theorem Fits.exists_maxWidthAt?_withWidth {m : Nat} (h : g.Fits) (hm : g.maxWidthAt? i = some m)
    (w : Nat) : ∃ m', (g.withWidth i (max 1 (min w m))).maxWidthAt? i = some m' ∧
      max 1 (min w m') = max 1 (min w m) := by
  have hmc := (h.widest hm).le_columns
  obtain ⟨ws, v, vs, hg, rfl, rfl⟩ := exists_split_of_maxWidthAt? hm
  generalize g.columns = columns at hg hmc ⊢
  subst hg
  have hvc := h.widths v (List.mem_append_right _ List.mem_cons_self)
  rw [withWidth_split h (Nat.le_max_left _ _) (by have := h.columns; omega)]
  refine ⟨_, maxWidthAt?_split _ _ _ _, ?_⟩
  -- the widget starts where it did, or moves up and then fits in front of the end of its row
  simp only [nextStart, startOf]
  split_ifs <;> omega

/-- **The room of a widget is the widest that keeps it from the next row.**  No wider, it stays in
its row or moves up; any wider, it opens the next.  Every widget has room, and nothing else has. -/
theorem widest_ofDeclared (columns : Nat) (declared : List Nat) (i : Nat) :
    ((ofDeclared columns declared).maxWidthAt? i = none ↔ declared.length ≤ i) ∧
      (ofDeclared columns declared).maxWidths[i]? = (ofDeclared columns declared).maxWidthAt? i ∧
      ∀ m, (ofDeclared columns declared).maxWidthAt? i = some m →
        (ofDeclared columns declared).Widest i m := by
  refine ⟨?_, rfl, fun m hm => (fits_ofDeclared columns declared).widest hm⟩
  rw [maxWidthAt?_eq_none_iff, length_widths_ofDeclared]

/-- a widget that did not fit behind another has a row to itself -/
theorem widest_ofDeclared_wrapped :
    (ofDeclared 4 [3, 2]).maxWidthAt? 1 = some 4 ∧ (ofDeclared 4 [3, 2]).Widest 1 4 :=
  ⟨by decide, (widest_ofDeclared 4 [3, 2] 1).2.2 4 (by decide)⟩

end WidgetBoard.Grid
