import WidgetBoard.Proofs.ByteGrid
import WidgetBoard.Proofs.Doubles
import WidgetBoard.Proofs.Resized

/-!
# A widget dragged

A drag sets the width that a widget takes up in its section, made longer or shorter by the cells
that the pointer moved over, as far as the row has room.  Pixels that tell no number of cells leave
the width that was taken up.

* `PointerDrag.Tells p n`        in `n` columns, the pixels of `p` tell a number of cells;
* `PointerDrag.cells p n`        how many cells the pointer moved over there;
* `ByteGrid.draggedWidth?`       the width after a drag in bytes, where no step may fail;
* `Section.Dragged s t w i p x`  `p` drags widget `i` of `s` to the width `x`, which leaves `t`.

Main statements: `Action.answers_drag` (any drag of a widget that is there), and
`Action.answers_drag_still` (one that ends where it began).
-/

namespace WidgetBoard

/-! ## cells -/

namespace PointerDrag

def pixels (p : PointerDrag) (columns : Nat) : GridPixels :=
  { width := p.gridWidth, gap := p.gap, columns := columns }

/-- there is a cell to measure with, and the distance is not infinite nor no number; rounding makes
a finite number of cells of a finite one, and none of another -/
structure Tells (p : PointerDrag) (columns : Nat) : Prop where
  positive : 0.0 < (p.pixels columns).cellWidth
  finite : (p.pixels columns).cellWidth.isFinite = true
  distance : ((p.pointerX - p.startX) / (p.pixels columns).cellWidth).isFinite = true

def cells (p : PointerDrag) (columns : Nat) : Int :=
  draggedCells (p.pixels columns) p.startX p.pointerX

variable {p : PointerDrag} {n : Nat}

theorem cells_of_tells (h : p.Tells n) :
    p.cells n = roundAway ((p.pointerX - p.startX) / (p.pixels n).cellWidth) := by
  have hpos : decide ((p.pixels n).cellWidth > 0.0) = true := decide_eq_true h.positive
  simp only [cells, draggedCells, hpos, h.finite, h.distance, Bool.and_self, if_true]

theorem cells_of_not_tells (h : ¬ p.Tells n) : p.cells n = 0 := by
  simp only [cells, draggedCells]
  split
  · next hcell =>
    obtain ⟨hpos, hfin⟩ := Bool.and_eq_true_iff.1 hcell
    split
    · next hdist => exact absurd ⟨of_decide_eq_true hpos, hfin, hdist⟩ h
    · rfl
  · rfl

end PointerDrag

/-! ## bytes -/

namespace ByteGrid

/-- brings a number between two bounds, which must be in order -/
def clamp? (n : Int) (low high : UInt8) : Option UInt8 :=
  if low ≤ high then some (.ofNat (max (low.toNat : Int) (min n high.toNat)).toNat) else none

/-- the width of widget `i` after a drag over some cells -/
def draggedWidth? (b : ByteGrid) (i : Nat) (cells : Int) : Option UInt8 := do
  let start ← b.widths[i]?
  let rooms ← b.maxWidths?
  let room ← rooms[i]?
  clamp? (start.toNat + cells) 1 (max room 1)

theorem exists_clamp? (n : Int) {high : UInt8} (h : 1 ≤ high) :
    ∃ w, clamp? n 1 high = some w ∧ w.toNat = (max 1 (min n high.toNat)).toNat := by
  refine ⟨_, if_pos h, ?_⟩
  have hone : (1 : UInt8).toNat = 1 := rfl
  have hhigh := high.toNat_lt
  rw [UInt8.toNat_ofNat', hone]
  exact Nat.mod_eq_of_lt (by omega)

theorem exists_draggedWidth? {b : ByteGrid} {g : Grid} {i start m : Nat} (h : b.Computes g)
    (hwidths : b.widths.map UInt8.toNat = g.widths) (hstart : g.widths[i]? = some start)
    (hm : g.maxWidthAt? i = some m) (cells : Int) :
    ∃ w, b.draggedWidth? i cells = some w ∧ w.toNat = clampWidth (start + cells) m := by
  obtain ⟨rooms, hrooms, hmap⟩ := Option.map_eq_some_iff.1 h.maxWidths
  rw [Grid.maxWidthAt?, ← hmap, List.getElem?_map] at hm
  obtain ⟨room, hroom, rfl⟩ := Option.map_eq_some_iff.1 hm
  rw [← hwidths, List.getElem?_map] at hstart
  obtain ⟨width, hwidth, rfl⟩ := Option.map_eq_some_iff.1 hstart
  have hhigh : 1 ≤ max room 1 := by
    rw [UInt8.le_iff_toNat_le, UInt8.toNat_max]
    exact Nat.le_max_right _ _
  obtain ⟨w, hw, hnat⟩ := exists_clamp? (width.toNat + cells) hhigh
  refine ⟨w, ?_, ?_⟩
  · simp only [draggedWidth?, hwidth, hrooms, hroom, Option.bind_eq_bind, Option.bind_some]
    exact hw
  · rw [hnat, UInt8.toNat_max]
    rfl

end ByteGrid

namespace Section

/-- the grid of the section in bytes -/
def byteGrid (s : Section) (columns : UInt8) : ByteGrid :=
  .ofDeclared columns (s.widgets.map fun v => .ofNat v.size.width.val)

theorem computes_byteGrid {s : Section} {columns : UInt8} (h : columns.toNat = s.columns) :
    (s.byteGrid columns).Computes s.grid ∧
      (s.byteGrid columns).widths.map UInt8.toNat = s.grid.widths := by
  have hdeclared : (s.widgets.map fun v => UInt8.ofNat v.size.width.val).map UInt8.toNat
      = s.widgets.map fun v => v.size.width.val := by
    rw [List.map_map]
    refine List.map_congr_left fun v _ => ?_
    have hfour := v.size.width.le_four
    rw [Function.comp_apply, UInt8.toNat_ofNat', Nat.mod_eq_of_lt (by omega)]
  have hgrid : s.grid = .ofDeclared columns.toNat
      ((s.widgets.map fun v => UInt8.ofNat v.size.width.val).map UInt8.toNat) := by
    rw [hdeclared, h]
    rfl
  rw [hgrid]
  exact ⟨ByteGrid.computes_ofDeclared _ _, congrArg Grid.widths (ByteGrid.grid_ofDeclared _ _)⟩

end Section

/-! ## sections -/

namespace Section

/-- a drag of widget `i` of `s`, the first with the id `w`, leaves `t` and there the width `x` -/
structure Dragged (s t : Section) (w : String) (i : Nat) (p : PointerDrag) (x : Span) : Prop where
  /-- nothing is changed but the declared width of widgets with that id -/
  edit : t = s.withWidgetWidth w x.val
  widget : ∃ v, t.widgets[i]? = some v ∧ v.id = w ∧ v.size.width = x
  room : ∃ m, s.grid.maxWidthAt? i = some m ∧ 1 ≤ x.val ∧ x.val ≤ m
  told : p.Tells s.columns → ∃ start m, s.grid.widths[i]? = some start ∧
    s.grid.maxWidthAt? i = some m ∧ x.val = clampWidth
      (start + roundAway ((p.pointerX - p.startX) / (p.pixels s.columns).cellWidth)) m
  /-- where the pixels tell nothing, it is the width that the widget takes up -/
  untold : ¬ p.Tells s.columns → s.grid.widths[i]? = some x.val
  /-- no step fails that is made in bytes -/
  bytes : ∀ columns : UInt8, columns.toNat = s.columns →
    (s.byteGrid columns).draggedWidth? i (p.cells s.columns) = some (.ofNat x.val)

variable {s : Section} {v : Widget} {w : String} {i start m : Nat}

theorem exists_of_widgetIndex? (hi : s.widgetIndex? w = some i) :
    ∃ v, s.widgets[i]? = some v ∧ v.id = w := by
  obtain ⟨hlt, hid, -⟩ := List.findIdx?_eq_some_iff_getElem.1 hi
  exact ⟨_, List.getElem?_eq_getElem hlt, by simpa using hid⟩

theorem getElem?_widths_grid (hv : s.widgets[i]? = some v) :
    s.grid.widths[i]? = some (effectiveWidth v.size.width.val s.columns) := by
  rw [grid, Grid.ofDeclared, List.getElem?_map, List.getElem?_map, hv]
  rfl

/-- a widget takes up at least one column and has at least that room, and at most four -/
theorem exists_start_room (hv : s.widgets[i]? = some v) :
    ∃ start m, s.grid.widths[i]? = some start ∧ s.grid.maxWidthAt? i = some m ∧
      1 ≤ start ∧ start ≤ m ∧ m ≤ 4 := by
  have hstart := getElem?_widths_grid hv
  obtain ⟨m, hm, hle, hmc⟩ := Grid.exists_maxWidthAt? s.fits_grid hstart
  exact ⟨_, m, hstart, hm, (effectiveWidth_mem _ _).1, hle,
    Nat.le_trans hmc s.fits_grid.columns.2⟩

theorem dragged?_eq (hi : s.widgetIndex? w = some i) (hstart : s.grid.widths[i]? = some start)
    (hm : s.grid.maxWidthAt? i = some m) (p : PointerDrag) :
    s.dragged? w p = some ⟨w, clampWidth (start + p.cells s.columns) m⟩ := by
  simp only [dragged?, hi, Option.bind_eq_bind, Option.bind_some, Gesture.begin, hstart, hm]
  rfl

/-- what is within the room is a span -/
theorem val_clamp_of_le {n : Nat} (h1 : 1 ≤ n) (hn : n ≤ m) (hm : m ≤ 4) :
    (Span.clamp n).val = n := by
  rw [Span.val_clamp]
  omega

theorem getElem?_withWidgetWidth (hv : s.widgets[i]? = some v) (x : Span) :
    (s.withWidgetWidth v.id x.val).widgets[i]? = some (v.withWidth x) := by
  rw [withWidgetWidth, List.getElem?_map, hv, Option.map_some, if_pos rfl, Span.clamp_val]
  rfl

theorem exists_dragged (hi : s.widgetIndex? w = some i)
    (hstart : s.grid.widths[i]? = some start) (hm : s.grid.maxWidthAt? i = some m)
    (p : PointerDrag) :
    ∃ x, s.Dragged (s.withWidgetWidth w (clampWidth (start + p.cells s.columns) m)) w i p x := by
  obtain ⟨v, hv, rfl⟩ := exists_of_widgetIndex? hi
  obtain ⟨start', m', hstart', hm', hone, hle, hfour⟩ := exists_start_room hv
  obtain rfl := Option.some.inj (hstart.symm.trans hstart')
  obtain rfl := Option.some.inj (hm.symm.trans hm')
  obtain ⟨hlow, hhigh⟩ := clampWidth_mem (start + p.cells s.columns) m
  have hroom : clampWidth (start + p.cells s.columns) m ≤ m := by omega
  obtain ⟨x, hx⟩ : ∃ x : Span, x.val = clampWidth (start + p.cells s.columns) m :=
    ⟨_, val_clamp_of_le hlow hroom hfour⟩
  rw [← hx]
  refine ⟨x,
    { edit := rfl
      widget := ⟨v.withWidth x, getElem?_withWidgetWidth hv x, rfl, rfl⟩
      room := ⟨m, hm, x.one_le, by omega⟩
      told := fun htells => ⟨start, m, hstart, hm, ?_⟩
      untold := fun hnot => ?_
      bytes := fun columns hcolumns => ?_ }⟩
  · rw [hx, PointerDrag.cells_of_tells htells]
  · -- what it takes up is within the room
    have hsame : x.val = start := by
      rw [hx, PointerDrag.cells_of_not_tells hnot, clampWidth]
      omega
    rw [hsame, hstart]
  · obtain ⟨hcomputes, hwidths⟩ := s.computes_byteGrid hcolumns
    obtain ⟨n, hn, hnat⟩ :=
      ByteGrid.exists_draggedWidth? hcomputes hwidths hstart hm (p.cells s.columns)
    rw [hn, hx, ← hnat, UInt8.ofNat_toNat]

end Section

/-! ## a width set again -/

/-- a declared width is cut by the columns alone -/
theorem Span.effectiveWidth_val (x : Span) (n : Nat) :
    effectiveWidth x.val n = min x.val (clampColumns n) := by
  have hone := x.one_le
  have hfour := x.le_four
  rw [effectiveWidth, maxColumns]
  omega

namespace Section

variable {s : Section} {v : Widget} {i : Nat}

theorem grid_withWidth_self {x : Span} (hx : s.grid.widths[i]? = some x.val) :
    (s.withWidth i x).grid = s.grid := by
  obtain ⟨hlt, hget⟩ := List.getElem?_eq_some_iff.1 hx
  have hset : s.grid.widths.set i x.val = s.grid.widths := by
    rw [← hget, List.set_getElem_self]
  rw [grid_withWidth, Grid.withWidth, hset]
  exact s.fits_grid.ofDeclared_eq

/-- a section is as it was where the width was declared before, and only there -/
theorem withWidth_eq_self_iff (hv : s.widgets[i]? = some v) (y : Span) :
    s.withWidth i y = s ↔ y = v.size.width := by
  constructor
  · intro h
    have hget := getElem?_withWidth hv y
    rw [h, hv] at hget
    exact (congrArg (fun u : Widget => u.size.width) (Option.some.inj hget)).symm
  · rintro rfl
    have hsame : s.widgets.modify i (fun u => u.withWidth v.size.width) = s.widgets := by
      rw [List.modify_eq_set_getElem?, hv]
      show s.widgets.set i v = s.widgets
      obtain ⟨hlt, rfl⟩ := List.getElem?_eq_some_iff.1 hv
      exact List.set_getElem_self hlt
    rw [withWidth, hsame]

end Section

namespace Dashboard

variable {d : Dashboard} {s t : Section} {k : Nat}

theorem withSectionAt_eq_self_iff (hs : d.sections[k]? = some s) :
    d.withSectionAt k t = d ↔ t = s := by
  constructor
  · intro h
    have hget := getElem?_withSectionAt (t := t) hs
    rw [h, hs] at hget
    exact (Option.some.inj hget).symm
  · rintro rfl
    obtain ⟨hlt, rfl⟩ := List.getElem?_eq_some_iff.1 hs
    rw [withSectionAt, List.set_getElem_self]

end Dashboard

/-! ## requests -/

namespace Action

variable {d : Dashboard} {s : Section} {v : Widget} {x w : String} {i k start m : Nat}

theorem editsSection_drag (hs : d.section? x = some s) (hi : s.widgetIndex? w = some i)
    (hstart : s.grid.widths[i]? = some start) (hm : s.grid.maxWidthAt? i = some m)
    (p : PointerDrag) :
    (drag x w p).EditsSection x d
      (d.withSection (s.withWidgetWidth w (clampWidth (start + p.cells s.columns) m))) := by
  refine ⟨_, rfl, editSection_eq_ok hs ?_⟩
  rw [Section.dragged?_eq hi hstart hm p]
  rfl

/-- **No drag makes a widget too wide for its row**, whatever is in the pixels, and nothing else is
changed. -/
theorem answers_drag {d : Dashboard} {s : Section} {x w : String} {i : Nat}
    (hs : d.section? x = some s) (hi : s.widgetIndex? w = some i) (newId id : String)
    (p : PointerDrag) :
    ∃ t y before after, s.Dragged t w i p y ∧ d.sections = before ++ s :: after ∧
      (drag x w p).Answers newId id d { d with sections := before ++ t :: after } := by
  obtain ⟨v, hv, -⟩ := Section.exists_of_widgetIndex? hi
  obtain ⟨start, m, hstart, hm, -⟩ := Section.exists_start_room hv
  have hedit := editsSection_drag hs hi hstart hm p
  have hid : (s.withWidgetWidth w (clampWidth (start + p.cells s.columns) m)).id = x := by
    show s.id = x
    exact Dashboard.id_of_section? hs
  obtain ⟨y, hdragged⟩ := Section.exists_dragged hi hstart hm p
  generalize s.withWidgetWidth w (clampWidth (start + p.cells s.columns) m) = t at *
  obtain ⟨before, after, hd, ht⟩ := d.exists_withSection_eq t
  rw [hid, hs, Option.toList_some, List.append_assoc, List.singleton_append] at hd
  refine ⟨t, y, before, after, hdragged, hd, ?_⟩
  rw [← ht]
  exact hedit.answers newId id

/-- a pointer at no number, and then one so far away that the room ends the drag; widgets with the
same id get one width -/
theorem answers_drag_beyond :
    ∃ (d : Dashboard) (s t u : Section), d.section? "top" = some s ∧ s.widgetIndex? "b" = some 1 ∧
      s.grid.maxWidthAt? 1 = some 2 ∧
      t.widgets.map (fun v => v.size.width.val) = [2, 1, 1] ∧
      (drag "top" "b" ⟨0.0, 0.0 / 0.0, 400.0, 0.0⟩).Answers "" "d" d { d with sections := [t] } ∧
      u.widgets.map (fun v => v.size.width.val) = [2, 2, 2] ∧
      (drag "top" "b" ⟨0.0, 1.0e300, 400.0, 0.0⟩).Answers "" "d" d { d with sections := [u] } := by
  let widget (id : String) (width : Nat) : Widget :=
    { id := id, title := id, config := .kpi ⟨.single Metric.count, []⟩,
      size := { width := .clamp width } }
  let top : Section :=
    { id := "top", title := "Top", columns := 4,
      widgets := [widget "a" 2, widget "b" 1, widget "b" 4] }
  let board : Dashboard := { id := "d", title := "D", view := "v", sections := [top] }
  have hs : board.section? "top" = some top := rfl
  have hi : top.widgetIndex? "b" = some 1 := by decide
  have hroom : top.grid.maxWidthAt? 1 = some 2 := by decide
  have alone {before after : List Section} (h : [top] = before ++ top :: after) (t : Section) :
      before ++ t :: after = [t] := by
    have hlen := congrArg List.length h
    simp only [List.length_append, List.length_cons, List.length_nil] at hlen
    obtain rfl : before = [] := List.eq_nil_of_length_eq_zero (by omega)
    obtain rfl : after = [] := List.eq_nil_of_length_eq_zero (by omega)
    rfl
  obtain ⟨t, y, before, after, hy, hd, hnan⟩ :=
    answers_drag hs hi "" "d" ⟨0.0, 0.0 / 0.0, 400.0, 0.0⟩
  obtain ⟨u, z, before', after', hz, hd', hfar⟩ :=
    answers_drag hs hi "" "d" ⟨0.0, 1.0e300, 400.0, 0.0⟩
  rw [alone hd] at hnan
  rw [alone hd'] at hfar
  have hwidth : top.grid.widths[1]? = some 1 := by decide
  have hone : y.val = 1 := by
    have hnot : ¬ PointerDrag.Tells ⟨0.0, 0.0 / 0.0, 400.0, 0.0⟩ 4 := fun h => nomatch h.distance
    exact Option.some.inj ((hy.untold hnot).symm.trans hwidth)
  have htwo : z.val = 2 := by
    have htells : PointerDrag.Tells ⟨0.0, 1.0e300, 400.0, 0.0⟩ 4 :=
      ⟨by decide +kernel, by decide +kernel, by decide +kernel⟩
    obtain ⟨start, m, hstart, hm, hval⟩ := hz.told htells
    obtain rfl := Option.some.inj (hwidth.symm.trans hstart)
    obtain rfl := Option.some.inj (hroom.symm.trans hm)
    rw [hval]
    decide +kernel
  refine ⟨board, top, t, u, hs, hi, hroom, ?_, hnan, ?_, hfar⟩
  · rw [hy.edit, hone]
    decide
  · rw [hz.edit, htwo]
    decide

/-- **A drag that ends where it began sets the width that the widget takes up**, which is the one
declared, or the columns where those are fewer; no widget is anywhere else then. -/
theorem answers_drag_still {d : Dashboard} {s : Section} {v : Widget} {k i : Nat} (h : d.Distinct)
    (hs : d.sections[k]? = some s) (hv : s.widgets[i]? = some v) (newId id : String)
    {p : PointerDrag} (hp : Coincide p.pointerX p.startX) :
    ∃ y : Span, y.val = min v.size.width.val (clampColumns s.columns) ∧
      (drag s.id v.id p).Answers newId id d (d.withSectionAt k (s.withWidth i y)) ∧
      (s.withWidth i y).grid = s.grid ∧
      (d.withSectionAt k (s.withWidth i y) = d ↔
        v.size.width.val ≤ clampColumns s.columns) := by
  have hmem := List.mem_of_getElem? hs
  have hnodup := Dashboard.nodup_ids_of_mem h.widgets hmem
  have hi := Section.widgetIndex?_of_getElem? hnodup hv
  have hsec := Dashboard.section?_of_mem h.sections hmem
  obtain ⟨start, m, hstart, hm, hone, hle, hfour⟩ := Section.exists_start_room hv
  have hedit := editsSection_drag hsec hi hstart hm p
  -- the widget has the room that it takes up
  have hcells : p.cells s.columns = 0 := draggedCells_eq_zero hp _
  have hsame : clampWidth (start + p.cells s.columns) m = start := by
    rw [hcells, clampWidth]
    omega
  have hput := Dashboard.withSection_eq (t := s.withWidgetWidth v.id start) h.sections hs rfl
  rw [hsame, hput, Section.withWidgetWidth_eq hnodup hv] at hedit
  have hclamp : (Span.clamp start).val = start :=
    Section.val_clamp_of_le hone hle hfour
  have hval : start = min v.size.width.val (clampColumns s.columns) := by
    have htaken := Option.some.inj (hstart.symm.trans (Section.getElem?_widths_grid hv))
    rw [htaken, Span.effectiveWidth_val]
  refine ⟨.clamp start, hclamp.trans hval, hedit.answers newId id,
    Section.grid_withWidth_self (by rw [hclamp, hstart]), ?_⟩
  rw [Dashboard.withSectionAt_eq_self_iff hs, Section.withWidth_eq_self_iff hv]
  constructor
  · intro hwidth
    have := congrArg Span.val hwidth
    omega
  · intro hroom
    refine Span.ext ?_
    omega

/-- a widget declared wider than its section, dragged nowhere, is narrower for good -/
theorem answers_drag_still_narrow :
    ∃ (d : Dashboard) (s t : Section), d.Distinct ∧ d.sections[0]? = some s ∧ s.columns = 2 ∧
      s.widgets.map (fun v => v.size.width.val) = [4, 1] ∧
      t.widgets.map (fun v => v.size.width.val) = [2, 1] ∧ t.grid = s.grid ∧
      (drag "top" "a" ⟨150.5, 150.5, 400.0, 16.0⟩).Answers "" "d" d (d.withSectionAt 0 t) ∧
      d.withSectionAt 0 t ≠ d := by
  let widget (id : String) (width : Nat) : Widget :=
    { id := id, title := id, config := .kpi ⟨.single Metric.count, []⟩,
      size := { width := .clamp width } }
  let top : Section :=
    { id := "top", title := "Top", columns := 2, widgets := [widget "a" 4, widget "b" 1] }
  let board : Dashboard := { id := "d", title := "D", view := "v", sections := [top] }
  have hdist : board.Distinct := ⟨by decide, by decide⟩
  obtain ⟨y, hy, hdrag, hgrid, hiff⟩ :=
    answers_drag_still (s := top) (v := widget "a" 4) (k := 0) (i := 0) hdist rfl rfl "" "d"
      (p := ⟨150.5, 150.5, 400.0, 16.0⟩) (.inl rfl)
  obtain rfl : y = .clamp 2 := Span.ext hy
  exact ⟨board, top, _, hdist, rfl, rfl, by decide, by decide, hgrid, hdrag,
    fun hsame => absurd (hiff.1 hsame) (by decide)⟩

/-- so such a drag does not leave every dashboard as it was -/
theorem not_answers_drag_still :
    ¬ ∀ (d : Dashboard) (s : Section) (v : Widget) (p : PointerDrag), d.Distinct →
      s ∈ d.sections → v ∈ s.widgets → p.pointerX = p.startX →
        (drag s.id v.id p).Answers "" d.id d d := by
  intro h
  let count : Widget :=
    { id := "count", title := "Orders", config := .kpi ⟨.single Metric.count, []⟩,
      size := { width := .clamp 4 } }
  let top : Section := { id := "top", title := "Top", columns := 2, widgets := [count] }
  let sales : Dashboard := { id := "sales", title := "Sales", view := "orders", sections := [top] }
  have hdist : sales.Distinct := ⟨by decide, by decide⟩
  have hrun := h sales top count ⟨0.0, 0.0, 400.0, 0.0⟩ hdist List.mem_cons_self List.mem_cons_self
    rfl Store.answer (.ofSeed { dashboards := [sales] }) rfl
  exact absurd hrun (by decide +kernel)

end Action

end WidgetBoard
