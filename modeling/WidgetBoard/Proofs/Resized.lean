import WidgetBoard.Proofs.NewWidth
import WidgetBoard.Proofs.SectionEdits

/-!
# A widget resized

A request for a width is granted as far as the row of the widget has room.  The room is that of the
row before; a widget that shrinks may move up, into a row with less.

* `Section.withWidth`        the section with another width for one widget, by index;
* `Section.Resized s t i w`  what the request for `w` makes of `s`, and where the widgets are then;
* `Dashboard.withSectionAt`  the dashboard with another section in place of one, by index;
* `Action.Answers`           what an action answers with wherever a dashboard is loaded.

Main statement: `Action.answers_resize` (the dashboard with that section, and again with no other).
-/

namespace WidgetBoard

/-! ## lists -/

section

variable {α : Type} {key : α → String} {l : List α} {a b : α} {i j : Nat}

/-- two places of a list without repeated keys hold different keys -/
theorem eq_of_key_eq (h : (l.map key).Nodup) (ha : l[i]? = some a) (hb : l[j]? = some b)
    (hkey : key a = key b) : i = j := by
  have hi : i < (l.map key).length := by simpa using (List.getElem?_eq_some_iff.1 ha).1
  refine (List.getElem?_inj hi h).1 ?_
  rw [List.getElem?_map, List.getElem?_map, ha, hb, Option.map_some, Option.map_some, hkey]

theorem findIdx?_key_of_getElem? (h : (l.map key).Nodup) (ha : l[i]? = some a) :
    l.findIdx? (fun b => key b == key a) = some i := by
  obtain ⟨hi, rfl⟩ := List.getElem?_eq_some_iff.1 ha
  refine List.findIdx?_eq_some_iff_getElem.2 ⟨hi, by simp, fun j hj hkey => ?_⟩
  have hlt : j < l.length := Nat.lt_trans hj hi
  have hji := eq_of_key_eq h (List.getElem?_eq_getElem hlt) ha (by simpa using hkey)
  exact absurd hji (Nat.ne_of_lt hj)

theorem map_modify_of_comm {β : Type} {f : α → α} {g : α → β} {h : β → β}
    (hfg : ∀ a, g (f a) = h (g a)) (l : List α) (i : Nat) :
    (l.modify i f).map g = (l.map g).modify i h := by
  refine List.ext_getElem? fun j => ?_
  rw [List.getElem?_map, List.getElem?_modify, List.getElem?_modify, List.getElem?_map]
  cases l[j]? with
  | none => rfl
  | some a => by_cases hij : i = j <;> simp [hij, hfg]

/-- what has the key of one item alone is changed there alone -/
theorem map_ite_key_eq_modify (h : (l.map key).Nodup) (ha : l[i]? = some a) (f : α → α) :
    (l.map fun b => if key b = key a then f b else b) = l.modify i f := by
  refine List.ext_getElem? fun j => ?_
  rw [List.getElem?_map, List.getElem?_modify]
  cases hb : l[j]? with
  | none => rfl
  | some b =>
    have hiff : key b = key a ↔ i = j :=
      ⟨fun hkey => (eq_of_key_eq h hb ha hkey).symm,
        fun hij => congrArg key (Option.some.inj (hb.symm.trans (hij ▸ ha)))⟩
    simp only [Option.map_some, Option.map_eq_map, hiff]

theorem upsertBy_eq_set (h : (l.map key).Nodup) (hb : l[i]? = some b) (hkey : key a = key b) :
    upsertBy key a l = l.set i a := by
  induction l generalizing i with
  | nil => exact nomatch hb
  | cons c l ih =>
    cases i with
    | zero =>
      obtain rfl := Option.some.inj hb
      rw [upsertBy, if_pos hkey.symm]
      rfl
    | succ i =>
      have hmem : b ∈ l := List.mem_of_getElem? hb
      have hne : key c ≠ key a := by
        intro hc
        exact (List.nodup_cons.1 h).1 (hc ▸ hkey ▸ List.mem_map_of_mem hmem)
      rw [upsertBy, if_neg hne, ih (List.nodup_cons.1 h).2 hb]
      rfl

end

/-! ## what a request makes of a section -/

def Widget.withWidth (v : Widget) (x : Span) : Widget :=
  { v with size := { v.size with width := x } }

namespace Section

/-- the section with width `x` for its widget `i` -/
def withWidth (s : Section) (i : Nat) (x : Span) : Section :=
  { s with widgets := s.widgets.modify i fun v => v.withWidth x }

/-- widget `i` of the section gets the width `w` as far as its row has room, and the widgets are
packed anew: those in front stay where they were, and the widget itself does not move down -/
structure Resized (s t : Section) (i w : Nat) : Prop where
  width : ∃ m x, s.grid.maxWidthAt? i = some m ∧ x.val = max 1 (min w m) ∧ t = s.withWidth i x
  front : t.grid.KeepsFront s.grid i
  row : ∃ r r', s.grid.rowOf? i = some r ∧ t.grid.rowOf? i = some r' ∧ r' ≤ r

variable {s : Section} {v : Widget} {i m w : Nat}

theorem widgetIndex?_of_getElem? (h : (s.widgets.map (·.id)).Nodup) (hv : s.widgets[i]? = some v) :
    s.widgetIndex? v.id = some i :=
  findIdx?_key_of_getElem? h hv

theorem withWidgetWidth_eq (h : (s.widgets.map (·.id)).Nodup) (hv : s.widgets[i]? = some v)
    (width : Nat) : s.withWidgetWidth v.id width = s.withWidth i (.clamp width) := by
  rw [withWidgetWidth, map_ite_key_eq_modify h hv]
  rfl

theorem withWidth_withWidth (s : Section) (i : Nat) (x : Span) :
    (s.withWidth i x).withWidth i x = s.withWidth i x := by
  rw [withWidth, withWidth, List.modify_modify_eq]
  rfl

theorem getElem?_withWidth (hv : s.widgets[i]? = some v) (x : Span) :
    (s.withWidth i x).widgets[i]? = some (v.withWidth x) := by
  rw [withWidth, List.getElem?_modify, hv]
  simp

theorem grid_withWidth (s : Section) (i : Nat) (x : Span) :
    (s.withWidth i x).grid = s.grid.withWidth i x.val := by
  have hwidth (v : Widget) : (v.withWidth x).size.width.val = x.val := rfl
  have hwidths : (s.withWidth i x).widgets.map (fun v => v.size.width.val)
      = (s.widgets.map fun v => v.size.width.val).modify i fun _ => x.val :=
    map_modify_of_comm (g := fun v => v.size.width.val) hwidth s.widgets i
  rw [grid, hwidths, grid, Grid.withWidth_ofDeclared, List.set_eq_modify]
  rfl

theorem fits_grid (s : Section) : s.grid.Fits :=
  Grid.fits_ofDeclared _ _

theorem exists_room (hv : s.widgets[i]? = some v) : ∃ m, s.grid.maxWidthAt? i = some m := by
  rw [← Option.ne_none_iff_exists', Ne, Grid.maxWidthAt?_eq_none_iff, grid,
    Grid.length_widths_ofDeclared, List.length_map, Nat.not_le]
  exact (List.getElem?_eq_some_iff.1 hv).1

/-- the room of a widget is one to four columns, so what is cut to it is not cut again -/
theorem val_clamp_clampWidth (hm : s.grid.maxWidthAt? i = some m) (w : Nat) :
    (Span.clamp (clampWidth w m)).val = max 1 (min w m) := by
  have hone := Grid.one_le_of_maxWidthAt? hm
  have hle := (s.fits_grid.widest hm).le_columns
  have hfour := s.fits_grid.columns.2
  rw [Span.val_clamp, clampWidth]
  omega

/-- the widget does not leave its row for the next -/
theorem resized_withWidth (hm : s.grid.maxWidthAt? i = some m) {x : Span}
    (hx : x.val = max 1 (min w m)) : s.Resized (s.withWidth i x) i w := by
  have hwidest := s.fits_grid.widest hm
  have hone := Grid.one_le_of_maxWidthAt? hm
  have hxm : x.val ≤ m := by omega
  have hxc := Nat.le_trans hxm hwidest.le_columns
  obtain ⟨r, hr, hrow⟩ := hwidest.row
  obtain ⟨r', hr', hiff, -⟩ := hrow x.val x.one_le hxc
  refine ⟨⟨m, x, hm, hx, rfl⟩, ?_, r, r', hr, ?_, hiff.2 hxm⟩
  · rw [grid_withWidth]
    exact hwidest.front x.val x.one_le hxc
  · rw [grid_withWidth, hr']

/-- the same request does not change the width again -/
theorem exists_room_withWidth (hm : s.grid.maxWidthAt? i = some m) {x : Span}
    (hx : x.val = max 1 (min w m)) :
    ∃ m', (s.withWidth i x).grid.maxWidthAt? i = some m' ∧ x.val = max 1 (min w m') := by
  rw [grid_withWidth, hx]
  obtain ⟨m', hm', hsame⟩ := s.fits_grid.exists_maxWidthAt?_withWidth hm w
  exact ⟨m', hm', hsame.symm⟩

end Section

/-! ## what it makes of a dashboard -/

namespace Dashboard

/-- the dashboard with `t` in place of its section `k` -/
def withSectionAt (d : Dashboard) (k : Nat) (t : Section) : Dashboard :=
  { d with sections := d.sections.set k t }

variable {d : Dashboard} {s t : Section} {k : Nat}

theorem withSection_eq (h : d.sectionIds.Nodup) (hs : d.sections[k]? = some s) (hid : t.id = s.id) :
    d.withSection t = d.withSectionAt k t := by
  rw [withSection, upsertBy_eq_set h hs hid]
  rfl

theorem getElem?_withSectionAt (hs : d.sections[k]? = some s) :
    (d.withSectionAt k t).sections[k]? = some t :=
  List.getElem?_set_self (List.getElem?_eq_some_iff.1 hs).1

theorem withSectionAt_withSectionAt (d : Dashboard) (k : Nat) (t : Section) :
    (d.withSectionAt k t).withSectionAt k t = d.withSectionAt k t := by
  rw [withSectionAt, withSectionAt, List.set_set]

end Dashboard

/-! ## requests -/

namespace Action

variable {a : Action} {d e : Dashboard} {s : Section} {v : Widget} {i k m : Nat} {x : String}

/-- wherever `d` is loaded, the action is answered with `e` -/
def Answers (newId id : String) (a : Action) (d e : Dashboard) : Prop :=
  ∀ ⦃σ : Type⦄ (answer : (c : Call) → σ → c.Reply × σ) (st : σ),
    (answer (.dashboard id) st).1 = .ok (some d) →
      ((a.plan newId id).run answer st).1 = .ok (.dashboard e)

theorem EditsSection.distinct (h : a.EditsSection x d e) (hd : d.Distinct) : e.Distinct := by
  obtain ⟨f, hf, he⟩ := h
  have hrelayout : a.relayout? "" = some (Dashboard.editSection x f) := relayout?_of_sectionEdit? hf
  exact (rearranges_of_relayout? hrelayout he).distinct hd

theorem EditsSection.answers (h : a.EditsSection x d e) (newId id : String) :
    a.Answers newId id d e := by
  obtain ⟨f, hf, he⟩ := h
  intro σ answer st hd
  rw [plan_eq_relayout (relayout?_of_sectionEdit? hf)]
  simp only [Plan.relayout, Plan.run, hd, he, Plan.commit]

/-- a request for a width, where ids tell sections and widgets apart -/
theorem editsSection_resize (h : d.Distinct) (hs : d.sections[k]? = some s)
    (hv : s.widgets[i]? = some v) (hm : s.grid.maxWidthAt? i = some m) (w : Nat) :
    (resize s.id v.id w).EditsSection s.id d
      (d.withSectionAt k (s.withWidth i (.clamp (clampWidth w m)))) := by
  have hmem := List.mem_of_getElem? hs
  have hnodup := Dashboard.nodup_ids_of_mem h.widgets hmem
  have hroom : (s.widgetIndex? v.id).bind s.grid.maxWidthAt? = some m := by
    rw [Section.widgetIndex?_of_getElem? hnodup hv]
    exact hm
  have hfound := Dashboard.section?_of_mem h.sections hmem
  have hput := Dashboard.withSection_eq (t := s.withWidgetWidth v.id (clampWidth w m))
    h.sections hs rfl
  rw [← Section.withWidgetWidth_eq hnodup hv, ← hput]
  refine ⟨_, rfl, editSection_eq_ok hfound ?_⟩
  rw [hroom]
  rfl

/-- **A request for a width changes no other width and moves no widget in front**, and the widget
does not move down.  Made again of its answer, it is answered with the same. -/
theorem answers_resize {d : Dashboard} {s : Section} {v : Widget} {k i : Nat} (h : d.Distinct)
    (hs : d.sections[k]? = some s) (hv : s.widgets[i]? = some v) (newId id : String) (w : Nat) :
    ∃ t, s.Resized t i w ∧
      (resize s.id v.id w).Answers newId id d (d.withSectionAt k t) ∧
      (resize s.id v.id w).Answers newId id (d.withSectionAt k t) (d.withSectionAt k t) := by
  obtain ⟨m, hm⟩ := Section.exists_room hv
  have hx := Section.val_clamp_clampWidth hm w
  have hedit := editsSection_resize h hs hv hm w
  generalize Span.clamp (clampWidth w m) = x at hx hedit
  refine ⟨s.withWidth i x, Section.resized_withWidth hm hx, hedit.answers newId id, ?_⟩
  -- the widget has the room for its width where it is now
  obtain ⟨m', hm', hx'⟩ := Section.exists_room_withWidth hm hx
  have hs' : (d.withSectionAt k (s.withWidth i x)).sections[k]? = some (s.withWidth i x) :=
    Dashboard.getElem?_withSectionAt hs
  have hagain := editsSection_resize (hedit.distinct h) hs' (Section.getElem?_withWidth hv x) hm' w
  have hsame : Span.clamp (clampWidth w m') = x :=
    Span.ext ((Section.val_clamp_clampWidth hm' w).trans hx'.symm)
  rw [hsame, Section.withWidth_withWidth, Dashboard.withSectionAt_withSectionAt] at hagain
  exact hagain.answers newId id

/-- a widget that shrinks moves up, where it has less room, and stays as it is asked to be -/
theorem answers_resize_upward :
    ∃ (d : Dashboard) (s t : Section), d.Distinct ∧ d.sections[0]? = some s ∧
      s.grid.rows = [⟨[0], 3⟩, ⟨[1], 2⟩] ∧ t.grid.rows = [⟨[0, 1], 4⟩] ∧
      (((resize "top" "b" 1).plan "" "d").run Store.answer (.ofSeed { dashboards := [d] })).1
        = .ok (.dashboard (d.withSectionAt 0 t)) ∧
      (resize "top" "b" 1).Answers "" "d" (d.withSectionAt 0 t) (d.withSectionAt 0 t) := by
  let widget (id : String) (width : Nat) : Widget :=
    { id := id, title := id, config := .kpi ⟨.single Metric.count, []⟩,
      size := { width := .clamp width } }
  let top : Section :=
    { id := "top", title := "Top", columns := 4, widgets := [widget "a" 3, widget "b" 2] }
  let board : Dashboard := { id := "d", title := "D", view := "v", sections := [top] }
  have hdist : board.Distinct := ⟨by decide, by decide⟩
  have hroom : top.grid.maxWidthAt? 1 = some 4 := by decide
  obtain ⟨t, ⟨⟨m, x, hm, hx, rfl⟩, -, -⟩, hfirst, hagain⟩ :=
    answers_resize (s := top) (v := widget "b" 2) (k := 0) (i := 1) hdist rfl rfl "" "d" 1
  obtain rfl := Option.some.inj (hroom.symm.trans hm)
  obtain rfl : x = .clamp 1 := Span.ext hx
  have hrun := hfirst Store.answer (.ofSeed { dashboards := [board] }) rfl
  exact ⟨board, top, _, hdist, rfl, by decide, by decide, hrun, hagain⟩

end Action

end WidgetBoard
