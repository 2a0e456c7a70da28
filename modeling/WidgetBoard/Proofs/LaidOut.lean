import WidgetBoard.Proofs.Lists
import WidgetBoard.Proofs.Replay

/-!
# What a layout makes of a dashboard

Where ids tell sections and widgets apart, in the dashboard and in the layout, it can be said
without the making of it what is laid out: which sections there are, which widgets are in them and
in which order.  Only one dashboard answers to that.

* `Layout.only l ids`, `Layout.clamped l`   a layout without the placements of other ids, and with
                                            its columns clamped;
* `Section.among`, `Section.beside`         the widgets of a section that are placed, and the rest;
* `Dashboard.LaidOut r d l`                 `r` has the sections of `l`, and in them the widgets of
                                            `d`: first those that `l` places, then those it does not.

Main statement: `Dashboard.laidOut_iff` (that is what a layout makes, and nothing else is).
-/

namespace WidgetBoard

/-! ## layouts and sections -/

namespace SectionLayout

/-- without the placements of other ids -/
def only (s : SectionLayout) (ids : List String) : SectionLayout :=
  { s with widgets := s.widgets.filter fun p => p.id ∈ ids }

def clamped (s : SectionLayout) : SectionLayout :=
  { s with columns := clampColumns s.columns }

/-- without any placement -/
def heading (s : SectionLayout) : SectionLayout :=
  { s with widgets := [] }

end SectionLayout

namespace Layout

def only (l : Layout) (ids : List String) : Layout := l.map (·.only ids)

def clamped (l : Layout) : Layout := l.map SectionLayout.clamped

def headings (l : Layout) : Layout := l.map SectionLayout.heading

end Layout

def Widget.placement (w : Widget) : Placement := ⟨w.id, w.size⟩

namespace Section

/-- the widgets with these ids -/
def among (s : Section) (ids : List String) : List Widget :=
  s.widgets.filter fun w => w.id ∈ ids

def beside (s : Section) (ids : List String) : List Widget :=
  s.widgets.filter fun w => w.id ∉ ids

theorem widgets_layout (s : Section) : s.layout.widgets = s.widgets.map Widget.placement := rfl

/-- the placements of some of the widgets -/
theorem filter_widgets_layout (s : Section) (ids : List String) :
    (s.layout.widgets.filter fun p => p.id ∈ ids) = (s.among ids).map Widget.placement := by
  rw [widgets_layout, List.filter_map]
  rfl

end Section

namespace Dashboard

/-- `r` is `d` laid out by `l` -/
structure LaidOut (r d : Dashboard) (l : Layout) : Prop where
  frame : r = { d with sections := r.sections }
  /-- the sections are those of the layout, in its order and with its titles -/
  headings : Layout.headings r.layout = (Layout.headings l).clamped
  /-- what the layout places is as it places it, but for ids that the dashboard does not have -/
  obeyed : Layout.only r.layout (Layout.placed l) = (Layout.only l d.widgetIds).clamped
  /-- every widget was there, and is as it was but for its size -/
  widgets : ∀ w ∈ r.widgets, ∃ v ∈ d.widgets, w = { v with size := w.size }
  once : r.widgetIds.Nodup
  /-- a widget is lost exactly if it is not placed and its section is not there any more -/
  kept : ∀ s ∈ d.sections, ∀ v ∈ s.widgets,
    (∃ w ∈ r.widgets, w = { v with size := w.size }) ↔
      v.id ∈ Layout.placed l ∨ s.id ∈ l.map (·.id)
  /-- what is not placed is in its section, in the size and in the order it had -/
  left : ∀ t ∈ r.sections, ∀ s ∈ d.sections, t.id = s.id →
    t.beside (Layout.placed l) = s.beside (Layout.placed l)
  /-- a section that was not there has only what is placed -/
  new : ∀ t ∈ r.sections, t.id ∉ d.sectionIds → t.beside (Layout.placed l) = []
  /-- what is placed comes first -/
  behind : ∀ t ∈ r.sections,
    t.widgets = t.among (Layout.placed l) ++ t.beside (Layout.placed l)

variable {d r : Dashboard} {l : Layout}

/-! ## placements of widgets -/

/-- a placement places a widget as it says, if the dashboard has the id -/
theorem map_placement_place? (p : Placement) :
    (d.place? p).map Widget.placement = Option.guard (fun p => p.id ∈ d.widgetIds) p := by
  cases hw : d.place? p with
  | none =>
    have hno := place?_eq_none_iff.1 hw
    simp [Option.guard, hno]
  | some w =>
    have hin : p.id ∈ d.widgetIds := by
      by_contra hno
      exact nomatch hw.symm.trans (place?_eq_none_iff.2 hno)
    obtain ⟨found, hf, rfl⟩ := Option.map_eq_some_iff.1 hw
    simp [Option.guard, hin, Widget.placement, id_of_find? hf]

theorem map_placement_filterMap_place? (ps : List Placement) :
    (ps.filterMap d.place?).map Widget.placement = ps.filter fun p => p.id ∈ d.widgetIds := by
  rw [List.map_filterMap, List.filterMap_congr fun p _ => map_placement_place? p,
    List.filterMap_eq_filter]

theorem filterMap_place?_filter (ps : List Placement) :
    (ps.filter fun p => p.id ∈ d.widgetIds).filterMap d.place? = ps.filterMap d.place? := by
  rw [List.filterMap_filter]
  refine List.filterMap_congr fun p _ => ?_
  by_cases hp : p.id ∈ d.widgetIds
  · simp [hp]
  · simp [hp, place?_eq_none_iff.2 hp]

/-- a widget of the dashboard in another size is placed by its own placement -/
theorem place?_placement (h : d.widgetIds.Nodup) {v w : Widget} (hv : v ∈ d.widgets)
    (hw : w = { v with size := w.size }) : d.place? w.placement = some w := by
  rw [hw]
  exact place?_of_mem h hv w.size

/-! ## what is laid out -/

theorem unplaced_eq_beside (h : d.sectionIds.Nodup) {s : Section} (hs : s ∈ d.sections)
    (placed : List String) : d.unplaced placed s.id = s.beside placed := by
  rw [unplaced, section?_of_mem h hs]
  rfl

theorem unplaced_eq_nil_of_not_mem {id : String} (h : id ∉ d.sectionIds) (placed : List String) :
    d.unplaced placed id = [] := by
  rw [unplaced, section?_eq_none_iff.2 h]

theorem among_layOut {s : SectionLayout} (hs : s ∈ l) :
    (d.layOut (Layout.placed l) s).among (Layout.placed l) = s.widgets.filterMap d.place? := by
  have hplaced : ((s.widgets.filterMap d.place?).filter fun w => w.id ∈ Layout.placed l)
      = s.widgets.filterMap d.place? := by
    refine List.filter_eq_self.2 fun w hw => ?_
    obtain ⟨p, hp, hw⟩ := List.mem_filterMap.1 hw
    exact decide_eq_true (id_of_place? hw ▸ Layout.mem_placed hs hp)
  have hleft : ((d.unplaced (Layout.placed l) s.id).filter fun w => w.id ∈ Layout.placed l)
      = [] := by
    refine List.filter_eq_nil_iff.2 fun w hw => ?_
    obtain ⟨-, -, -, hno⟩ := mem_unplaced.1 hw
    simpa using hno
  rw [Section.among, layOut, List.filter_append, hplaced, hleft, List.append_nil]

theorem beside_layOut {s : SectionLayout} (hs : s ∈ l) :
    (d.layOut (Layout.placed l) s).beside (Layout.placed l)
      = d.unplaced (Layout.placed l) s.id :=
  filter_layOut hs

theorem mem_sections_applyLayout {t : Section} :
    t ∈ (d.applyLayout l).sections ↔ ∃ s ∈ l, d.layOut (Layout.placed l) s = t :=
  List.mem_map

theorem headings_layout_applyLayout :
    Layout.headings (d.applyLayout l).layout = (Layout.headings l).clamped := by
  rw [Layout.headings, Layout.headings, Layout.clamped, layout, applyLayout, List.map_map,
    List.map_map, List.map_map]
  rfl

theorem only_layout_applyLayout :
    Layout.only (d.applyLayout l).layout (Layout.placed l)
      = (Layout.only l d.widgetIds).clamped := by
  rw [Layout.only, Layout.only, Layout.clamped, layout, applyLayout, List.map_map, List.map_map,
    List.map_map]
  refine List.map_congr_left fun s hs => ?_
  show SectionLayout.only (Section.layout (d.layOut (Layout.placed l) s)) (Layout.placed l) = _
  rw [SectionLayout.only, Section.filter_widgets_layout, among_layOut hs,
    map_placement_filterMap_place?]
  rfl

/-- a widget behind a layout is one of the dashboard -/
theorem exists_widget_of_mem_applyLayout {w : Widget} (hw : w ∈ (d.applyLayout l).widgets) :
    ∃ v ∈ d.widgets, w = { v with size := w.size } := by
  by_cases hplaced : w.id ∈ Layout.placed l
  · obtain ⟨-, -, p, -, hp⟩ := exists_place?_of_mem_applyLayout hw hplaced
    obtain ⟨found, hf, rfl⟩ := Option.map_eq_some_iff.1 hp
    exact ⟨found.2, mem_widgets_of_find? hf, rfl⟩
  · obtain ⟨t, ht, hw⟩ := mem_widgets.1 hw
    obtain ⟨s, hs, rfl⟩ := mem_sections_applyLayout.1 ht
    have hrest : w ∈ (d.layOut (Layout.placed l) s).beside (Layout.placed l) :=
      List.mem_filter.2 ⟨hw, decide_eq_true hplaced⟩
    rw [beside_layOut hs] at hrest
    obtain ⟨u, hu, hwu, -⟩ := mem_unplaced.1 hrest
    exact ⟨w, mem_widgets.2 ⟨u, mem_sections_of_section? hu, hwu⟩, rfl⟩

theorem mem_widgetIds_applyLayout_iff (h : d.Distinct) {s : Section} (hs : s ∈ d.sections)
    {v : Widget} (hv : v ∈ s.widgets) :
    v.id ∈ (d.applyLayout l).widgetIds ↔ v.id ∈ Layout.placed l ∨ s.id ∈ l.map (·.id) := by
  have hid : v.id ∈ d.widgetIds := mem_widgetIds_of_mem hs hv
  rw [mem_widgetIds_applyLayout]
  constructor
  · rintro (⟨hplaced, -⟩ | ⟨u, hu, t, ht, hvt⟩)
    · exact Or.inl hplaced
    · -- the widget is in one section only
      obtain rfl : s = t := section_eq_of_shared h.widgets hs (mem_sections_of_section? ht)
        (List.mem_map_of_mem hv) hvt
      exact Or.inr (id_of_section? ht ▸ List.mem_map_of_mem hu)
  · rintro (hplaced | hsection)
    · exact Or.inl ⟨hplaced, hid⟩
    · obtain ⟨u, hu, hus⟩ := List.mem_map.1 hsection
      exact Or.inr ⟨u, hu, s, hus ▸ section?_of_mem h.sections hs, List.mem_map_of_mem hv⟩

/-- what is there under the id of a widget is that widget -/
theorem exists_resized_iff (h : d.widgetIds.Nodup)
    (hr : ∀ w ∈ r.widgets, ∃ v ∈ d.widgets, w = { v with size := w.size }) {v : Widget}
    (hv : v ∈ d.widgets) :
    (∃ w ∈ r.widgets, w = { v with size := w.size }) ↔ v.id ∈ r.widgetIds := by
  constructor
  · rintro ⟨w, hw, hwv⟩
    have hid : w.id = v.id := by rw [hwv]
    exact hid ▸ List.mem_map_of_mem hw
  · intro hid
    obtain ⟨w, hw, hwv⟩ := List.mem_map.1 hid
    obtain ⟨u, hu, hwu⟩ := hr w hw
    have hid : w.id = u.id := by rw [hwu]
    have hsame : u.id = v.id := hid.symm.trans hwv
    obtain rfl : u = v := List.inj_on_of_nodup_map h hu hv hsame
    exact ⟨w, hw, hwu⟩

theorem laidOut_applyLayout (h : d.Distinct) (hs : (l.map (·.id)).Nodup)
    (hp : (Layout.placed l).Nodup) : (d.applyLayout l).LaidOut d l where
  frame := rfl
  headings := headings_layout_applyLayout
  obeyed := only_layout_applyLayout
  widgets _ hw := exists_widget_of_mem_applyLayout hw
  once := by
    refine nodup_widgetIds_applyLayout h.widgets hp ?_
    exact (List.pairwise_map.1 hs).imp fun hne he => absurd he hne
  kept s hs v hv := by
    have hall (w : Widget) (hw : w ∈ (d.applyLayout l).widgets) :=
      exists_widget_of_mem_applyLayout hw
    rw [exists_resized_iff h.widgets hall (mem_widgets.2 ⟨s, hs, hv⟩),
      mem_widgetIds_applyLayout_iff h hs hv]
  left t ht s hs hid := by
    obtain ⟨u, hu, rfl⟩ := mem_sections_applyLayout.1 ht
    have hus : u.id = s.id := hid
    rw [beside_layOut hu, hus, unplaced_eq_beside h.sections hs]
  new t ht hid := by
    obtain ⟨u, hu, rfl⟩ := mem_sections_applyLayout.1 ht
    rw [beside_layOut hu]
    exact unplaced_eq_nil_of_not_mem hid _
  behind t ht := by
    obtain ⟨u, hu, rfl⟩ := mem_sections_applyLayout.1 ht
    rw [among_layOut hu, beside_layOut hu]
    rfl

/-! ## nothing else is -/

namespace LaidOut

/-- what is placed in a section is told by the layout -/
theorem among_eq (h : r.LaidOut d l) (hd : d.widgetIds.Nodup) {t : Section} (ht : t ∈ r.sections)
    {s : SectionLayout}
    (hplaced : (t.layout.widgets.filter fun p => p.id ∈ Layout.placed l)
      = s.widgets.filter fun p => p.id ∈ d.widgetIds) :
    t.among (Layout.placed l) = s.widgets.filterMap d.place? := by
  have hself : ∀ w ∈ t.among (Layout.placed l), d.place? w.placement = some w := by
    intro w hw
    obtain ⟨v, hv, hwv⟩ := h.widgets w (mem_widgets.2 ⟨t, ht, (List.mem_filter.1 hw).1⟩)
    exact place?_placement hd hv hwv
  calc t.among (Layout.placed l)
      = ((t.among (Layout.placed l)).map Widget.placement).filterMap d.place? := by
        rw [List.filterMap_map]
        exact (filterMap_eq_self hself).symm
    _ = (s.widgets.filter fun p => p.id ∈ d.widgetIds).filterMap d.place? := by
        rw [← Section.filter_widgets_layout, hplaced]
    _ = s.widgets.filterMap d.place? := filterMap_place?_filter s.widgets

/-- what is left over in a section is told by the dashboard -/
theorem beside_eq (h : r.LaidOut d l) (hd : d.sectionIds.Nodup) {t : Section}
    (ht : t ∈ r.sections) :
    t.beside (Layout.placed l) = d.unplaced (Layout.placed l) t.id := by
  by_cases hid : t.id ∈ d.sectionIds
  · obtain ⟨s, hs, hst⟩ := List.mem_map.1 hid
    rw [h.left t ht s hs hst.symm, ← hst, unplaced_eq_beside hd hs]
  · rw [h.new t ht hid, unplaced_eq_nil_of_not_mem hid]

theorem section_eq (h : r.LaidOut d l) (hd : d.Distinct) {t : Section} (ht : t ∈ r.sections)
    {s : SectionLayout} (hs : t.layout.only (Layout.placed l) = (s.only d.widgetIds).clamped) :
    t = d.layOut (Layout.placed l) s := by
  obtain ⟨hid, htitle, hshow, hcolumns, hplaced⟩ := SectionLayout.mk.inj hs
  replace hid : t.id = s.id := hid
  have hwidgets : t.widgets = s.widgets.filterMap d.place? ++ d.unplaced (Layout.placed l) s.id := by
    rw [← hid, h.behind t ht, h.among_eq hd.widgets ht hplaced, h.beside_eq hd.sections ht]
  cases t
  simp only [layOut, Section.mk.injEq]
  exact ⟨hid, htitle, hshow, hcolumns, hwidgets⟩

theorem eq_applyLayout (h : r.LaidOut d l) (hd : d.Distinct) : r = d.applyLayout l := by
  have hsections : r.sections = l.map (d.layOut (Layout.placed l)) := by
    -- section by section, as the two layouts agree
    refine List.ext_getElem? fun j => ?_
    have hj := congrArg (·[j]?) h.obeyed
    simp only [Layout.only, Layout.clamped, layout, List.map_map, List.getElem?_map] at hj
    rw [List.getElem?_map]
    cases ht : r.sections[j]? with
    | none =>
      rw [ht] at hj
      rw [Option.map_eq_none_iff.1 hj.symm]
      rfl
    | some t =>
      rw [ht] at hj
      obtain ⟨s, hs, hst⟩ := Option.map_eq_some_iff.1 hj.symm
      rw [hs, Option.map_some, h.section_eq hd (List.mem_of_getElem? ht) hst.symm]
  rw [h.frame, hsections]
  rfl

end LaidOut

/-- **What a layout makes of a dashboard is laid out by it, and nothing else is.**  No widget is
lost but those of sections that the layout leaves out, none is doubled, and what the layout does not
know of stays behind what it places. -/
theorem laidOut_iff (h : d.Distinct) (hs : (l.map (·.id)).Nodup) (hp : (Layout.placed l).Nodup) :
    r.LaidOut d l ↔ r = d.applyLayout l :=
  ⟨fun hr => hr.eq_applyLayout h, fun hr => hr ▸ laidOut_applyLayout h hs hp⟩

/-- a section is left out, and one of its widgets is placed in another, in front of what was there;
one is placed in a new section, and an id that nobody has in either -/
theorem laidOut_iff_moved :
    ∃ (d : Dashboard) (l : Layout), d.Distinct ∧ (l.map (·.id)).Nodup ∧ (Layout.placed l).Nodup ∧
      d.sections.map (fun s => (s.id, s.widgets.map (·.id)))
        = [("top", ["a", "b"]), ("rest", ["c", "e"])] ∧
      (d.applyLayout l).sections.map (fun s => (s.id, s.columns, s.widgets.map (·.id)))
        = [("new", 4, ["e"]), ("rest", 2, ["b", "c"])] ∧
      (d.applyLayout l).LaidOut d l := by
  let widget (id : String) : Widget :=
    { id := id, title := id, config := .kpi ⟨.single Metric.count, []⟩ }
  let board : Dashboard :=
    { id := "d", title := "D", view := "v",
      sections := [{ id := "top", title := "Top", columns := 4, widgets := ["a", "b"].map widget },
        { id := "rest", title := "Rest", columns := 4, widgets := ["c", "e"].map widget }] }
  let plan : Layout :=
    [{ id := "new", title := "New", columns := 9, widgets := [⟨"e", {}⟩, ⟨"ghost", {}⟩] },
      { id := "rest", title := "Rest", columns := 2, widgets := [⟨"none", {}⟩, ⟨"b", {}⟩] }]
  have hdist : board.Distinct := ⟨by decide, by decide⟩
  have hsections : (plan.map (·.id)).Nodup := by decide
  have hplaced : (Layout.placed plan).Nodup := by decide
  exact ⟨board, plan, hdist, hsections, hplaced, rfl, by decide,
    (laidOut_iff hdist hsections hplaced).2 rfl⟩

end Dashboard

end WidgetBoard
