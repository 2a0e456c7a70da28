import WidgetBoard.Proofs.Distinct

/-!
# A layout applied again

A layout takes two things from a dashboard: the widget it finds under each id that it places, and
what is left over in each section that it has.  Both are the same behind it, whatever ids are there
twice: a widget that was placed twice is there twice, in two sizes, but it is one widget still.

* `Dashboard.applyLayout_congr`      nothing else of a dashboard counts;
* `Dashboard.place?_applyLayout`     what is placed is found as it was;
* `Dashboard.unplaced_applyLayout`   what is left over is left over again.

Main statement: `Dashboard.applyLayout_applyLayout` (applied again, a layout changes nothing).
-/

namespace WidgetBoard

theorem Layout.mem_placed {l : Layout} {s : SectionLayout} {p : Placement} (hs : s ∈ l)
    (hp : p ∈ s.widgets) : p.id ∈ Layout.placed l :=
  List.mem_flatMap.2 ⟨s, hs, List.mem_map_of_mem hp⟩

namespace Dashboard

variable {d e : Dashboard} {l : Layout} {p : Placement}

/-- a layout makes the same of two dashboards that agree on what it places and what it leaves
over -/
theorem applyLayout_congr (hframe : e = { d with sections := e.sections })
    (hplace : ∀ s ∈ l, ∀ p ∈ s.widgets, e.place? p = d.place? p)
    (hleft : ∀ s ∈ l, e.unplaced (Layout.placed l) s.id = d.unplaced (Layout.placed l) s.id) :
    e.applyLayout l = d.applyLayout l := by
  have hsections : l.map (e.layOut (Layout.placed l)) = l.map (d.layOut (Layout.placed l)) := by
    refine List.map_congr_left fun s hs => ?_
    rw [layOut, layOut, hleft s hs, List.filterMap_congr (hplace s hs)]
  rw [applyLayout, hsections, hframe]
  rfl

/-! ## what is placed -/

/-- a widget that has an id the layout places was placed -/
theorem exists_place?_of_mem_applyLayout {w : Widget} (hw : w ∈ (d.applyLayout l).widgets)
    (hplaced : w.id ∈ Layout.placed l) :
    ∃ s ∈ l, ∃ p ∈ s.widgets, d.place? p = some w := by
  obtain ⟨t, ht, hw⟩ := mem_widgets.1 hw
  obtain ⟨s, hs, rfl⟩ := List.mem_map.1 ht
  rcases List.mem_append.1 hw with hw | hw
  · obtain ⟨p, hp, hw⟩ := List.mem_filterMap.1 hw
    exact ⟨s, hs, p, hp, hw⟩
  · obtain ⟨-, -, -, hno⟩ := mem_unplaced.1 hw
    exact absurd hplaced hno

/-- two placements of one id place one widget, each in its size -/
theorem place?_eq_map {q : Placement} {w : Widget} (hq : d.place? q = some w) (hid : p.id = q.id) :
    d.place? p = some { w with size := p.size } := by
  obtain ⟨found, hf, rfl⟩ := Option.map_eq_some_iff.1 hq
  rw [place?, hid, hf]
  rfl

theorem place?_eq_none_iff : d.place? p = none ↔ p.id ∉ d.widgetIds := by
  rw [place?, Option.map_eq_none_iff, find?_eq_none_iff]

theorem place?_applyLayout (hp : p.id ∈ Layout.placed l) :
    (d.applyLayout l).place? p = d.place? p := by
  cases hf : (d.applyLayout l).find? p.id with
  | none =>
    -- nothing that is placed is lost
    have hnew := find?_eq_none_iff.1 hf
    have hold : p.id ∉ d.widgetIds := fun h => hnew (mem_widgetIds_applyLayout.2 (Or.inl ⟨hp, h⟩))
    rw [place?_eq_none_iff.2 hnew, place?_eq_none_iff.2 hold]
  | some found =>
    have hid := id_of_find? hf
    obtain ⟨-, -, q, -, hq⟩ :=
      exists_place?_of_mem_applyLayout (mem_widgets_of_find? hf) (hid ▸ hp)
    rw [place?_eq_map hq (hid.symm.trans (id_of_place? hq)), place?, hf]
    rfl

/-! ## what is left over -/

/-- behind the layout, the first section with an id is laid out as the first with it in the
layout -/
theorem exists_section?_applyLayout {id : String} (hid : id ∈ l.map (·.id)) :
    ∃ s ∈ l, s.id = id ∧
      (d.applyLayout l).section? id = some (d.layOut (Layout.placed l) s) := by
  obtain ⟨t, ht, hts⟩ := List.mem_map.1 hid
  have hfind : (d.applyLayout l).section? id
      = (l.find? fun s => s.id == id).map (d.layOut (Layout.placed l)) := List.find?_map
  cases hs : l.find? fun s => s.id == id with
  | none => exact absurd hts (by simpa using List.find?_eq_none.1 hs t ht)
  | some s =>
    rw [hs] at hfind
    exact ⟨s, List.mem_of_find?_eq_some hs, by simpa using List.find?_some hs, hfind⟩

theorem filter_layOut {s : SectionLayout} (hs : s ∈ l) :
    ((d.layOut (Layout.placed l) s).widgets.filter fun w => w.id ∉ Layout.placed l)
      = d.unplaced (Layout.placed l) s.id := by
  have hplaced : ((s.widgets.filterMap d.place?).filter fun w => w.id ∉ Layout.placed l) = [] := by
    refine List.filter_eq_nil_iff.2 fun w hw => ?_
    obtain ⟨p, hp, hw⟩ := List.mem_filterMap.1 hw
    simpa [id_of_place? hw] using Layout.mem_placed hs hp
  have hleft : ((d.unplaced (Layout.placed l) s.id).filter fun w => w.id ∉ Layout.placed l)
      = d.unplaced (Layout.placed l) s.id := by
    refine List.filter_eq_self.2 fun w hw => ?_
    obtain ⟨-, -, -, hno⟩ := mem_unplaced.1 hw
    exact decide_eq_true hno
  rw [layOut, List.filter_append, hplaced, hleft, List.nil_append]

theorem unplaced_applyLayout {id : String} (hid : id ∈ l.map (·.id)) :
    (d.applyLayout l).unplaced (Layout.placed l) id = d.unplaced (Layout.placed l) id := by
  obtain ⟨s, hs, rfl, hfound⟩ := exists_section?_applyLayout (d := d) hid
  rw [unplaced, hfound]
  exact filter_layOut hs

/-- **Applied again, a layout changes nothing**, whatever ids the dashboard or the layout has twice,
and whether or not the dashboard has what the layout places. -/
theorem applyLayout_applyLayout (d : Dashboard) (l : Layout) :
    (d.applyLayout l).applyLayout l = d.applyLayout l := by
  refine applyLayout_congr rfl (fun s hs p hp => ?_) fun s hs => ?_
  · exact place?_applyLayout (Layout.mem_placed hs hp)
  · exact unplaced_applyLayout (List.mem_map_of_mem hs)

end Dashboard

end WidgetBoard
