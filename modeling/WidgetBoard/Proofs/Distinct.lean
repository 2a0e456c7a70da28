import Mathlib.Data.List.Flatten
import Mathlib.Data.List.Nodup
import Mathlib.Data.List.Pairwise
import WidgetBoard.Proofs.Edits

/-!
# Ids on a dashboard

Widgets and sections are found by id, and of several with one id the first counts.  A layout says
of every widget by its id alone where it is put, so what it does is plain only where no id is there
twice.

* `Dashboard.widgetIds`, `Dashboard.sectionIds`   the ids in the order of the dashboard;
* `Dashboard.Distinct`                            no widget and no section shares its id with another;
* `Dashboard.place?_of_mem`                       a widget is placed as itself;
* `Dashboard.mem_widgetIds_applyLayout`           which widgets are left behind a layout.

Main statement: `Dashboard.nodup_widgetIds_applyLayout` (no widget is there twice behind a layout).
-/

namespace WidgetBoard

/-! ## finding by key -/

/-- what is in a list without repeated keys is found by its key -/
theorem find?_key_of_mem {α : Type} {key : α → String} {l : List α} {a : α}
    (h : (l.map key).Nodup) (ha : a ∈ l) : l.find? (fun b => key b == key a) = some a := by
  induction l with
  | nil => exact nomatch ha
  | cons b l ih =>
    obtain ⟨hb, hl⟩ := List.nodup_cons.1 h
    rcases List.mem_cons.1 ha with rfl | ha
    · rw [List.find?_cons_of_pos (by simp)]
    · have hne : key b ≠ key a := fun he => hb (he ▸ List.mem_map_of_mem ha)
      rw [List.find?_cons_of_neg (by simpa using hne), ih hl ha]

namespace Dashboard

variable {d : Dashboard}

/-! ## ids -/

def widgetIds (d : Dashboard) : List String :=
  d.widgets.map (·.id)

def sectionIds (d : Dashboard) : List String :=
  d.sections.map (·.id)

structure Distinct (d : Dashboard) : Prop where
  sections : d.sectionIds.Nodup
  widgets : d.widgetIds.Nodup

theorem widgetIds_eq_flatMap (d : Dashboard) :
    d.widgetIds = d.sections.flatMap fun s => s.widgets.map (·.id) :=
  List.map_flatMap

theorem mem_widgetIds {id : String} :
    id ∈ d.widgetIds ↔ ∃ s ∈ d.sections, ∃ w ∈ s.widgets, w.id = id := by
  simp [widgetIds_eq_flatMap]

theorem mem_widgetIds_of_mem {s : Section} {w : Widget} (hs : s ∈ d.sections)
    (hw : w ∈ s.widgets) : w.id ∈ d.widgetIds :=
  mem_widgetIds.2 ⟨s, hs, w, hw, rfl⟩

/-- the widget that is found by an id, wherever it is -/
theorem map_snd_find? (d : Dashboard) (id : String) :
    (d.find? id).map (·.2) = d.widgets.find? fun w => w.id == id := by
  have hw : d.widgets = d.located.map (·.2) := by
    simp [widgets, located, List.map_flatMap, Function.comp_def]
  rw [hw, List.find?_map]
  rfl

theorem find?_eq_none_iff {id : String} : d.find? id = none ↔ id ∉ d.widgetIds := by
  rw [← Option.map_eq_none_iff, map_snd_find?, List.find?_eq_none]
  simp [widgetIds]

theorem id_of_find? {p : Section × Widget} {id : String} (h : d.find? id = some p) :
    p.2.id = id := by
  simpa using List.find?_some h

theorem id_of_section? {s : Section} {id : String} (h : d.section? id = some s) : s.id = id := by
  simpa using List.find?_some h

/-- the section that is found is the one there is -/
theorem section?_of_mem (h : d.sectionIds.Nodup) {s : Section} (hs : s ∈ d.sections) :
    d.section? s.id = some s :=
  find?_key_of_mem h hs

theorem section?_isSome_iff {id : String} : (d.section? id).isSome ↔ id ∈ d.sectionIds := by
  simp [section?, sectionIds]

theorem section?_eq_none_iff {id : String} : d.section? id = none ↔ id ∉ d.sectionIds := by
  rw [← section?_isSome_iff, Option.not_isSome_iff_eq_none]

/-- no widget is twice in one section -/
theorem nodup_ids_of_mem (h : d.widgetIds.Nodup) {s : Section} (hs : s ∈ d.sections) :
    (s.widgets.map (·.id)).Nodup := by
  rw [widgetIds_eq_flatMap, List.nodup_flatMap] at h
  exact h.1 s hs

/-- two sections that hold widgets with one id are the same section -/
theorem section_eq_of_shared (h : d.widgetIds.Nodup) {s t : Section} (hs : s ∈ d.sections)
    (ht : t ∈ d.sections) {id : String} (hsid : id ∈ s.widgets.map (·.id))
    (htid : id ∈ t.widgets.map (·.id)) : s = t := by
  rw [widgetIds_eq_flatMap, List.nodup_flatMap] at h
  by_contra hne
  have : Std.Symm (Function.onFun List.Disjoint fun s : Section => s.widgets.map (·.id)) :=
    ⟨fun _ _ hab _ hb ha => hab ha hb⟩
  exact h.2.forall hs ht hne hsid htid

theorem sectionIds_withoutWidget (d : Dashboard) (w : String) :
    (d.withoutWidget w).sectionIds = d.sectionIds := by
  simp [sectionIds, withoutWidget, Section.withoutWidget, Function.comp_def]

theorem widgetIds_withoutWidget_sublist (d : Dashboard) (w : String) :
    (d.withoutWidget w).widgetIds.Sublist d.widgetIds := by
  rw [widgetIds_eq_flatMap, widgetIds_eq_flatMap, withoutWidget, List.flatMap_map]
  exact List.Sublist.flatMap_right _ fun s _ => List.filter_sublist.map _

theorem Distinct.withoutWidget (h : d.Distinct) (w : String) : (d.withoutWidget w).Distinct where
  sections := by
    rw [sectionIds_withoutWidget]
    exact h.sections
  widgets := (d.widgetIds_withoutWidget_sublist w).nodup h.widgets

/-! ## placing -/

theorem id_of_place? {p : Placement} {w : Widget} (h : d.place? p = some w) : w.id = p.id := by
  obtain ⟨found, hf, rfl⟩ := Option.map_eq_some_iff.1 h
  exact id_of_find? hf

/-- a widget is placed as itself, in the size of the placement -/
theorem place?_of_mem (h : d.widgetIds.Nodup) {w : Widget} (hw : w ∈ d.widgets)
    (size : WidgetSize) : d.place? ⟨w.id, size⟩ = some { w with size := size } := by
  have hf : (d.find? w.id).map (·.2) = some w := by
    rw [map_snd_find?]
    exact find?_key_of_mem h hw
  obtain ⟨p, hp, rfl⟩ := Option.map_eq_some_iff.1 hf
  simp [place?, hp]

theorem mem_unplaced {placed : List String} {id : String} {w : Widget} :
    w ∈ d.unplaced placed id ↔ ∃ s, d.section? id = some s ∧ w ∈ s.widgets ∧ w.id ∉ placed := by
  unfold unplaced
  cases d.section? id with
  | none => simp
  | some s => simp

/-! ## ids of layouts -/

theorem placed_layout (d : Dashboard) : Layout.placed d.layout = d.widgetIds := by
  simp [Layout.placed, layout, Section.layout, widgetIds_eq_flatMap, List.flatMap_map,
    Function.comp_def]

theorem sectionIds_layout (d : Dashboard) : d.layout.map (·.id) = d.sectionIds := by
  simp [layout, Section.layout, sectionIds]

theorem mem_sectionIds_of_mem_layout {s : SectionLayout} (h : s ∈ d.layout) :
    s.id ∈ d.sectionIds := by
  rw [← sectionIds_layout]
  exact List.mem_map_of_mem h

theorem sectionIds_applyLayout (d : Dashboard) (l : Layout) :
    (d.applyLayout l).sectionIds = l.map (·.id) := by
  simp [applyLayout, layOut, sectionIds]

/-- the widgets that a layout leaves: what it places and the dashboard has, and what it does not
place in the sections it has -/
theorem mem_widgetIds_applyLayout {l : Layout} {id : String} :
    id ∈ (d.applyLayout l).widgetIds ↔
      id ∈ Layout.placed l ∧ id ∈ d.widgetIds ∨
      ∃ s ∈ l, ∃ t, d.section? s.id = some t ∧ id ∈ t.widgets.map (·.id) := by
  constructor
  · intro h
    obtain ⟨t, ht, w, hw, rfl⟩ := mem_widgetIds.1 h
    obtain ⟨s, hs, rfl⟩ := List.mem_map.1 ht
    rcases List.mem_append.1 hw with hw | hw
    · obtain ⟨p, hp, hw⟩ := List.mem_filterMap.1 hw
      have hid := id_of_place? hw
      refine Or.inl ⟨List.mem_flatMap.2 ⟨s, hs, List.mem_map.2 ⟨p, hp, hid.symm⟩⟩, ?_⟩
      obtain ⟨found, hf, -⟩ := Option.map_eq_some_iff.1 hw
      by_contra hno
      rw [hid, ← find?_eq_none_iff, hf] at hno
      exact nomatch hno
    · obtain ⟨t, ht, hw, -⟩ := mem_unplaced.1 hw
      exact Or.inr ⟨s, hs, t, ht, List.mem_map_of_mem hw⟩
  · intro h
    -- a widget that is placed is found, wherever it was
    have hplaced : id ∈ Layout.placed l → id ∈ d.widgetIds → id ∈ (d.applyLayout l).widgetIds := by
      intro hl hd
      obtain ⟨s, hs, hin⟩ := List.mem_flatMap.1 hl
      obtain ⟨p, hp, rfl⟩ := List.mem_map.1 hin
      cases hf : d.find? p.id with
      | none => exact absurd hd (find?_eq_none_iff.1 hf)
      | some found =>
        refine mem_widgetIds.2 ⟨d.layOut (Layout.placed l) s, List.mem_map_of_mem hs,
          { found.2 with size := p.size }, List.mem_append_left _ ?_, id_of_find? hf⟩
        exact List.mem_filterMap.2 ⟨p, hp, by simp [place?, hf]⟩
    rcases h with ⟨hl, hd⟩ | ⟨s, hs, t, ht, hid⟩
    · exact hplaced hl hd
    · obtain ⟨w, hw, rfl⟩ := List.mem_map.1 hid
      by_cases hl : w.id ∈ Layout.placed l
      · exact hplaced hl (mem_widgetIds_of_mem (mem_sections_of_section? ht) hw)
      · refine mem_widgetIds.2 ⟨d.layOut (Layout.placed l) s, List.mem_map_of_mem hs, w, ?_, rfl⟩
        exact List.mem_append_right _ (mem_unplaced.2 ⟨t, ht, hw, hl⟩)

/-! ## no widget twice -/

theorem map_id_filterMap_place?_sublist (d : Dashboard) (ps : List Placement) :
    ((ps.filterMap d.place?).map (·.id)).Sublist (ps.map (·.id)) := by
  induction ps with
  | nil => exact List.Sublist.refl _
  | cons p ps ih =>
    cases hp : d.place? p with
    | none =>
      rw [List.filterMap_cons_none hp]
      exact ih.cons _
    | some w =>
      rw [List.filterMap_cons_some hp, List.map_cons, List.map_cons, id_of_place? hp]
      exact ih.cons_cons _

theorem map_id_unplaced_sublist (placed : List String) {id : String} {s : Section}
    (h : d.section? id = some s) :
    ((d.unplaced placed id).map (·.id)).Sublist (s.widgets.map (·.id)) := by
  rw [unplaced, h]
  exact List.filter_sublist.map _

/-- the ids of what is laid out in a section are placed there, or are not placed and were in the
section of that id -/
theorem mem_ids_layOut {placed : List String} {s : SectionLayout} {id : String}
    (h : id ∈ (d.layOut placed s).widgets.map (·.id)) :
    id ∈ s.widgets.map (·.id) ∨
      id ∉ placed ∧ ∃ w ∈ d.unplaced placed s.id, w.id = id := by
  obtain ⟨w, hw, rfl⟩ := List.mem_map.1 h
  rcases List.mem_append.1 hw with hw | hw
  · exact Or.inl ((map_id_filterMap_place?_sublist d s.widgets).subset (List.mem_map_of_mem hw))
  · obtain ⟨t, ht, -, hp⟩ := mem_unplaced.1 hw
    exact Or.inr ⟨hp, w, hw, rfl⟩

theorem nodup_ids_layOut (h : d.widgetIds.Nodup) {placed : List String} {s : SectionLayout}
    (hs : (s.widgets.map (·.id)).Nodup) (hp : ∀ p ∈ s.widgets, p.id ∈ placed) :
    ((d.layOut placed s).widgets.map (·.id)).Nodup := by
  have hfirst := (map_id_filterMap_place?_sublist d s.widgets).nodup hs
  have hsecond : ((d.unplaced placed s.id).map (·.id)).Nodup := by
    cases ht : d.section? s.id with
    | none => simp [unplaced, ht]
    | some t =>
      have hnodup := nodup_ids_of_mem h (mem_sections_of_section? ht)
      exact (map_id_unplaced_sublist placed ht).nodup hnodup
  rw [layOut, List.map_append, List.nodup_append]
  refine ⟨hfirst, hsecond, fun a ha b hb hab => ?_⟩
  -- what is left in the section was not placed
  obtain ⟨p, hmem, rfl⟩ := List.mem_map.1 ((map_id_filterMap_place?_sublist d s.widgets).subset ha)
  obtain ⟨w, hw, rfl⟩ := List.mem_map.1 hb
  obtain ⟨-, -, -, hno⟩ := mem_unplaced.1 hw
  exact hno (hab ▸ hp p hmem)

/-- **No widget is there twice behind a layout** that places none twice and has no section twice in
which something would be left over. -/
theorem nodup_widgetIds_applyLayout {l : Layout} (h : d.widgetIds.Nodup)
    (hl : (Layout.placed l).Nodup)
    (honce : l.Pairwise fun s t => s.id = t.id → d.unplaced (Layout.placed l) s.id = []) :
    (d.applyLayout l).widgetIds.Nodup := by
  have hplaced {s : SectionLayout} (hs : s ∈ l) {id : String} (hid : id ∈ s.widgets.map (·.id)) :
      id ∈ Layout.placed l := List.mem_flatMap.2 ⟨s, hs, hid⟩
  obtain ⟨hin, hacross⟩ := List.nodup_flatMap.1 hl
  rw [widgetIds_eq_flatMap, applyLayout, List.flatMap_map, List.nodup_flatMap]
  constructor
  · intro s hs
    exact nodup_ids_layOut h (hin s hs) fun p hp => hplaced hs (List.mem_map_of_mem hp)
  · refine (hacross.and honce).imp_of_mem fun {s t} hs ht hst => ?_
    intro id hids hidt
    rcases mem_ids_layOut hids with hids | ⟨hno, w, hw, rfl⟩
    · rcases mem_ids_layOut hidt with hidt | ⟨hno, -⟩
      · exact hst.1 hids hidt
      · exact hno (hplaced hs hids)
    · rcases mem_ids_layOut hidt with hidt | ⟨-, v, hv, hvw⟩
      · exact hno (hplaced ht hidt)
      · -- left over in both: the two are one section of the dashboard
        obtain ⟨x, hx, hwx, -⟩ := mem_unplaced.1 hw
        obtain ⟨y, hy, hvy, -⟩ := mem_unplaced.1 hv
        have hxy : x = y := section_eq_of_shared h (mem_sections_of_section? hx)
          (mem_sections_of_section? hy) (List.mem_map_of_mem hwx)
          (hvw ▸ List.mem_map_of_mem hvy)
        have hid : s.id = t.id := by
          rw [← id_of_section? hx, ← id_of_section? hy, hxy]
        rw [hst.2 hid] at hw
        exact nomatch hw

end Dashboard

end WidgetBoard
