import Mathlib.Data.List.Flatten
import Mathlib.Data.List.Perm.Subperm
import WidgetBoard.Proofs.Canonical
import WidgetBoard.Proofs.Distinct

/-!
# Saving the layout of an edited dashboard

A change of the layout is made on the dashboard that was loaded, and then its layout alone is
saved.  Here is when the store makes of the layout what the edit made of the dashboard.

* `Dashboard.LaysOut e d`       `e` has widgets of `d` in other places and sizes, and leaves out none
                                of a section that it keeps;
* `Dashboard.Rearranges m e d`  the same as an edit guarantees it, with `m` the id of a new section:
                                no section is doubled, and columns stay as they were or are clamped;
* `Section.Rearranges t s`      the same for the widgets of one section.

Main statement: `Dashboard.LaysOut.applyLayout` (the layout of `e` makes `d` into `e`, with clamped
columns).
-/

namespace WidgetBoard

/-! ## lists -/

theorem moveItem_perm {α : Type} (l : List α) (i j : Nat) : (moveItem l i j).Perm l := by
  unfold moveItem
  cases h : l[i]? with
  | none => exact List.Perm.refl l
  | some a =>
    obtain ⟨hi, rfl⟩ := List.getElem?_eq_some_iff.1 h
    have hmid : ((l.eraseIdx i).take j ++ l[i] :: (l.eraseIdx i).drop j).Perm
        (l[i] :: ((l.eraseIdx i).take j ++ (l.eraseIdx i).drop j)) := List.perm_middle
    rw [List.take_append_drop] at hmid
    exact hmid.trans (List.getElem_cons_eraseIdx_perm hi)

section

variable {α : Type} (key : α → String) {a : α} {l : List α}

theorem upsertBy_eq_append (h : key a ∉ l.map key) : upsertBy key a l = l ++ [a] := by
  induction l with
  | nil => rfl
  | cons b l ih =>
    obtain ⟨hb, hl⟩ := not_or.1 (mt List.mem_cons.2 h)
    rw [upsertBy, if_neg fun he => hb he.symm, ih hl]
    rfl

/-- an item with the key of `a` makes room for it -/
theorem exists_upsertBy_eq {b : α} (h : l.find? (fun c => key c == key a) = some b) :
    ∃ l₁ l₂, l = l₁ ++ b :: l₂ ∧ upsertBy key a l = l₁ ++ a :: l₂ := by
  induction l with
  | nil => exact nomatch h
  | cons c l ih =>
    by_cases hc : key c = key a
    · rw [List.find?_cons_of_pos (by simpa using hc)] at h
      obtain rfl := Option.some.inj h
      exact ⟨[], l, rfl, by rw [upsertBy, if_pos hc]; rfl⟩
    · rw [List.find?_cons_of_neg (by simpa using hc)] at h
      obtain ⟨l₁, l₂, rfl, he⟩ := ih h
      exact ⟨c :: l₁, l₂, rfl, by rw [upsertBy, if_neg hc, he]; rfl⟩

end

/-! ## clamped columns -/

def Section.clamped (s : Section) : Section :=
  s.withColumns s.columns

namespace Dashboard

def clamped (d : Dashboard) : Dashboard :=
  { d with sections := d.sections.map Section.clamped }

/-- every section has one to four columns -/
def InRange (d : Dashboard) : Prop :=
  ∀ s ∈ d.sections, 1 ≤ s.columns ∧ s.columns ≤ 4

theorem clamped_eq_self {d : Dashboard} (h : d.InRange) : d.clamped = d := by
  have hs : d.sections.map Section.clamped = d.sections := by
    refine map_eq_self fun s hs => ?_
    rw [Section.clamped, Section.withColumns, clampColumns_eq_self (h s hs)]
  rw [clamped, hs]

end Dashboard

/-! ## what an edit keeps -/

/-- a widget but for its size -/
def Widget.unsized (w : Widget) : Widget :=
  { w with size := {} }

theorem Widget.eq_of_unsized_eq {v w : Widget} (h : v.unsized = w.unsized) :
    w = { v with size := w.size } := by
  cases v
  cases w
  simpa [unsized, eq_comm] using h

/-- the widgets of the section, in any order and with any sizes -/
structure Section.Rearranges (t s : Section) : Prop where
  id : t.id = s.id
  widgets : (t.widgets.map Widget.unsized).Perm (s.widgets.map Widget.unsized)
  columns : t.columns = s.columns ∨ ∃ n, t.columns = clampColumns n

namespace Dashboard

def unsized (d : Dashboard) : List Widget :=
  d.widgets.map Widget.unsized

structure LaysOut (e d : Dashboard) : Prop where
  frame : e = { d with sections := e.sections }
  widgets : e.unsized.Subperm d.unsized
  whole : ∀ s ∈ d.sections, s.id ∈ e.sectionIds → ∀ w ∈ s.widgets, w.id ∈ e.widgetIds

structure Rearranges (made : Option String) (e d : Dashboard) : Prop where
  frame : e = { d with sections := e.sections }
  widgets : e.unsized.Subperm d.unsized
  /-- a section that is kept keeps its widgets, unless a new one takes its place -/
  whole : ∀ s ∈ d.sections, s.id ∈ e.sectionIds → made ≠ some s.id →
    ∀ w ∈ s.widgets, w.id ∈ e.widgetIds
  once : ∀ id, e.sectionIds.count id ≤ max 1 (d.sectionIds.count id)
  columns : ∀ s ∈ e.sections,
    (∃ t ∈ d.sections, s.columns = t.columns) ∨ ∃ n, s.columns = clampColumns n

variable {d e : Dashboard} {made : Option String}

theorem map_id_unsized (d : Dashboard) : d.unsized.map (·.id) = d.widgetIds := by
  simp [unsized, widgetIds, Widget.unsized]

theorem unsized_eq_flatMap (d : Dashboard) :
    d.unsized = d.sections.flatMap fun s => s.widgets.map Widget.unsized :=
  List.map_flatMap

theorem subperm_widgetIds (h : e.unsized.Subperm d.unsized) :
    e.widgetIds.Subperm d.widgetIds := by
  obtain ⟨l, hl, hs⟩ := h
  rw [← map_id_unsized, ← map_id_unsized]
  exact ⟨l.map (·.id), hl.map _, hs.map _⟩

theorem nodup_widgetIds_of_subperm (h : e.unsized.Subperm d.unsized) (hd : d.widgetIds.Nodup) :
    e.widgetIds.Nodup := by
  rw [List.nodup_iff_count_le_one] at hd ⊢
  exact fun id => Nat.le_trans ((subperm_widgetIds h).count_le id) (hd id)

theorem Rearranges.laysOut (h : e.Rearranges made d)
    (hmade : ∀ id, made = some id → id ∉ d.sectionIds) : e.LaysOut d where
  frame := h.frame
  widgets := h.widgets
  whole s hs hid :=
    h.whole s hs hid fun hm => hmade s.id hm (List.mem_map_of_mem hs)

theorem Rearranges.distinct (h : e.Rearranges made d) (hd : d.Distinct) : e.Distinct where
  sections := by
    rw [List.nodup_iff_count_le_one]
    intro id
    have hold := List.nodup_iff_count_le_one.1 hd.sections id
    have hnew := h.once id
    omega
  widgets := nodup_widgetIds_of_subperm h.widgets hd.widgets

theorem Rearranges.inRange (h : e.Rearranges made d) (hd : d.InRange) : e.InRange := by
  intro s hs
  rcases h.columns s hs with ⟨t, ht, hst⟩ | ⟨n, hn⟩
  · exact hst ▸ hd t ht
  · exact hn ▸ clampColumns_mem n

/-! ## the layout makes the edit -/

/-- a widget of the edited dashboard is placed as it is there -/
theorem LaysOut.place?_of_mem (h : e.LaysOut d) (hd : d.widgetIds.Nodup) {w : Widget}
    (hw : w ∈ e.widgets) : d.place? ⟨w.id, w.size⟩ = some w := by
  obtain ⟨v, hv, hvw⟩ := List.mem_map.1 (h.widgets.subset (List.mem_map_of_mem hw))
  have hid : v.id = w.id := congrArg (fun u => u.id) hvw
  rw [← hid, Dashboard.place?_of_mem hd hv]
  exact congrArg some (Widget.eq_of_unsized_eq hvw).symm

/-- nothing is left over in a section whose widgets the edited dashboard all has -/
theorem unplaced_layout_eq_nil {id : String}
    (h : ∀ s, d.section? id = some s → ∀ w ∈ s.widgets, w.id ∈ e.widgetIds) :
    d.unplaced (Layout.placed e.layout) id = [] := by
  rw [placed_layout, List.eq_nil_iff_forall_not_mem]
  intro w hleft
  obtain ⟨s, hs, hw, hno⟩ := mem_unplaced.1 hleft
  exact hno (h s hs w hw)

theorem Rearranges.unplaced_eq_nil (h : e.Rearranges made d) {id : String}
    (hid : id ∈ e.sectionIds) (hmade : made ≠ some id) :
    d.unplaced (Layout.placed e.layout) id = [] := by
  refine unplaced_layout_eq_nil fun s hs => ?_
  rw [← id_of_section? hs] at hid hmade
  exact h.whole s (mem_sections_of_section? hs) hid hmade

theorem LaysOut.unplaced_eq_nil (h : e.LaysOut d) {id : String} (hid : id ∈ e.sectionIds) :
    d.unplaced (Layout.placed e.layout) id = [] := by
  refine unplaced_layout_eq_nil fun s hs => ?_
  rw [← id_of_section? hs] at hid
  exact h.whole s (mem_sections_of_section? hs) hid

theorem LaysOut.layOut (h : e.LaysOut d) (hd : d.widgetIds.Nodup) {s : Section}
    (hs : s ∈ e.sections) :
    d.layOut (Layout.placed e.layout) s.layout = s.clamped := by
  have hplaced : s.layout.widgets.filterMap d.place? = s.widgets := by
    rw [Section.layout, List.filterMap_map]
    exact filterMap_eq_self fun w hw => h.place?_of_mem hd (mem_widgets.2 ⟨s, hs, hw⟩)
  have hrest : d.unplaced (Layout.placed e.layout) s.layout.id = [] :=
    h.unplaced_eq_nil (List.mem_map_of_mem hs)
  rw [Dashboard.layOut, hplaced, hrest, List.append_nil]
  rfl

/-- **The layout of an edited dashboard makes the edit**, and clamps the columns. -/
theorem LaysOut.applyLayout (h : e.LaysOut d) (hd : d.widgetIds.Nodup) :
    d.applyLayout e.layout = e.clamped := by
  have hs : e.layout.map (d.layOut (Layout.placed e.layout)) = e.sections.map Section.clamped := by
    rw [layout, List.map_map]
    exact List.map_congr_left fun s hs => h.layOut hd hs
  rw [Dashboard.applyLayout, hs, clamped, h.frame]

/-! ## the edits -/

/-- nothing is left out where all widgets are still there -/
theorem whole_of_perm (h : e.unsized.Perm d.unsized) {s : Section} (hs : s ∈ d.sections)
    {w : Widget} (hw : w ∈ s.widgets) : w.id ∈ e.widgetIds := by
  rw [← map_id_unsized, (h.map _).mem_iff, map_id_unsized]
  exact mem_widgetIds_of_mem hs hw

/-- with all widgets still there, wherever they are -/
theorem LaysOut.of_perm (hframe : e = { d with sections := e.sections })
    (h : e.unsized.Perm d.unsized) : e.LaysOut d where
  frame := hframe
  widgets := h.subperm
  whole _ hs _ _ hw := whole_of_perm h hs hw

/-- a section takes the place of the first with its id, or is put behind all others -/
theorem exists_withSection_eq (d : Dashboard) (t : Section) :
    ∃ l₁ l₂, d.sections = l₁ ++ (d.section? t.id).toList ++ l₂ ∧
      (d.withSection t).sections = l₁ ++ t :: l₂ := by
  cases hs : d.section? t.id with
  | none =>
    refine ⟨d.sections, [], by simp, ?_⟩
    exact upsertBy_eq_append (fun s : Section => s.id) (section?_eq_none_iff.1 hs)
  | some s =>
    obtain ⟨l₁, l₂, hd, he⟩ := exists_upsertBy_eq (fun s : Section => s.id) hs
    exact ⟨l₁, l₂, by simpa using hd, he⟩

theorem mem_sections_of_withSection {t u : Section} (h : u ∈ (d.withSection t).sections) :
    u = t ∨ u ∈ d.sections := by
  obtain ⟨l₁, l₂, hd, he⟩ := exists_withSection_eq d t
  rw [he, List.mem_append, List.mem_cons] at h
  rw [hd, List.mem_append, List.mem_append]
  rcases h with h | h | h
  · exact Or.inr (Or.inl (Or.inl h))
  · exact Or.inl h
  · exact Or.inr (Or.inr h)

theorem mem_sectionIds_withSection {t : Section} {id : String} :
    id ∈ (d.withSection t).sectionIds ↔ id ∈ d.sectionIds ∨ id = t.id := by
  obtain ⟨l₁, l₂, hd, he⟩ := exists_withSection_eq d t
  have hnew : id ∈ (d.withSection t).sectionIds ↔
      id ∈ l₁.map (·.id) ∨ id = t.id ∨ id ∈ l₂.map (·.id) := by
    rw [sectionIds, he, List.map_append, List.map_cons, List.mem_append, List.mem_cons]
  have hold : id ∈ d.sectionIds ↔
      (id ∈ l₁.map (·.id) ∨ id ∈ (d.section? t.id).toList.map (·.id)) ∨ id ∈ l₂.map (·.id) := by
    rw [sectionIds, hd, List.map_append, List.map_append, List.mem_append, List.mem_append]
  have hmid : id ∈ (d.section? t.id).toList.map (·.id) → id = t.id := by
    intro h
    obtain ⟨s, hs, rfl⟩ := List.mem_map.1 h
    exact id_of_section? (Option.mem_toList.1 hs)
  rw [hnew, hold]
  constructor
  · rintro (h | h | h)
    · exact Or.inl (Or.inl (Or.inl h))
    · exact Or.inr h
    · exact Or.inl (Or.inr h)
  · rintro (((h | h) | h) | h)
    · exact Or.inl h
    · exact Or.inr (Or.inl (hmid h))
    · exact Or.inr (Or.inr h)
    · exact Or.inr (Or.inl h)

/-- no section is doubled -/
theorem count_sectionIds_withSection (d : Dashboard) (t : Section) (id : String) :
    (d.withSection t).sectionIds.count id ≤ max 1 (d.sectionIds.count id) := by
  obtain ⟨l₁, l₂, hd, he⟩ := exists_withSection_eq d t
  have hnew : (d.withSection t).sectionIds = l₁.map (·.id) ++ [t.id] ++ l₂.map (·.id) := by
    simp [sectionIds, he]
  have hold : d.sectionIds
      = l₁.map (·.id) ++ (d.section? t.id).toList.map (·.id) ++ l₂.map (·.id) := by
    rw [sectionIds, hd, List.map_append, List.map_append]
  cases hs : d.section? t.id with
  | some s =>
    rw [hs, Option.toList_some, List.map_singleton, id_of_section? hs] at hold
    rw [hnew, hold]
    exact Nat.le_max_right _ _
  | none =>
    by_cases hid : t.id = id
    · have hzero := List.count_eq_zero.2 (section?_eq_none_iff.1 hs)
      rw [hold, hs, hid] at hzero
      simp only [Option.toList_none, List.map_nil, List.append_nil, List.count_append] at hzero
      rw [hnew, hid, List.count_append, List.count_append, List.count_singleton_self]
      omega
    · have hmid : [t.id].count id = 0 := List.count_eq_zero.2 (by simpa using Ne.symm hid)
      rw [hnew, hold, hs]
      simp only [List.count_append, hmid, Option.toList_none, List.map_nil, List.count_nil]
      exact Nat.le_max_right _ _

/-- a section in the place of the first with its id -/
theorem perm_unsized_withSection {s t : Section} (hs : d.section? s.id = some s)
    (h : t.Rearranges s) : (d.withSection t).unsized.Perm d.unsized := by
  obtain ⟨l₁, l₂, hd, he⟩ := exists_withSection_eq d t
  rw [h.id, hs, Option.toList_some, List.append_assoc, List.singleton_append] at hd
  simp only [unsized_eq_flatMap, he, hd, List.flatMap_append, List.flatMap_cons]
  exact (h.widgets.append_right _).append_left _

theorem rearranges_withSection {s t : Section} (hs : d.section? s.id = some s)
    (h : t.Rearranges s) : (d.withSection t).Rearranges none d := by
  have hperm := perm_unsized_withSection hs h
  refine ⟨rfl, hperm.subperm, fun _ hs _ _ _ hw => whole_of_perm hperm hs hw,
    count_sectionIds_withSection d t, fun u hu => ?_⟩
  rcases mem_sections_of_withSection hu with rfl | hu
  · exact h.columns.imp_left fun hc => ⟨s, mem_sections_of_section? hs, hc⟩
  · exact Or.inl ⟨u, hu, rfl⟩

/-- a new section, behind the others or in the place of the first with its id -/
theorem rearranges_withSection_new {t : Section} {n : Nat} (ht : t.widgets = [])
    (hn : t.columns = clampColumns n) : (d.withSection t).Rearranges (some t.id) d := by
  obtain ⟨l₁, l₂, hd, he⟩ := exists_withSection_eq d t
  have hsub : (l₁ ++ l₂).Sublist d.sections := by
    rw [hd]
    exact (List.sublist_append_left _ _).append (List.Sublist.refl _)
  have hkept : (d.withSection t).unsized
      = (l₁ ++ l₂).flatMap fun s => s.widgets.map Widget.unsized := by
    simp [unsized_eq_flatMap, he, ht]
  refine ⟨rfl, ?_, fun s hs _ hne w hw => ?_, count_sectionIds_withSection d t, fun s hs => ?_⟩
  · rw [hkept, unsized_eq_flatMap]
    exact (hsub.flatMap _).subperm
  · -- every section but the one that is replaced is still there
    have hrest : s ∈ l₁ ∨ s ∈ l₂ := by
      rw [hd, List.append_assoc, List.mem_append, List.mem_append, Option.mem_toList] at hs
      rcases hs with hs | hs | hs
      · exact Or.inl hs
      · exact absurd (congrArg some (id_of_section? hs).symm) hne
      · exact Or.inr hs
    refine mem_widgetIds_of_mem ?_ hw
    rw [he, List.mem_append, List.mem_cons]
    exact hrest.imp_right Or.inr
  · rcases mem_sections_of_withSection hs with rfl | hs
    · exact Or.inr ⟨n, hn⟩
    · exact Or.inl ⟨s, hs, rfl⟩

theorem rearranges_withoutSection (d : Dashboard) (id : String) :
    (d.withoutSection id).Rearranges none d := by
  have hsub : (d.withoutSection id).sections.Sublist d.sections := List.filter_sublist
  refine ⟨rfl, ?_, fun s hs hid _ w hw => ?_, fun x => ?_, fun s hs => ?_⟩
  · rw [unsized_eq_flatMap, unsized_eq_flatMap]
    exact (hsub.flatMap _).subperm
  · -- a section with the id of one that is left is left too
    obtain ⟨t, ht, hts⟩ := List.mem_map.1 hid
    have hne : decide (s.id ≠ id) = true := hts ▸ (List.mem_filter.1 ht).2
    exact mem_widgetIds_of_mem (List.mem_filter.2 ⟨hs, hne⟩) hw
  · exact Nat.le_trans ((hsub.map _).count_le x) (Nat.le_max_right _ _)
  · exact Or.inl ⟨s, hsub.subset hs, rfl⟩

theorem rearranges_moveItem (d : Dashboard) (i j : Nat) :
    Rearranges none { d with sections := moveItem d.sections i j } d := by
  have hperm := moveItem_perm d.sections i j
  have hunsized : ({ d with sections := moveItem d.sections i j } : Dashboard).unsized.Perm
      d.unsized := by
    rw [unsized_eq_flatMap, unsized_eq_flatMap]
    exact hperm.flatMap_right _
  refine ⟨rfl, hunsized.subperm, fun _ hs _ _ _ hw => whole_of_perm hunsized hs hw, fun x => ?_,
    fun s hs => Or.inl ⟨s, hperm.subset hs, rfl⟩⟩
  exact Nat.le_trans (Nat.le_of_eq ((hperm.map _).count_eq x)) (Nat.le_max_right _ _)

end Dashboard

end WidgetBoard
