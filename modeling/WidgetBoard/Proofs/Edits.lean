import WidgetBoard.Store.Memory

/-!
# What a store keeps

Said once for all calls: what a call leaves of a dashboard, and where what is new on it comes from.

* `Dashboard.configs`     what the widgets of a dashboard show;
* `Call.config?`, `Call.filters?`   what a call writes, with the dashboard it is for;
* `Call.Edits c id d e`   `c` may turn `d`, kept under `id`, into `e`: what `e` shows was there or is
                          written by `c`, and so are its filters;
* `Store.edits_of_answer` every dashboard behind a call was there before or is edited by the call.
-/

namespace WidgetBoard

def Dashboard.configs (d : Dashboard) : List Config :=
  d.widgets.map (·.config)

/-! ## lists -/

theorem mem_updateFirst {α : Type} {key : α → String} {k : String} {f : α → α} {l : List α} {a : α}
    (h : a ∈ updateFirst key k f l) : a ∈ l ∨ ∃ b ∈ l, a = f b := by
  induction l with
  | nil => exact nomatch h
  | cons b l ih =>
    rw [updateFirst] at h
    split at h
    · rcases List.mem_cons.1 h with rfl | h
      · exact Or.inr ⟨b, List.mem_cons_self, rfl⟩
      · exact Or.inl (List.mem_cons_of_mem _ h)
    · rcases List.mem_cons.1 h with rfl | h
      · exact Or.inl List.mem_cons_self
      · rcases ih h with h | ⟨c, hc, rfl⟩
        · exact Or.inl (List.mem_cons_of_mem _ h)
        · exact Or.inr ⟨c, List.mem_cons_of_mem _ hc, rfl⟩

/-! ## edits of a dashboard -/

namespace Dashboard

variable {d : Dashboard} {c : Config}

theorem mem_widgets {w : Widget} : w ∈ d.widgets ↔ ∃ s ∈ d.sections, w ∈ s.widgets :=
  List.mem_flatMap

theorem mem_configs : c ∈ d.configs ↔ ∃ s ∈ d.sections, ∃ w ∈ s.widgets, w.config = c := by
  constructor
  · intro h
    obtain ⟨w, hw, hc⟩ := List.mem_map.1 h
    obtain ⟨s, hs, hw⟩ := mem_widgets.1 hw
    exact ⟨s, hs, w, hw, hc⟩
  · rintro ⟨s, hs, w, hw, hc⟩
    exact List.mem_map.2 ⟨w, mem_widgets.2 ⟨s, hs, hw⟩, hc⟩

theorem mem_sections_of_section? {s : Section} {id : String} (h : d.section? id = some s) :
    s ∈ d.sections :=
  List.mem_of_find?_eq_some h

theorem mem_widgets_of_find? {p : Section × Widget} {id : String} (h : d.find? id = some p) :
    p.2 ∈ d.widgets := by
  obtain ⟨s, hs, hp⟩ := List.mem_flatMap.1 (List.mem_of_find?_eq_some h)
  obtain ⟨w, hw, rfl⟩ := List.mem_map.1 hp
  exact mem_widgets.2 ⟨s, hs, hw⟩

theorem configs_withoutWidget (id : String) (h : c ∈ (d.withoutWidget id).configs) :
    c ∈ d.configs := by
  obtain ⟨t, ht, w, hw, hc⟩ := mem_configs.1 h
  obtain ⟨s, hs, rfl⟩ := List.mem_map.1 ht
  exact mem_configs.2 ⟨s, hs, w, (List.mem_filter.1 hw).1, hc⟩

/-- a layout shows nothing new, however old it is -/
theorem configs_applyLayout (l : Layout) (h : c ∈ (d.applyLayout l).configs) : c ∈ d.configs := by
  obtain ⟨t, ht, w, hw, hc⟩ := mem_configs.1 h
  obtain ⟨s, _, rfl⟩ := List.mem_map.1 ht
  rcases List.mem_append.1 hw with hw | hw
  · -- placed by the layout: a widget of the dashboard in another size
    obtain ⟨p, _, hp⟩ := List.mem_filterMap.1 hw
    obtain ⟨found, hf, rfl⟩ := Option.map_eq_some_iff.1 hp
    exact List.mem_map.2 ⟨found.2, mem_widgets_of_find? hf, hc⟩
  · -- not placed: left in its section
    unfold unplaced at hw
    split at hw
    · next u hu =>
      exact mem_configs.2 ⟨u, mem_sections_of_section? hu, w, (List.mem_filter.1 hw).1, hc⟩
    · exact nomatch hw

end Dashboard

namespace Store

variable {d e : Dashboard} {w v : Widget} {c : Config}

theorem configs_addWidget {sectionId : String} (h : addWidget sectionId w d = .ok (v, e)) :
    e.view = d.view ∧ e.nativeFilters = d.nativeFilters ∧
      ∀ c ∈ e.configs, c ∈ d.configs ∨ c = w.config := by
  unfold addWidget at h
  split at h
  · exact nomatch h
  · cases h
    refine ⟨rfl, rfl, fun c hc => ?_⟩
    obtain ⟨t, ht, u, hu, rfl⟩ := Dashboard.mem_configs.1 hc
    rcases mem_updateFirst ht with ht | ⟨s, hs, rfl⟩
    · exact Or.inl (Dashboard.mem_configs.2 ⟨t, ht, u, hu, rfl⟩)
    · rcases List.mem_append.1 hu with hu | hu
      · exact Or.inl (Dashboard.mem_configs.2 ⟨s, hs, u, hu, rfl⟩)
      · exact Or.inr (congrArg Widget.config (List.mem_singleton.1 hu))

theorem mem_replaceIn {ss : List Section} {t : Section} {u : Widget} (ht : t ∈ replaceIn w ss)
    (hu : u ∈ t.widgets) : (∃ s ∈ ss, u ∈ s.widgets) ∨ u = w := by
  induction ss with
  | nil => exact nomatch ht
  | cons s ss ih =>
    rw [replaceIn] at ht
    split at ht
    · rcases List.mem_cons.1 ht with rfl | ht
      · rcases mem_updateFirst hu with hu | ⟨_, _, rfl⟩
        · exact Or.inl ⟨s, List.mem_cons_self, hu⟩
        · exact Or.inr rfl
      · exact Or.inl ⟨t, List.mem_cons_of_mem _ ht, hu⟩
    · rcases List.mem_cons.1 ht with rfl | ht
      · exact Or.inl ⟨t, List.mem_cons_self, hu⟩
      · rcases ih ht with ⟨x, hx, hu⟩ | rfl
        · exact Or.inl ⟨x, List.mem_cons_of_mem _ hx, hu⟩
        · exact Or.inr rfl

theorem configs_replaceWidget (h : replaceWidget w d = .ok (v, e)) :
    e.view = d.view ∧ e.nativeFilters = d.nativeFilters ∧
      ∀ c ∈ e.configs, c ∈ d.configs ∨ c = w.config := by
  unfold replaceWidget at h
  split at h
  · exact nomatch h
  · cases h
    refine ⟨rfl, rfl, fun c hc => ?_⟩
    obtain ⟨t, ht, u, hu, rfl⟩ := Dashboard.mem_configs.1 hc
    rcases mem_replaceIn ht hu with ⟨s, hs, hu⟩ | rfl
    · exact Or.inl (Dashboard.mem_configs.2 ⟨s, hs, u, hu, rfl⟩)
    · exact Or.inr rfl

end Store

/-! ## edits of a store -/

/-- the configuration that a call writes, with the dashboard it is for -/
def Call.config? : Call → Option (String × Config)
  | .createWidget id w => some (id, w.config)
  | .updateWidget id w => some (id, w.config)
  | .dashboard _ | .viewColumns _ | .deleteWidget .. | .saveLayout .. | .saveNativeFilters .. => none

/-- the filters that a call writes, with the dashboard they are for -/
def Call.filters? : Call → Option (String × List Filter)
  | .saveNativeFilters id fs => some (id, fs)
  | .dashboard _ | .viewColumns _ | .createWidget .. | .updateWidget .. | .deleteWidget ..
  | .saveLayout .. => none

structure Call.Edits (c : Call) (id : String) (d e : Dashboard) : Prop where
  view : e.view = d.view
  configs : ∀ x ∈ e.configs, x ∈ d.configs ∨ c.config? = some (id, x)
  filters : e.nativeFilters = d.nativeFilters ∨ c.filters? = some (id, e.nativeFilters)

namespace Store

theorem views_modify {α : Type} (s : Store) (id : String)
    (edit : Dashboard → Except StoreError (α × Dashboard)) : (s.modify id edit).2.views = s.views := by
  unfold modify
  split
  · rfl
  · split <;> rfl

/-- a dashboard behind a change was there, or is what the change makes of one, stamped -/
theorem get?_modify {α : Type} {s : Store} {id k : String} {e : Dashboard}
    {edit : Dashboard → Except StoreError (α × Dashboard)}
    (h : (s.modify id edit).2.dashboards.get? k = some e) :
    s.dashboards.get? k = some e ∨ k = id ∧ ∃ d a e', s.dashboards.get? id = some d ∧
      edit d = .ok (a, e') ∧ e = { e' with updatedAt := some .thisSession } := by
  unfold modify at h
  split at h
  · exact Or.inl h
  · next d hd =>
    split at h
    · exact Or.inl h
    · next a e' he =>
      rw [Dictionary.get?_insert] at h
      split at h
      · next hk => exact Or.inr ⟨hk, d, a, e', hd, he, (Option.some.inj h).symm⟩
      · exact Or.inl h

theorem views_answer (s : Store) (c : Call) : (s.answer c).2.views = s.views := by
  cases c with
  | dashboard id => rfl
  | viewColumns id =>
    rw [answer]
    split <;> rfl
  | createWidget | updateWidget | deleteWidget | saveLayout | saveNativeFilters =>
    exact views_modify ..

/-- **A dashboard behind a call was there before, or the call edited it.** -/
theorem edits_of_answer {s : Store} {c : Call} {id : String} {e : Dashboard}
    (h : (s.answer c).2.dashboards.get? id = some e) :
    s.dashboards.get? id = some e ∨ ∃ d, s.dashboards.get? id = some d ∧ c.Edits id d e := by
  cases c with
  | dashboard => exact Or.inl h
  | viewColumns =>
    rw [answer] at h
    split at h <;> exact Or.inl h
  | createWidget k w =>
    rcases get?_modify h with h | ⟨rfl, d, a, e', hd, he, rfl⟩
    · exact Or.inl h
    · obtain ⟨hv, hf, hc⟩ := configs_addWidget he
      refine Or.inr ⟨d, hd, hv, fun x hx => ?_, Or.inl hf⟩
      exact (hc x hx).imp_right fun hw => by rw [Call.config?, hw]; rfl
  | updateWidget k w =>
    rcases get?_modify h with h | ⟨rfl, d, a, e', hd, he, rfl⟩
    · exact Or.inl h
    · obtain ⟨hv, hf, hc⟩ := configs_replaceWidget he
      refine Or.inr ⟨d, hd, hv, fun x hx => ?_, Or.inl hf⟩
      exact (hc x hx).imp_right fun hw => by rw [Call.config?, hw]
  | deleteWidget k w =>
    rcases get?_modify h with h | ⟨rfl, d, a, e', hd, he, rfl⟩
    · exact Or.inl h
    · cases he
      exact Or.inr ⟨d, hd, rfl, fun x hx => Or.inl (Dashboard.configs_withoutWidget w hx), Or.inl rfl⟩
  | saveLayout k l =>
    rcases get?_modify h with h | ⟨rfl, d, a, e', hd, he, rfl⟩
    · exact Or.inl h
    · cases he
      exact Or.inr ⟨d, hd, rfl, fun x hx => Or.inl (Dashboard.configs_applyLayout l hx), Or.inl rfl⟩
  | saveNativeFilters k fs =>
    rcases get?_modify h with h | ⟨rfl, d, a, e', hd, he, rfl⟩
    · exact Or.inl h
    · cases he
      exact Or.inr ⟨d, hd, rfl, fun x hx => Or.inl hx, Or.inr rfl⟩

end Store

end WidgetBoard
