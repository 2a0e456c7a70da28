import WidgetBoard.Proofs.Relayout
import WidgetBoard.Proofs.StoreStates

/-!
# Widgets written to a dashboard

* `Dashboard.Adds w d e`           `e` is `d` with one widget more, in one of its sections;
* `Dashboard.KeepsIds d e`         the ids of `d` and `e` are the same;
* `Store.addWidget_of_section?`, `Store.keepsIds_replaceWidget`   which of them a write does.

Main statement: `Store.answer_createWidget` (a created widget is added under the next id).
-/

namespace WidgetBoard

section

variable {α : Type} (key : α → String) {k : String} {f : α → α} {l : List α}

/-- the first item with the key is updated in its place -/
theorem exists_updateFirst_eq {b : α} (h : l.find? (fun c => key c == k) = some b) :
    ∃ l₁ l₂, l = l₁ ++ b :: l₂ ∧ (∀ c ∈ l₁, key c ≠ k) ∧
      updateFirst key k f l = l₁ ++ f b :: l₂ := by
  induction l with
  | nil => exact nomatch h
  | cons c l ih =>
    by_cases hc : key c = k
    · rw [List.find?_cons_of_pos (by simpa using hc)] at h
      obtain rfl := Option.some.inj h
      exact ⟨[], l, rfl, nofun, by rw [updateFirst, if_pos hc]; rfl⟩
    · rw [List.find?_cons_of_neg (by simpa using hc)] at h
      obtain ⟨l₁, l₂, rfl, hne, he⟩ := ih h
      refine ⟨c :: l₁, l₂, rfl, List.forall_mem_cons.2 ⟨hc, hne⟩, ?_⟩
      rw [updateFirst, if_neg hc, he]
      rfl

/-- an update that keeps the key keeps all keys -/
theorem map_key_updateFirst (hf : ∀ b, key (f b) = k) :
    (updateFirst key k f l).map key = l.map key := by
  induction l with
  | nil => rfl
  | cons b l ih =>
    rw [updateFirst]
    split
    · next hb => rw [List.map_cons, List.map_cons, hf, hb]
    · rw [List.map_cons, List.map_cons, ih]

end

namespace Dashboard

structure Adds (w : Widget) (d e : Dashboard) : Prop where
  view : e.view = d.view
  id : e.id = d.id
  sections : e.sectionIds = d.sectionIds
  widgets : e.widgetIds.Perm (w.id :: d.widgetIds)

structure KeepsIds (d e : Dashboard) : Prop where
  view : e.view = d.view
  id : e.id = d.id
  sections : e.sectionIds = d.sectionIds
  widgets : e.widgetIds = d.widgetIds

end Dashboard

namespace Store

variable {s : Store} {d e : Dashboard} {w v : Widget}

/-! ## new widgets -/

/-- a section that is found takes a widget at its end -/
theorem addWidget_eq_of_section? {t : Section} {sectionId : String} (w : Widget)
    (ht : d.section? sectionId = some t) :
    ∃ l₁ l₂, d.sections = l₁ ++ t :: l₂ ∧ (∀ s ∈ l₁, s.id ≠ sectionId) ∧
      addWidget sectionId w d = .ok (w,
        { d with sections := l₁ ++ { t with widgets := t.widgets ++ [w] } :: l₂ }) := by
  obtain ⟨l₁, l₂, hd, hne, he⟩ := exists_updateFirst_eq (fun s : Section => s.id)
    (f := fun s => { s with widgets := s.widgets ++ [w] }) ht
  refine ⟨l₁, l₂, hd, hne, ?_⟩
  rw [addWidget, ht, ← he]

theorem addWidget_of_section? {t : Section} {sectionId : String} (w : Widget)
    (ht : d.section? sectionId = some t) :
    ∃ e, addWidget sectionId w d = .ok (w, e) ∧ d.Adds w e := by
  obtain ⟨l₁, l₂, hd, -, hadd⟩ := addWidget_eq_of_section? w ht
  refine ⟨_, hadd, rfl, rfl, by simp [Dashboard.sectionIds, hd], ?_⟩
  -- the new widget stands behind those of its section
  simp only [Dashboard.widgetIds_eq_flatMap, hd, List.flatMap_append, List.flatMap_cons,
    List.map_append, List.map_cons, List.map_nil, List.append_assoc, List.singleton_append]
  rw [← List.append_assoc, ← List.append_assoc]
  exact List.perm_middle

/-- **A created widget is added to the section it is for, under the next id.** -/
theorem answer_createWidget {t : Section} {id : String} {w : NewWidget}
    (hd : s.dashboards.get? id = some d) (ht : d.section? w.sectionId = some t) :
    ∃ e, d.Adds (w.withId (widgetId s.nextId)) e ∧ s.answer (.createWidget id w)
      = (.ok (w.withId (widgetId s.nextId)), { s with nextId := s.nextId + 1 }.put id e) := by
  obtain ⟨e, he, hadds⟩ := addWidget_of_section? (w.withId (widgetId s.nextId)) ht
  exact ⟨e, hadds, modify_of_ok (s := { s with nextId := s.nextId + 1 }) hd he⟩

/-- a widget that was created has the next id -/
theorem id_of_answer_createWidget {id : String} {new : NewWidget}
    (h : (s.answer (.createWidget id new)).1 = .ok w) : w.id = widgetId s.nextId := by
  cases hd : s.dashboards.get? id with
  | none => simp [answer, modify, hd] at h
  | some d =>
    cases ht : d.section? new.sectionId with
    | none => simp [answer, modify, addWidget, hd, ht] at h
    | some t =>
      obtain ⟨_, -, hans⟩ := answer_createWidget hd ht
      rw [hans] at h
      obtain rfl := Except.ok.inj h
      rfl

/-! ## updated widgets -/

theorem map_id_replaceIn (w : Widget) (ss : List Section) :
    (replaceIn w ss).map (fun s => (s.id, s.widgets.map (·.id)))
      = ss.map fun s => (s.id, s.widgets.map (·.id)) := by
  induction ss with
  | nil => rfl
  | cons s ss ih =>
    rw [replaceIn]
    split
    · have hids := map_key_updateFirst (fun v : Widget => v.id) (k := w.id)
        (f := fun _ => w) (l := s.widgets) fun _ => rfl
      rw [List.map_cons, List.map_cons, hids]
    · rw [List.map_cons, List.map_cons, ih]

theorem keepsIds_replaceWidget (h : replaceWidget w d = .ok (v, e)) : d.KeepsIds e := by
  unfold replaceWidget at h
  split at h
  · exact nomatch h
  · cases h
    have hids := map_id_replaceIn w d.sections
    refine ⟨rfl, rfl, ?_, ?_⟩
    · have hfst := congrArg (List.map Prod.fst) hids
      simpa [Dashboard.sectionIds, Function.comp_def] using hfst
    · have hsnd := congrArg (List.flatMap Prod.snd) hids
      simpa [Dashboard.widgetIds_eq_flatMap, List.flatMap_map] using hsnd

end Store

end WidgetBoard
