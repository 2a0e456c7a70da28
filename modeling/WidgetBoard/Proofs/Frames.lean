import WidgetBoard.Proofs.Refusals
import WidgetBoard.Proofs.WidgetWrites

/-!
# What a request does not touch

* `Dashboard.Replaces x old new d e`   `e` is `d` with a widget of the section `x` replaced;
* `Dashboard.Appends x new d e`        `e` is `d` with a widget more, at the end of the section `x`;
* `Store.KeepsOthers id s t`           `t` has the other dashboards of `s`, and all its views;
* `Session.Confined s id a r t`        what an action on the dashboard `id` with the result `r` may
                                       make of a session `s`.

Main statement: `Session.confined_perform` (whatever is requested, nothing but what the request
names is touched, and nothing at all if it fails).
-/

namespace WidgetBoard

/-! ## one widget -/

namespace Dashboard

/-- `e` is `d`, stamped, with the widget `old` of a section `x` replaced in its place -/
def Replaces (x : String) (old new : Widget) (d e : Dashboard) : Prop :=
  ∃ l₁ t l₂ ws₁ ws₂, d.sections = l₁ ++ t :: l₂ ∧ t.id = x ∧ t.widgets = ws₁ ++ old :: ws₂ ∧
    e = { d with
      sections := l₁ ++ { t with widgets := ws₁ ++ new :: ws₂ } :: l₂
      updatedAt := some .thisSession }

/-- `e` is `d`, stamped, with the widget `new` behind those of the section that is found as `x` -/
def Appends (x : String) (new : Widget) (d e : Dashboard) : Prop :=
  ∃ l₁ t l₂, d.sections = l₁ ++ t :: l₂ ∧ t.id = x ∧ (∀ s ∈ l₁, s.id ≠ x) ∧
    e = { d with
      sections := l₁ ++ { t with widgets := t.widgets ++ [new] } :: l₂
      updatedAt := some .thisSession }

end Dashboard

section

variable {d : Dashboard} {t : Section} {w : Widget} {x : String}

theorem Section.widgetIndex?_isSome_iff {widget : String} :
    (t.widgetIndex? widget).isSome ↔ widget ∈ t.widgets.map (·.id) := by
  simp [widgetIndex?]

/-- a widget is replaced in the first section that has one with its id, in the place of the first
of them -/
theorem Store.exists_replaceIn_eq {ss : List Section} (hs : t ∈ ss)
    (ht : w.id ∈ t.widgets.map (·.id)) :
    ∃ l₁ u l₂ ws₁ old ws₂, ss = l₁ ++ u :: l₂ ∧ u.widgets = ws₁ ++ old :: ws₂ ∧ old.id = w.id ∧
      replaceIn w ss = l₁ ++ { u with widgets := ws₁ ++ w :: ws₂ } :: l₂ := by
  induction ss with
  | nil => exact nomatch hs
  | cons s ss ih =>
    by_cases hhere : (s.widgets.any fun v => v.id == w.id) = true
    · obtain ⟨old, hold⟩ :=
        Option.isSome_iff_exists.1 (List.find?_isSome.2 (List.any_eq_true.1 hhere))
      have hid : old.id = w.id := by simpa using List.find?_some hold
      obtain ⟨ws₁, ws₂, hws, -, hup⟩ := exists_updateFirst_eq (fun v : Widget => v.id)
        (f := fun _ => w) hold
      refine ⟨[], s, ss, ws₁, old, ws₂, rfl, hws, hid, ?_⟩
      rw [replaceIn, if_pos hhere, hup]
      rfl
    · have hin : t ∈ ss := by
        rcases List.mem_cons.1 hs with rfl | hs
        · exact absurd (by simpa using ht) hhere
        · exact hs
      obtain ⟨l₁, u, l₂, ws₁, old, ws₂, rfl, hws, hid, he⟩ := ih hin
      refine ⟨s :: l₁, u, l₂, ws₁, old, ws₂, rfl, hws, hid, ?_⟩
      rw [replaceIn, if_neg hhere, he]
      rfl

/-- on a dashboard with distinct widget ids that is the section where the widget was looked for -/
theorem Dashboard.exists_replaces (h : d.widgetIds.Nodup) (hx : d.section? x = some t)
    (hw : w.id ∈ t.widgets.map (·.id)) :
    ∃ old, old.id = w.id ∧ d.Replaces x old w
      { d with sections := Store.replaceIn w d.sections, updatedAt := some .thisSession } := by
  have ht := mem_sections_of_section? hx
  obtain ⟨l₁, u, l₂, ws₁, old, ws₂, hd, hws, hid, he⟩ := Store.exists_replaceIn_eq ht hw
  have hu : u ∈ d.sections := by simp [hd]
  have hold : w.id ∈ u.widgets.map (·.id) := by simp [hws, hid]
  obtain rfl := section_eq_of_shared h hu ht hold hw
  exact ⟨old, hid, l₁, u, l₂, ws₁, ws₂, hd, id_of_section? hx, hws, by rw [he]⟩

end

/-! ## one dashboard -/

namespace Store

variable {s : Store} {id : String}

/-- the other dashboards, and all views -/
structure KeepsOthers (id : String) (s t : Store) : Prop where
  views : t.views = s.views
  dashboards : ∀ k, k ≠ id → t.dashboards.get? k = s.dashboards.get? k

theorem KeepsOthers.refl (id : String) (s : Store) : s.KeepsOthers id s :=
  ⟨rfl, fun _ _ => rfl⟩

theorem keepsOthers_put (s : Store) (id : String) (d : Dashboard) : s.KeepsOthers id (s.put id d) :=
  ⟨rfl, fun k hk => by rw [get?_put, if_neg hk]⟩

theorem keepsOthers_modify {α : Type} (s : Store) (id : String)
    (edit : Dashboard → Except StoreError (α × Dashboard)) :
    s.KeepsOthers id (s.modify id edit).2 := by
  rcases s.modify_eq_or id edit with hs | ⟨d, a, e, -, -, hs⟩
  · rw [hs]
    exact .refl id s
  · rw [hs]
    exact s.keepsOthers_put id e

end Store

/-- an action writes to the dashboard that it is for, which is kept under its own id -/
theorem Action.Leaves.keepsOthers {newId id : String} {s t : Store} {a : Action}
    (h : Leaves newId id s a t) (hs : s.Reachable) : s.KeepsOthers id t := by
  cases h with
  | same => exact .refl id s
  | @relayout _ _ d e ha hd he =>
    have hid : e.id = id := by
      rw [(rearranges_of_relayout? ha he).frame]
      exact hs.id_eq id d hd
    rw [hid]
    exact s.keepsOthers_modify id _
  | delete w hd => exact s.keepsOthers_put id _
  | create =>
    -- a number is used up, which shows nowhere
    have hmade {edit : Dashboard → Except StoreError (Widget × Dashboard)} :=
      Store.keepsOthers_modify { s with nextId := s.nextId + 1 } id edit
    exact ⟨hmade.views, hmade.dashboards⟩
  | update => exact s.keepsOthers_modify id _

/-! ## saved widgets -/

section

variable {s t : Store} {id x : String} {d : Dashboard} {w : Widget}

theorem Store.answer_updateWidget (hd : s.dashboards.get? id = some d) (hw : w.id ∈ d.widgetIds) :
    s.answer (.updateWidget id w)
      = (.ok w, s.put id { d with sections := replaceIn w d.sections }) := by
  have hedit : replaceWidget w d = .ok (w, { d with sections := replaceIn w d.sections }) := by
    unfold replaceWidget
    cases hf : d.find? w.id with
    | none => exact absurd hw (Dashboard.find?_eq_none_iff.1 hf)
    | some p => rfl
  exact modify_of_ok hd hedit

theorem Task.answer_of_exec_ask {c : Call} {a : c.Answer} (h : (ask c).exec s = (.ok a, t)) :
    s.answer c = (.ok a, t) := by
  rw [exec_ask] at h
  revert h
  generalize s.answer c = reply
  obtain ⟨r, u⟩ := reply
  intro h
  cases r with
  | error e => exact nomatch h
  | ok b =>
    cases h
    rfl

/-- a widget that could be saved was updated in its section, or created there -/
theorem Task.cases_of_exec_saveWidget {sub : Submission}
    (h : (saveWidget id x sub).exec s = (.ok w, t)) :
    ∃ d v u, s.dashboards.get? id = some d ∧ s.views.get? d.view = some v ∧
      d.section? x = some u ∧
      ((sub.id = none ∧
          s.answer (.createWidget id (sub.compiled x (sub.draft.compile v).config)) = (.ok w, t)) ∨
        ∃ widget, sub.id = some widget ∧ widget ∈ u.widgets.map (·.id) ∧
          s.answer (.updateWidget id
            ((sub.compiled x (sub.draft.compile v).config).withId widget)) = (.ok w, t)) := by
  rw [exec_saveWidget] at h
  split at h
  · exact nomatch h
  next d hd =>
  split at h
  · exact nomatch h
  next u hu =>
  split at h
  · exact nomatch h
  next v hv =>
  refine ⟨d, v, u, hd, hv, hu, ?_⟩
  simp only at h
  split at h
  · exact nomatch h
  next hid => exact Or.inl ⟨hid, answer_of_exec_ask h⟩
  next widget _ hid =>
    split at h
    · exact nomatch h
    next i hi =>
      have hin := Section.widgetIndex?_isSome_iff.1 (Option.isSome_of_eq_some hi)
      exact Or.inr ⟨widget, hid, hin, answer_of_exec_ask h⟩

/-- an updated widget takes the place of the widget with its id -/
theorem Store.of_answer_updateWidget {u : Section} {r : Widget}
    (hd : s.dashboards.get? id = some d) (hu : d.section? x = some u)
    (hw : w.id ∈ u.widgets.map (·.id)) (h : s.answer (.updateWidget id w) = (.ok r, t)) :
    r = w ∧ ∃ e, t.dashboards.get? id = some e ∧
      (d.widgetIds.Nodup → ∃ old, old.id = w.id ∧ d.Replaces x old w e) := by
  obtain ⟨v, hv, hid⟩ := List.mem_map.1 hw
  have hin : w.id ∈ d.widgetIds :=
    hid ▸ Dashboard.mem_widgetIds_of_mem (Dashboard.mem_sections_of_section? hu) hv
  rw [answer_updateWidget hd hin] at h
  cases h
  exact ⟨rfl, _, get?_put_self _ _ _, fun hdist => Dashboard.exists_replaces hdist hu hw⟩

/-- a created widget is put at the end of its section, under the next id -/
theorem Store.of_answer_createWidget {u : Section} {new : NewWidget} {r : Widget}
    (hd : s.dashboards.get? id = some d) (hu : d.section? new.sectionId = some u)
    (h : s.answer (.createWidget id new) = (.ok r, t)) :
    r = new.withId (widgetId s.nextId) ∧ ∃ e, t.dashboards.get? id = some e ∧
      d.Appends new.sectionId (new.withId (widgetId s.nextId)) e := by
  obtain ⟨l₁, l₂, hsections, hne, hadd⟩ :=
    addWidget_eq_of_section? (new.withId (widgetId s.nextId)) hu
  have hanswer := modify_of_ok (s := { s with nextId := s.nextId + 1 }) hd hadd
  cases hanswer.symm.trans h
  exact ⟨rfl, _, get?_put_self _ _ _, l₁, u, l₂, hsections, Dashboard.id_of_section? hu, hne, rfl⟩

end

/-! ## sessions -/

namespace Session

/-- what an action on the dashboard `id` with the result `r` may make of a session: `t` -/
structure Confined (s : Session) (id : String) (a : Action) (r : Except ServiceError Outcome)
    (t : Session) : Prop where
  failed : ∀ err, r = .error err → s.store.Untouched t.store
  /-- a configuration with violations is refused before a write is made, which would be on record in
  the journal of the session -/
  unwritten : ∀ x sub d v, a = .save x sub → s.store.dashboards.get? id = some d →
    s.store.views.get? d.view = some v → (sub.draft.compile v).violations ≠ [] →
    (∃ err, r = .error err) ∧ t = s
  elsewhere : ∀ o, r = .ok o → s.store.KeepsOthers id t.store
  updated : ∀ x sub widget o, a = .save x sub → sub.id = some widget → r = .ok o →
    ∃ d v e, s.store.dashboards.get? id = some d ∧ s.store.views.get? d.view = some v ∧
      t.store.dashboards.get? id = some e ∧
      let new := (sub.compiled x (sub.draft.compile v).config).withId widget
      o = .widget new ∧
      (d.widgetIds.Nodup → ∃ old, old.id = widget ∧ d.Replaces x old new e)
  created : ∀ x sub o, a = .save x sub → sub.id = none → r = .ok o →
    ∃ d v e, s.store.dashboards.get? id = some d ∧ s.store.views.get? d.view = some v ∧
      t.store.dashboards.get? id = some e ∧
      let new := (sub.compiled x (sub.draft.compile v).config).withId
        (Store.widgetId s.store.nextId)
      o = .widget new ∧ d.Appends x new e

variable {s : Session} {id : String} {a : Action}

/-- whatever a request results in, it leaves other dashboards alone -/
theorem keepsOthers_perform (hs : s.store.Reachable) :
    s.store.KeepsOthers id (s.perform id a).2.store := by
  cases hw : s.writable with
  | false =>
    rw [store_perform_of_shut hw]
    exact .refl id s.store
  | true =>
    have hleaves := Action.leaves_run (s.newSectionId (s.sectionsMade + 1)) id s.store a
    rw [← (run_answer _ s hw).2, ← store_perform] at hleaves
    exact hleaves.keepsOthers hs

/-- a widget is saved by a session that is open to writes, as its store does it -/
theorem exec_of_perform_save {x : String} {sub : Submission} {o : Outcome}
    (h : (s.perform id (.save x sub)).1 = .ok o) :
    ∃ w, o = .widget w ∧ (Task.saveWidget id x sub).exec s.store
      = (.ok w, (s.perform id (.save x sub)).2.store) := by
  rw [result_perform] at h
  cases hw : s.writable with
  | false =>
    have hshut : ((Action.save x sub).task (s.newSectionId (s.sectionsMade + 1)) id).Sound .shut
        fun _ => False := (Task.shut_saveWidget id x sub).map fun _ h => h
    exact absurd h (run_of_shut hw hshut o)
  | true =>
    have hexec : ((Action.save x sub).plan (s.newSectionId (s.sectionsMade + 1)) id).run
        Store.answer s.store = (Outcome.widget <$> Task.saveWidget id x sub).exec s.store := rfl
    obtain ⟨hr, ht⟩ := run_answer
      ((Action.save x sub).plan (s.newSectionId (s.sectionsMade + 1)) id) s hw
    rw [hexec, Task.exec_map] at hr ht
    rw [store_perform, ht]
    rw [hr] at h
    obtain ⟨w, hok, rfl⟩ := except_map_eq_ok_iff.1 h
    exact ⟨w, rfl, Prod.ext hok rfl⟩

/-- **Nothing is touched but what a request names, and nothing at all if it fails.** -/
theorem confined_perform (hs : s.store.Reachable) (id : String) (a : Action) :
    s.Confined id a (s.perform id a).1 (s.perform id a).2 where
  failed err h := untouched_perform h
  unwritten x sub d v ha hd hv hc := by
    subst ha
    have hreads : (Task.saveWidget id x sub).Sound (.reads s.store) fun _ => False :=
      Task.reads_saveWidget_of_violations hd hv hc
    have hfails : (Outcome.widget <$> Task.saveWidget id x sub).Sound (.reads s.store)
        fun _ => False := hreads.map fun _ h => h
    obtain ⟨err, he⟩ := exists_perform_of_reads (a := .save x sub) hfails
    rw [he]
    exact ⟨⟨err, rfl⟩, rfl⟩
  elsewhere o _ := keepsOthers_perform hs
  updated x sub widget o ha hid h := by
    subst ha
    obtain ⟨w, rfl, hexec⟩ := exec_of_perform_save h
    obtain ⟨d, v, u, hd, hv, hu, ⟨hnone, -⟩ | ⟨k, hk, hin, hanswer⟩⟩ :=
      Task.cases_of_exec_saveWidget hexec
    · exact absurd (hnone.symm.trans hid) nofun
    · obtain rfl := Option.some.inj (hk.symm.trans hid)
      obtain ⟨rfl, e, he, hreplaces⟩ := Store.of_answer_updateWidget hd hu hin hanswer
      exact ⟨d, v, e, hd, hv, he, rfl, hreplaces⟩
  created x sub o ha hid h := by
    subst ha
    obtain ⟨w, rfl, hexec⟩ := exec_of_perform_save h
    obtain ⟨d, v, u, hd, hv, hu, ⟨-, hanswer⟩ | ⟨k, hk, -, -⟩⟩ :=
      Task.cases_of_exec_saveWidget hexec
    · obtain ⟨rfl, e, he, happends⟩ := Store.of_answer_createWidget hd hu hanswer
      exact ⟨d, v, e, hd, hv, he, rfl, happends⟩
    · exact absurd (hid.symm.trans hk) nofun

/-- a widget gets another title -/
theorem confined_perform_rename :
    ∃ (s : Session) (sub : Submission) (o : Outcome) (d e : Dashboard) (old new : Widget),
      s.store.Reachable ∧ (s.perform "sales" (.save "top" sub)).1 = .ok o ∧ o = .widget new ∧
      new.title = "All orders" ∧ s.store.dashboards.get? "sales" = some d ∧
      (s.perform "sales" (.save "top" sub)).2.store.dashboards.get? "sales" = some e ∧
      old.id = "count" ∧ d.Replaces "top" old new e := by
  let count : Widget :=
    { id := "count", title := "Orders", config := .kpi ⟨.single Metric.count, []⟩ }
  let sales : Dashboard :=
    { id := "sales", title := "Sales", view := "orders",
      sections := [{ id := "top", title := "Top", columns := 4, widgets := [count] }] }
  let seed : Seed := { dashboards := [sales], views := .ofList [("orders", [])] }
  let s : Session := { store := .ofSeed seed }
  let sub : Submission := { id := some "count", title := "All orders", draft := { kind := .kpi } }
  let new : Widget := { count with title := "All orders" }
  have hok : (s.perform "sales" (.save "top" sub)).1 = .ok (.widget new) := by decide +kernel
  obtain ⟨d, v, e, hd, hv, he, hnew, hreplaces⟩ :=
    (confined_perform (.ofSeed seed) "sales" (.save "top" sub)).updated "top" sub "count" _ rfl rfl
      hok
  obtain rfl : sales = d := Option.some.inj hd
  obtain ⟨old, hold, hreplaced⟩ := hreplaces (by decide)
  rw [← Outcome.widget.inj hnew] at hreplaced
  exact ⟨s, sub, _, sales, e, old, new, .ofSeed seed, hok, rfl, rfl, hd, he, hold, hreplaced⟩

end Session

end WidgetBoard
