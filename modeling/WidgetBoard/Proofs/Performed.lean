import WidgetBoard.Proofs.LayoutRequests
import WidgetBoard.Proofs.StoreStates

/-!
# An action performed alone

What comes of an action, and of the store, when no other request comes in between.

* `Task.exec`                   a task run over a store from start to end, with a law for each way in
                                which tasks are put together;
* `Plan.run_relayout`, `Plan.run_commit_ok`   a change of the layout;
* `Task.exec_deleteWidget`, `Task.exec_saveWidget`   a widget deleted, a widget saved;
* `Action.Leaves newId id s a t`  what an action may make of a store.

Main statement: `Action.leaves_run` (an action leaves the store as it is, or makes one of four writes
to the dashboard that it has loaded).
-/

namespace WidgetBoard

variable {s : Store} {id newId : String}

/-! ## layouts -/

section

variable {d e : Dashboard}

theorem Store.answer_dashboard (hd : s.dashboards.get? id = some d) :
    s.answer (.dashboard id) = (.ok (some d), s) := by
  rw [← hd]
  rfl

/-- after the dashboard is loaded, only the edit counts -/
theorem Plan.run_relayout {answer : (c : Call) → Store → c.Reply × Store}
    (hd : answer (.dashboard id) s = (.ok (some d), s)) (f : Relayout) :
    (Plan.relayout id f).run answer s = (Plan.commit (f d)).run answer s := by
  simp [relayout, run, hd]

/-- an edited dashboard is answered, and its layout is saved -/
theorem Plan.run_commit_ok (hd : s.dashboards.get? id = some d) (he : e.id = id) :
    (Plan.commit (.ok e)).run Store.answer s
      = (.ok (.dashboard e), s.put id (d.applyLayout e.layout)) := by
  subst he
  show (_, (s.answer (.saveLayout e.id e.layout)).2) = _
  rw [Store.answer_saveLayout hd]

end

/-! ## tasks -/

namespace Task

variable {α β : Type}

def exec (t : Task α) (s : Store) : Except ServiceError α × Store :=
  t.run.run Store.answer s

theorem exec_bind (t : Task α) (f : α → Task β) (s : Store) :
    (t >>= f).exec s =
      match t.exec s with
      | (.ok a, s) => (f a).exec s
      | (.error e, s) => (.error e, s) := by
  show (Plan.bind t.run _).run Store.answer s = _
  rw [Plan.run_bind, exec]
  rcases t.run.run Store.answer s with ⟨e | a, s⟩ <;> rfl

theorem exec_map (f : α → β) (t : Task α) (s : Store) :
    (f <$> t).exec s = ((t.exec s).1.map f, (t.exec s).2) := by
  show (Plan.bind t.run _).run Store.answer s = _
  rw [Plan.run_bind, exec]
  rcases t.run.run Store.answer s with ⟨e | a, s⟩ <;> rfl

theorem exec_ask (c : Call) (s : Store) :
    (ask c).exec s = ((s.answer c).1.mapError .store, (s.answer c).2) := by
  show (Plan.bind (Plan.call c) _).run Store.answer s = _
  have hcall : (Plan.call c).run Store.answer s = s.answer c := rfl
  rw [Plan.run_bind, hcall]
  generalize s.answer c = reply
  obtain ⟨r, t⟩ := reply
  cases r <;> rfl

theorem exec_found (o : Option α) (what : Missing) (s : Store) :
    (found o what).exec s = (orMissing o what, s) := by
  cases o <;> rfl

theorem exec_require (vs : List Violation) (s : Store) :
    (require vs).exec s = (if vs.isEmpty then .ok () else .error (.invalid vs), s) := by
  cases vs <;> rfl

theorem exec_dashboard (id : String) (s : Store) :
    (dashboard id).exec s = (orMissing (s.dashboards.get? id) (.dashboard id), s) := by
  rw [dashboard, exec_bind, exec_ask]
  exact exec_found _ _ _

/-! ### widgets -/

theorem exec_deleteWidget (id w : String) (s : Store) :
    (deleteWidget id w).exec s =
      match s.dashboards.get? id with
      | none => (.error (.notFound (.dashboard id)), s)
      | some d =>
        match d.find? w with
        | none => (.error (.notFound (.widget w)), s)
        | some _ => (.ok (d.withoutWidget w), s.put id (d.withoutWidget w)) := by
  rw [deleteWidget, exec_bind, exec_dashboard]
  cases hd : s.dashboards.get? id with
  | none => rfl
  | some d =>
    simp only [orMissing]
    rw [exec_bind, exec_found]
    cases d.find? w with
    | none => rfl
    | some p =>
      simp only [orMissing]
      rw [exec_bind, exec_ask, Store.answer_deleteWidget hd]
      rfl

theorem exec_sectionOf (id sectionId : String) (s : Store) :
    (sectionOf id sectionId).exec s =
      match s.dashboards.get? id with
      | none => (.error (.notFound (.dashboard id)), s)
      | some d => ((orMissing (d.section? sectionId) (.sectionId sectionId)).map (d, ·), s) := by
  rw [sectionOf, exec_bind, exec_dashboard]
  cases s.dashboards.get? id with
  | none => rfl
  | some d =>
    simp only [orMissing]
    rw [exec_bind, exec_found]
    cases d.section? sectionId <;> rfl

theorem exec_viewColumns (view : String) (s : Store) :
    (ask (.viewColumns view)).exec s =
      match s.views.get? view with
      | none => (.error (.store (.noView view)), s)
      | some v => (.ok v, s) := by
  rw [exec_ask, Store.answer]
  cases s.views.get? view <;> rfl

/-- the section and the view are loaded, the configuration is checked, and then one write is made -/
theorem exec_saveWidget (id sectionId : String) (w : Submission) (s : Store) :
    (saveWidget id sectionId w).exec s =
      match s.dashboards.get? id with
      | none => (.error (.notFound (.dashboard id)), s)
      | some d =>
        match d.section? sectionId with
        | none => (.error (.notFound (.sectionId sectionId)), s)
        | some t =>
          match s.views.get? d.view with
          | none => (.error (.store (.noView d.view)), s)
          | some v =>
            let new := w.compiled sectionId (w.draft.compile v).config
            match (w.draft.compile v).violations, w.id with
            | x :: xs, _ => (.error (.invalid (x :: xs)), s)
            | [], none => (ask (.createWidget id new)).exec s
            | [], some widget =>
              match t.widgetIndex? widget with
              | none => (.error (.notFound (.widget widget)), s)
              | some _ => (ask (.updateWidget id (new.withId widget))).exec s := by
  rw [saveWidget, exec_bind, exec_sectionOf]
  cases s.dashboards.get? id with
  | none => rfl
  | some d =>
    cases ht : d.section? sectionId with
    | none => simp only [ht]; rfl
    | some t =>
      simp only [ht, orMissing, Except.map]
      rw [exec_bind, exec_viewColumns]
      cases s.views.get? d.view with
      | none => rfl
      | some v =>
        simp only
        rw [exec_bind, exec_require]
        cases (w.draft.compile v).violations with
        | cons x xs => rfl
        | nil =>
          cases w.id with
          | none => rfl
          | some widget =>
            simp only [List.isEmpty_nil, if_true]
            rw [exec_bind, exec_found]
            cases t.widgetIndex? widget <;> rfl

/-- preparing filters writes nothing -/
theorem store_exec_prepareFilters (id : String) (fs : List Filter) (s : Store) :
    ((prepareFilters id fs).exec s).2 = s := by
  rw [prepareFilters, exec_bind, exec_dashboard]
  cases s.dashboards.get? id with
  | none => rfl
  | some d =>
    simp only [orMissing]
    rw [exec_bind, exec_viewColumns]
    cases s.views.get? d.view with
    | none => rfl
    | some v =>
      simp only
      rw [exec_bind, exec_require]
      cases v.checkFilters (Filter.compile fs) <;> rfl

end Task

/-! ## what an action leaves -/

/-- what an action on the dashboard `id` may make of a store -/
inductive Action.Leaves (newId id : String) (s : Store) : Action → Store → Prop where
  | same (a : Action) : Leaves newId id s a s
  | relayout {a : Action} {f : Relayout} {d e : Dashboard} (ha : a.relayout? newId = some f)
      (hd : s.dashboards.get? id = some d) (he : f d = .ok e) :
      Leaves newId id s a (s.answer (.saveLayout e.id e.layout)).2
  | delete {d : Dashboard} (w : String) (hd : s.dashboards.get? id = some d) :
      Leaves newId id s (.delete w) (s.put id (d.withoutWidget w))
  | create {d : Dashboard} {t : Section} {v : View} {sectionId : String} {w : Submission}
      (hd : s.dashboards.get? id = some d) (ht : d.section? sectionId = some t)
      (hv : s.views.get? d.view = some v) (hw : w.id = none)
      (hc : (w.draft.compile v).violations = []) :
      Leaves newId id s (.save sectionId w)
        (s.answer (.createWidget id (w.compiled sectionId (w.draft.compile v).config))).2
  | update {d : Dashboard} {t : Section} {v : View} {sectionId widget : String} {w : Submission}
      (hd : s.dashboards.get? id = some d) (ht : d.section? sectionId = some t)
      (hv : s.views.get? d.view = some v) (hw : w.id = some widget)
      (hi : (t.widgetIndex? widget).isSome) (hc : (w.draft.compile v).violations = []) :
      Leaves newId id s (.save sectionId w)
        (s.answer (.updateWidget id
          ((w.compiled sectionId (w.draft.compile v).config).withId widget))).2

namespace Action

theorem leaves_saveWidget (newId id : String) (s : Store) (sectionId : String) (w : Submission) :
    Leaves newId id s (.save sectionId w) ((Task.saveWidget id sectionId w).exec s).2 := by
  rw [Task.exec_saveWidget]
  split
  · exact .same _
  next d hd =>
  split
  · exact .same _
  next t ht =>
  split
  · exact .same _
  next v hv =>
  simp only
  split
  · exact .same _
  next hc hw =>
    rw [Task.exec_ask]
    exact .create hd ht hv hw hc
  next widget hc hw =>
    split
    · exact .same _
    next i hi =>
      rw [Task.exec_ask]
      exact .update hd ht hv hw (Option.isSome_of_eq_some hi) hc

theorem leaves_deleteWidget (newId id : String) (s : Store) (w : String) :
    Leaves newId id s (.delete w) ((Task.deleteWidget id w).exec s).2 := by
  rw [Task.exec_deleteWidget]
  split
  · exact .same _
  next d hd =>
    split
    · exact .same _
    · exact .delete w hd

theorem leaves_relayout {a : Action} {f : Relayout} (ha : a.relayout? newId = some f) :
    Leaves newId id s a ((Plan.relayout id f).run Store.answer s).2 := by
  cases hd : s.dashboards.get? id with
  | none =>
    have hsame : ((Plan.relayout id f).run Store.answer s).2 = s := by
      simp [Plan.relayout, Plan.run, Store.answer, hd]
    rw [hsame]
    exact .same a
  | some d =>
    rw [Plan.run_relayout (Store.answer_dashboard hd)]
    cases he : f d with
    | error err => exact .same a
    | ok e => exact .relayout ha hd he

/-- **An action leaves a store as it is, or makes one write to the dashboard it has loaded.** -/
theorem leaves_run (newId id : String) (s : Store) (a : Action) :
    Leaves newId id s a ((a.plan newId id).run Store.answer s).2 := by
  have hrun : (a.plan newId id).run Store.answer s = (a.task newId id).exec s := rfl
  rw [hrun]
  cases a with
  | get | inspect =>
    rw [task, Task.exec_map, Task.exec_dashboard]
    exact .same _
  | setNativeFilters fs =>
    rw [task, Task.exec_map]
    simp only [Task.store_exec_prepareFilters]
    exact .same _
  | save sectionId w =>
    rw [task, Task.exec_map]
    exact leaves_saveWidget newId id s sectionId w
  | delete w =>
    rw [task, Task.exec_map]
    exact leaves_deleteWidget newId id s w
  | addSection | removeSection | setColumns | reorderWidgets | reorderSections | resize | drag =>
    rw [← hrun, plan_eq_relayout rfl]
    exact leaves_relayout rfl

end Action

end WidgetBoard
