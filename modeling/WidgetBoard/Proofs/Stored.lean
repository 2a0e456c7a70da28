import WidgetBoard.Proofs.Performed

/-!
# What is answered is what is stored

An action that changes the layout edits the dashboard it has loaded and answers with that, while the
store makes the dashboard anew from its own and the layout.  The two agree, but for the stamp.

* `Store.answerUnsaved err`   answers as the store does, but no layout can be saved.

Main statement: `Action.stored_eq_answered`.
-/

namespace WidgetBoard

namespace Store

/-- answers as the store does, but every layout fails to be saved, with `err` -/
def answerUnsaved (err : StoreError) : (c : Call) → Store → c.Reply × Store
  | .saveLayout .., s => (.error err, s)
  | c, s => s.answer c

end Store

/-! ## deletions -/

namespace Dashboard

variable {d : Dashboard}

theorem InRange.withoutWidget (h : d.InRange) (w : String) : (d.withoutWidget w).InRange := by
  intro t ht
  obtain ⟨s, hs, rfl⟩ := List.mem_map.1 ht
  exact h s hs

end Dashboard

/-! ## layouts -/

variable {s : Store} {id newId : String} {d D : Dashboard}

/-- the dashboard that is answered is the edited one, and its layout makes just that of the stored
one -/
theorem Plan.run_relayout_eq {f : Relayout} (hd : s.dashboards.get? id = some d)
    (hid : D.id = id) (hf : f d = .ok D) (hlay : D.LaysOut d) (hdist : d.widgetIds.Nodup)
    (hcols : D.InRange) :
    (Plan.relayout id f).run Store.answer s = (.ok (.dashboard D), s.put id D) := by
  rw [Plan.run_relayout (Store.answer_dashboard hd), hf, Plan.run_commit_ok hd hid,
    hlay.applyLayout hdist, Dashboard.clamped_eq_self hcols]

theorem Plan.run_relayout_unsaved {f : Relayout} (err : StoreError)
    (hd : s.dashboards.get? id = some d) (hf : f d = .ok D) :
    (Plan.relayout id f).run (Store.answerUnsaved err) s = (.ok (.dashboard D), s) := by
  have hload : Store.answerUnsaved err (.dashboard id) s = (.ok (some d), s) :=
    Store.answer_dashboard hd
  rw [Plan.run_relayout hload, hf]
  rfl

/-- a request that answers a dashboard has made its edit -/
theorem Plan.eq_ok_of_run_relayout {f : Relayout} (hd : s.dashboards.get? id = some d)
    (hr : ((Plan.relayout id f).run Store.answer s).1 = .ok (.dashboard D)) : f d = .ok D := by
  rw [Plan.run_relayout (Store.answer_dashboard hd)] at hr
  cases hf : f d with
  | error err =>
    rw [hf] at hr
    exact nomatch hr
  | ok e =>
    rw [hf] at hr
    cases hr
    rfl

/-- the dashboard that is loaded after a change -/
theorem Action.run_get_put (newId : String) (s : Store) (id : String) (d : Dashboard) :
    (Action.get.plan newId id).run Store.answer (s.put id d)
      = (.ok (.dashboard { d with updatedAt := some .thisSession }), s.put id d) := by
  have hrun : (Action.get.plan newId id).run Store.answer (s.put id d)
      = (Outcome.dashboard <$> Task.dashboard id).exec (s.put id d) := rfl
  rw [hrun, Task.exec_map, Task.exec_dashboard, Store.get?_put_self]
  rfl

/-- **What is answered is what is stored**, but for the stamp: an action that changes the layout, or
deletes a widget, answers a dashboard that is loaded again afterwards, with its ids still distinct
and its columns in range.  If the layout cannot be saved it answers the same, and nothing is
stored. -/
theorem Action.stored_eq_answered {a : Action} (hs : s.Reachable)
    (hd : s.dashboards.get? id = some d) (hdist : d.Distinct) (hcols : d.InRange)
    (hnew : ∀ x, a.made? newId = some x → x ∉ d.sectionIds)
    (ha : a.changesLayout = true ∨ ∃ w, a = .delete w)
    (hr : ((a.plan newId id).run Store.answer s).1 = .ok (.dashboard D)) :
    ((Action.get.plan newId id).run Store.answer ((a.plan newId id).run Store.answer s).2).1
        = .ok (.dashboard { D with updatedAt := some .thisSession }) ∧
      D.Distinct ∧ D.InRange ∧
      (a.changesLayout = true → ∀ err,
        (a.plan newId id).run (Store.answerUnsaved err) s = (.ok (.dashboard D), s)) := by
  rcases ha with ha | ⟨w, rfl⟩
  · obtain ⟨f, hf⟩ := exists_relayout? newId ha
    rw [plan_eq_relayout hf] at hr ⊢
    have hD : f d = .ok D := Plan.eq_ok_of_run_relayout hd hr
    have hre : D.Rearranges (a.made? newId) d := rearranges_of_relayout? hf hD
    have hid : D.id = id := by
      rw [hre.frame]
      exact hs.id_eq id d hd
    have hDcols := hre.inRange hcols
    rw [Plan.run_relayout_eq hd hid hD (hre.laysOut hnew) hdist.widgets hDcols, run_get_put]
    exact ⟨rfl, hre.distinct hdist, hDcols, fun _ err => Plan.run_relayout_unsaved err hd hD⟩
  · have hrun : ((Action.delete w).plan newId id).run Store.answer s
        = (Outcome.dashboard <$> Task.deleteWidget id w).exec s := rfl
    rw [hrun, Task.exec_map, Task.exec_deleteWidget, hd] at hr ⊢
    simp only at hr ⊢
    cases hw : d.find? w with
    | none =>
      rw [hw] at hr
      exact nomatch hr
    | some p =>
      rw [hw] at hr
      cases hr
      rw [run_get_put]
      exact ⟨rfl, hdist.withoutWidget w, hcols.withoutWidget w, fun h => nomatch h⟩

/-- two widgets change places; what is answered is what is loaded afterwards -/
theorem Action.stored_eq_answered_reorderWidgets :
    ∃ (seed : Seed) (D : Dashboard),
      (((reorderWidgets "top" "b" "a").plan "" "d").run Store.answer (.ofSeed seed)).1
        = .ok (.dashboard D) ∧
      D.widgetIds = ["b", "a"] ∧
      ((Action.get.plan "" "d").run Store.answer
          (((reorderWidgets "top" "b" "a").plan "" "d").run Store.answer (.ofSeed seed)).2).1
        = .ok (.dashboard { D with updatedAt := some .thisSession }) := by
  let widget (id : String) : Widget :=
    { id := id, title := id, config := .kpi ⟨.single Metric.count, []⟩ }
  let board (ids : List String) : Dashboard :=
    { id := "d", title := "D", view := "v",
      sections := [{ id := "top", title := "Top", columns := 2, widgets := ids.map widget }] }
  let seed : Seed := { dashboards := [board ["a", "b"]] }
  have hr : (((reorderWidgets "top" "b" "a").plan "" "d").run Store.answer (.ofSeed seed)).1
      = .ok (.dashboard (board ["b", "a"])) := by decide +kernel
  have hcols : (board ["a", "b"]).InRange := by
    simp [Dashboard.InRange, board]
  have hnew : ∀ x, (reorderWidgets "top" "b" "a").made? "" = some x →
      x ∉ (board ["a", "b"]).sectionIds := nofun
  have hstored := stored_eq_answered (.ofSeed seed) (d := board ["a", "b"]) rfl
    ⟨by decide, by decide⟩ hcols hnew (Or.inl rfl) hr
  exact ⟨seed, board ["b", "a"], hr, rfl, hstored.1⟩

end WidgetBoard
