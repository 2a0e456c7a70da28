import WidgetBoard.Http.Serve
import WidgetBoard.Http.Status
import WidgetBoard.Proofs.Frames

/-!
# Requests for a widget of a section

A path names a section and a widget of it.  Here is what becomes of a request whose widget is not in
the section that its path names.

* `Http.Request.resource?`   what a request is for, if that takes its method;
* `Http.Request.Names`       the requests that name a widget of a section: to save it, to resize it
                             and to delete it;
* `Store.HasWidget`          the section has the widget;
* `Session.Refuses`          a request is no success, and changes no dashboard.

Main statement: `Session.refuses_elsewhere_iff` (all of them are refused but one: a widget is
deleted wherever it is).
-/

namespace WidgetBoard

/-! ## requests -/

namespace Http

variable {q : Request}

/-- what a request is for, with its ids decoded; none if that does not take the method -/
def Request.resource? (q : Request) : Option Resource :=
  match (Path.segments? q.path).bind Resource.ofSegments? with
  | none => none
  | some r => if r.takes q.method then r.decode? else none

/-- the request names the widget `w` of the section `x` of the dashboard `id` -/
inductive Request.Names (q : Request) (id x w : String) : Prop where
  | save {sub : Submission} (hr : q.resource? = some (.widgets id x))
      (hsub : Submission.reader (Json.ofText q.body) = .ok sub) (hid : sub.id = some w)
  | resize (hr : q.resource? = some (.width id x w))
  | delete (hr : q.resource? = some (.widget id x w))

theorem Request.job_of_resource? {r : Resource} (h : q.resource? = some r) :
    q.job = r.handler.job q := by
  unfold resource? at h
  unfold job
  cases hp : (Path.segments? q.path).bind Resource.ofSegments? with
  | none =>
    rw [hp] at h
    exact nomatch h
  | some p =>
    rw [hp] at h
    by_cases ht : p.takes q.method = true
    · simp only [ht, if_true] at h ⊢
      rw [h]
    · simp [ht] at h

/-- a body is read, or the request is answered without success -/
theorem Handler.job_readBody {α : Type} (r : Reader α) (f : α → Job) (q : Request) :
    (∃ a, r (Json.ofText q.body) = .ok a ∧ (readBody r f).job q = f a) ∨
      ∃ n, Status.isSuccess n = false ∧ (readBody r f).job q = .answer { status := n } := by
  unfold readBody job
  by_cases hjson : q.isJson = true
  · by_cases hlong : maxBodyLength < q.body.utf8ByteSize
    · exact Or.inr ⟨413, rfl, by simp [hjson, hlong]⟩
    · cases hread : r (Json.ofText q.body) with
      | ok a => exact Or.inl ⟨a, rfl, by simp [hjson, hlong, hread, Except.map]⟩
      | error fault =>
        refine Or.inr ⟨faultStatus fault, ?_, by simp [hjson, hlong, hread, Except.map]⟩
        cases fault <;> rfl
  · exact Or.inr ⟨415, rfl, by simp [hjson]⟩

/-- the status tells whether an action has succeeded -/
theorem Response.isSuccess_ofOutcome (r : Except ServiceError Outcome) (q : Request) :
    Status.isSuccess ((ofOutcome r).to q).status = true ↔ ∃ o, r = .ok o := by
  have hto : ((ofOutcome r).to q).status = (ofOutcome r).status := by
    unfold Response.to
    split <;> rfl
  rw [hto]
  cases r with
  | error err =>
    have hstatus : Status.isSuccess (ofOutcome (.error err)).status = false := by
      cases err <;> rfl
    rw [hstatus]
    exact ⟨nofun, fun ⟨_, ho⟩ => nomatch ho⟩
  | ok o =>
    have hstatus : Status.isSuccess (ofOutcome (.ok o)).status = true := by
      cases o <;> rfl
    rw [hstatus]
    exact ⟨fun _ => ⟨o, rfl⟩, fun _ => rfl⟩

end Http

open Http

/-! ## refused -/

namespace Session

structure Refuses (s : Session) (q : Request) : Prop where
  status : Status.isSuccess (s.serve q).1.status = false
  dashboards : (s.serve q).2.store.dashboards = s.store.dashboards

variable {s : Session} {q : Request} {id : String} {a : Action}

theorem refuses_of_answer {n : Nat} (hn : Status.isSuccess n = false)
    (h : q.job = .answer { status := n }) : s.Refuses q := by
  have hserve : s.serve q = (({ status := n } : Response).to q, s) := by
    rw [serve, h]
  have hto : (({ status := n } : Response).to q).status = n := by
    unfold Response.to
    split <;> rfl
  constructor
  · rw [hserve, hto]
    exact hn
  · rw [hserve]

/-- an action that fails is refused -/
theorem refuses_iff_of_act (h : q.job = .act id a) :
    s.Refuses q ↔ ¬ ∃ o, (s.perform id a).1 = .ok o := by
  have hserve : s.serve q
      = ((Response.ofOutcome (s.perform id a).1).to q, (s.perform id a).2) := by
    rw [serve, h]
  constructor
  · intro hrefuses hok
    have hstatus := hrefuses.status
    rw [hserve, (Response.isSuccess_ofOutcome _ q).2 hok] at hstatus
    exact nomatch hstatus
  · intro hfails
    have hstatus := mt (Response.isSuccess_ofOutcome (s.perform id a).1 q).1 hfails
    obtain ⟨err, herr⟩ : ∃ err, (s.perform id a).1 = .error err := by
      cases hr : (s.perform id a).1 with
      | error err => exact ⟨err, rfl⟩
      | ok o => exact absurd ⟨o, hr⟩ hfails
    constructor
    · rw [hserve]
      exact Bool.eq_false_iff.2 hstatus
    · rw [hserve]
      exact (untouched_perform herr).dashboards

/-- so is a request whose body cannot be read, or asks for an action that fails -/
theorem refuses_of_readBody {α : Type} {r : Reader α} {f : α → Job}
    (hjob : q.job = (readBody r f).job q)
    (h : ∀ b, r (Json.ofText q.body) = .ok b →
      ∃ id a, f b = .act id a ∧ ¬ ∃ o, (s.perform id a).1 = .ok o) : s.Refuses q := by
  rcases Handler.job_readBody r f q with ⟨b, hb, he⟩ | ⟨n, hn, he⟩
  · obtain ⟨id, a, hf, hfails⟩ := h b hb
    exact (refuses_iff_of_act (hjob.trans (he.trans hf))).2 hfails
  · exact refuses_of_answer hn (hjob.trans he)

end Session

/-! ## another section -/

/-- the section that is found as `x` on the dashboard `id` has a widget `w` -/
def Store.HasWidget (s : Store) (id x w : String) : Prop :=
  ∃ d t, s.dashboards.get? id = some d ∧ d.section? x = some t ∧ w ∈ t.widgets.map (·.id)

namespace Task

variable {s : Store} {id x w : String}

theorem hasWidget_of_widgetIndex? {p : Dashboard × Section} {i : Nat}
    (hp : s.dashboards.get? id = some p.1 ∧ p.1.section? x = some p.2)
    (hi : p.2.widgetIndex? w = some i) : s.HasWidget id x w :=
  ⟨p.1, p.2, hp.1, hp.2, Section.widgetIndex?_isSome_iff.1 (Option.isSome_of_eq_some hi)⟩

theorem reads_saveWidget_elsewhere {sub : Submission} (hw : sub.id = some w)
    (h : ¬ s.HasWidget id x w) : (saveWidget id x sub).Sound (.reads s) fun _ => False := by
  refine (reads_sectionOf s id x).bind fun p hp => ?_
  refine (reads_viewColumns s p.1.view).bind fun v _ => ?_
  refine sound_require.bind fun _ _ => ?_
  rw [hw]
  have hfound : (found (p.2.widgetIndex? w) (.widget w)).Sound (.reads s) fun _ => False :=
    sound_found fun i hi => h (hasWidget_of_widgetIndex? hp hi)
  exact hfound.bind fun _ hno => hno.elim

theorem reads_resizeWidget_elsewhere (h : ¬ s.HasWidget id x w) (width : Nat) :
    (resizeWidget id x w width).Sound (.reads s) fun _ => False := by
  refine (reads_sectionOf s id x).bind fun p hp => ?_
  have hfound : (found ((p.2.widgetIndex? w).bind p.2.grid.maxWidthAt?) (.widget w)).Sound
      (.reads s) fun _ => False := by
    refine sound_found fun room hroom => ?_
    obtain ⟨i, hi, -⟩ := Option.bind_eq_some_iff.1 hroom
    exact h (hasWidget_of_widgetIndex? hp hi)
  exact hfound.bind fun _ hno => hno.elim

theorem reads_dragWidget_elsewhere (h : ¬ s.HasWidget id x w) (drag : PointerDrag) :
    (dragWidget id x w drag).Sound (.reads s) fun _ => False := by
  refine (reads_sectionOf s id x).bind fun p hp => ?_
  have hfound : (found (p.2.dragged? w drag) (.widget w)).Sound (.reads s) fun _ => False := by
    refine sound_found fun u hu => ?_
    obtain ⟨i, hi, -⟩ := Option.bind_eq_some_iff.1 hu
    exact h (hasWidget_of_widgetIndex? hp hi)
  exact hfound.bind fun _ hno => hno.elim

end Task

namespace Session

variable {s : Session} {q : Request} {id x w : String} {a : Action}

theorem not_ok_of_reads
    (h : (a.task (s.newSectionId (s.sectionsMade + 1)) id).Sound (.reads s.store) fun _ => False) :
    ¬ ∃ o, (s.perform id a).1 = .ok o := by
  rintro ⟨o, ho⟩
  obtain ⟨err, herr⟩ := exists_perform_of_reads h
  rw [herr] at ho
  exact nomatch ho

/-- a widget is deleted if it is anywhere on the dashboard -/
theorem exists_ok_perform_delete_iff :
    (∃ o, (s.perform id (.delete w)).1 = .ok o) ↔
      s.writable = true ∧ ∃ d, s.store.dashboards.get? id = some d ∧ w ∈ d.widgetIds := by
  rw [result_perform]
  cases hw : s.writable with
  | false =>
    have hshut : ((Action.delete w).task (s.newSectionId (s.sectionsMade + 1)) id).Sound .shut
        fun _ => False := (Task.shut_deleteWidget id w).map fun _ h => h
    exact ⟨fun ⟨o, ho⟩ => absurd ho (run_of_shut hw hshut o), nofun⟩
  | true =>
    have hexec : ((Action.delete w).plan (s.newSectionId (s.sectionsMade + 1)) id).run
        Store.answer s.store = (Outcome.dashboard <$> Task.deleteWidget id w).exec s.store := rfl
    rw [(run_answer _ s hw).1, hexec, Task.exec_map, Task.exec_deleteWidget]
    cases hd : s.store.dashboards.get? id with
    | none => simp [Except.map]
    | some d =>
      simp only [Option.some.injEq, exists_eq_left', true_and]
      cases hf : d.find? w with
      | none => simp [Except.map, Dashboard.find?_eq_none_iff.1 hf]
      | some p =>
        have hin : w ∈ d.widgetIds := by
          by_contra hno
          rw [Dashboard.find?_eq_none_iff.2 hno] at hf
          exact nomatch hf
        simp [Except.map, hin]

/-- **A request for a widget that is not in the section of its path is refused, unless it is to
delete it**: that is done wherever on the dashboard the widget is. -/
theorem refuses_elsewhere_iff (hq : q.Names id x w) (h : ¬ s.store.HasWidget id x w) :
    s.Refuses q ↔
      ¬ (q.resource? = some (.widget id x w) ∧ s.writable = true ∧
        ∃ d, s.store.dashboards.get? id = some d ∧ w ∈ d.widgetIds) := by
  cases hq with
  | @save sub hr hsub hid =>
    have hrefuses : s.Refuses q := by
      refine refuses_of_readBody (Request.job_of_resource? hr) fun a ha => ?_
      obtain rfl := Except.ok.inj (ha.symm.trans hsub)
      refine ⟨id, .save x a, rfl, not_ok_of_reads ?_⟩
      exact (Task.reads_saveWidget_elsewhere hid h).map fun _ hno => hno
    exact iff_of_true hrefuses fun hand => nomatch hr.symm.trans hand.1
  | resize hr =>
    have hrefuses : s.Refuses q := by
      refine refuses_of_readBody (Request.job_of_resource? hr) fun b _ => ?_
      cases b with
      | width n =>
        refine ⟨id, .resize x w n, rfl, not_ok_of_reads ?_⟩
        exact (Task.reads_resizeWidget_elsewhere h n).map fun _ hno => hno
      | drag p =>
        refine ⟨id, .drag x w p, rfl, not_ok_of_reads ?_⟩
        exact (Task.reads_dragWidget_elsewhere h p).map fun _ hno => hno
    exact iff_of_true hrefuses fun hand => nomatch hr.symm.trans hand.1
  | delete hr =>
    rw [refuses_iff_of_act (Request.job_of_resource? hr), exists_ok_perform_delete_iff,
      and_iff_right hr]

/-- a dashboard with two sections, the first with the widget `count` -/
def twoSections : Session :=
  { store := .ofSeed
      { dashboards :=
          [{ id := "sales", title := "Sales", view := "orders",
             sections :=
               [{ id := "top", title := "Top", columns := 4,
                  widgets :=
                    [{ id := "count", title := "Orders",
                       config := .kpi ⟨.single Metric.count, []⟩ }] },
                { id := "rest", title := "Rest", columns := 4 }] }] } }

theorem not_hasWidget_twoSections : ¬ twoSections.store.HasWidget "sales" "rest" "count" := by
  rintro ⟨d, t, hd, ht, hw⟩
  cases hd
  cases ht
  exact nomatch hw

/-- a widget is not resized in the other section -/
theorem refuses_elsewhere_resize :
    ∃ q : Request, q.Names "sales" "rest" "count" ∧
      ¬ twoSections.store.HasWidget "sales" "rest" "count" ∧ twoSections.Refuses q := by
  let q : Request :=
    { method := "POST", path := "/dashboards/sales/sections/rest/widgets/count/resize",
      contentType := some "application/json", body := "\x7b\"width\":2\x7d" }
  have hr : q.resource? = some (.width "sales" "rest" "count") := by decide +kernel
  have hrefuses := (refuses_elsewhere_iff (.resize hr) not_hasWidget_twoSections).2
    fun hand => nomatch hr.symm.trans hand.1
  exact ⟨q, .resize hr, not_hasWidget_twoSections, hrefuses⟩

/-- but it is deleted by way of the other section -/
theorem not_refuses_elsewhere_delete :
    ∃ q : Request, q.Names "sales" "rest" "count" ∧
      ¬ twoSections.store.HasWidget "sales" "rest" "count" ∧
      (twoSections.serve q).1.status = 200 ∧
      (twoSections.store.dashboards.get? "sales").map (·.widgetIds) = some ["count"] ∧
      ((twoSections.serve q).2.store.dashboards.get? "sales").map (·.widgetIds) = some [] := by
  let q : Request :=
    { method := "DELETE", path := "/dashboards/sales/sections/rest/widgets/count" }
  have hr : q.resource? = some (.widget "sales" "rest" "count") := by decide +kernel
  exact ⟨q, .delete hr, not_hasWidget_twoSections, by decide +kernel, by decide +kernel,
    by decide +kernel⟩

end Session

end WidgetBoard
