import WidgetBoard.Proofs.Contracts
import WidgetBoard.Proofs.Turns

/-!
# Requests that come to nothing

A request that fails has not changed the store, whether it failed before its write or because of
it; and a store that is closed to writes stays as it is whatever is requested.

* `Contract.reads s`   nothing is written, and the store `s` answers what is read;
* `Contract.shut`      all writes fail;
* `Plan.WritesLast`    a write is the last call of a plan, and if it succeeds so does the plan;
* `Store.Untouched`    the dashboards and views of two stores are the same.

Main statements: `Session.untouched_perform` (a request that fails leaves the store untouched),
`Session.exists_perform_of_reads` (one that only reads, and fails, leaves the session as it was),
`Session.store_perform_of_shut` (no request writes to a store that is closed).
-/

namespace WidgetBoard

variable {α β : Type}

namespace Contract

/-- nothing is written, and the store `s` answers what is read -/
def reads (s : Store) : Contract where
  allows c := c.isWrite = false
  replies c r := r = (s.answer c).1

/-- nothing is written -/
def readOnly : Contract where
  allows c := c.isWrite = false
  replies _ _ := True

/-- all writes fail -/
def shut : Contract where
  allows _ := True
  replies c r := c.isWrite = true → ∀ a, r ≠ .ok a

end Contract

/-! ## what a request is told -/

namespace Task

variable {s : Store} {id sectionId : String}

theorem reads_dashboard (s : Store) (id : String) :
    (dashboard id).Sound (.reads s) fun d => s.dashboards.get? id = some d := by
  have hask : (ask (.dashboard id)).Sound (.reads s) fun o => s.dashboards.get? id = o :=
    sound_ask rfl fun o ho => (Except.ok.inj ho).symm
  exact hask.bind fun o ho => sound_found fun d hd => ho.trans hd

theorem reads_sectionOf (s : Store) (id sectionId : String) :
    (sectionOf id sectionId).Sound (.reads s) fun p =>
      s.dashboards.get? id = some p.1 ∧ p.1.section? sectionId = some p.2 := by
  refine (reads_dashboard s id).bind fun d hd => ?_
  exact Sound.bind (sound_found fun t ht => ht) fun t ht => sound_pure ⟨hd, ht⟩

theorem reads_viewColumns (s : Store) (view : String) :
    (ask (.viewColumns view)).Sound (.reads s) fun v => s.views.get? view = some v := by
  refine sound_ask rfl fun v hv => ?_
  change Except.ok v = (s.answer (.viewColumns view)).1 at hv
  rw [Store.answer] at hv
  cases hget : s.views.get? view with
  | none =>
    rw [hget] at hv
    cases hv
  | some u =>
    rw [hget] at hv
    exact congrArg some (Except.ok.inj hv).symm

/-! ## widgets that are not saved -/

/-- a configuration with violations is not written -/
theorem reads_saveWidget_of_violations {d : Dashboard} {v : View} {w : Submission}
    (hd : s.dashboards.get? id = some d) (hv : s.views.get? d.view = some v)
    (hw : (w.draft.compile v).violations ≠ []) :
    (saveWidget id sectionId w).Sound (.reads s) fun _ => False := by
  refine (reads_sectionOf s id sectionId).bind fun p hp => ?_
  obtain rfl : d = p.1 := Option.some.inj (hd.symm.trans hp.1)
  refine (reads_viewColumns s p.1.view).bind fun u hu => ?_
  obtain rfl : v = u := Option.some.inj (hv.symm.trans hu)
  exact sound_require.bind fun _ hnone => absurd hnone hw

/-! ## reads before writes -/

theorem readOnly_dashboard (id : String) : (dashboard id).Sound .readOnly fun _ => True := by
  have hask : (ask (.dashboard id)).Sound .readOnly fun _ => True :=
    sound_ask rfl fun _ _ => trivial
  exact hask.bind fun _ _ => sound_found fun _ _ => trivial

theorem readOnly_sectionOf (id sectionId : String) :
    (sectionOf id sectionId).Sound .readOnly fun _ => True := by
  refine (readOnly_dashboard id).bind fun _ _ => ?_
  exact Sound.bind (sound_found fun _ h => h) fun _ _ => sound_pure trivial

theorem readOnly_viewColumns (view : String) :
    (ask (.viewColumns view)).Sound .readOnly fun _ => True :=
  sound_ask rfl fun _ _ => trivial

section

variable {k : Contract} {P : Prop} (hreads : ∀ c : Call, c.isWrite = false → k.allows c)
include hreads

/-- what only reads keeps to every contract that allows that -/
theorem Sound.of_readOnly {t : Task α} (h : t.Sound .readOnly fun _ => True) :
    t.Sound k fun _ => True :=
  Plan.Sound.weaken h hreads fun _ _ _ => trivial

/-- a widget is saved by one write, behind reads -/
theorem sound_saveWidget_of_calls {id sectionId : String} (w : Submission)
    (hcreate : ∀ new, (ask (.createWidget id new)).Sound k fun _ => P)
    (hupdate : ∀ new, (ask (.updateWidget id new)).Sound k fun _ => P) :
    (saveWidget id sectionId w).Sound k fun _ => P := by
  refine ((readOnly_sectionOf id sectionId).of_readOnly hreads).bind fun p _ => ?_
  refine ((readOnly_viewColumns p.1.view).of_readOnly hreads).bind fun v _ => ?_
  refine sound_require.bind fun _ _ => ?_
  cases w.id with
  | some widget => exact Sound.bind (sound_found fun _ h => h) fun _ _ => hupdate _
  | none => exact hcreate _

/-- so is a widget deleted -/
theorem sound_deleteWidget_of_calls {id widget : String}
    (hdelete : (ask (.deleteWidget id widget)).Sound k fun _ => P) :
    (deleteWidget id widget).Sound k fun _ => P := by
  refine ((readOnly_dashboard id).of_readOnly hreads).bind fun d _ => ?_
  refine Sound.bind (sound_found fun _ h => h) fun _ _ => ?_
  exact hdelete.bind fun _ hp => sound_pure hp

end

/-! ## closed to writes -/

theorem shut_ask {c : Call} (hc : c.isWrite = true) : (ask c).Sound .shut fun _ => False :=
  sound_ask trivial fun a ha => ha hc a rfl

theorem shut_saveWidget (id sectionId : String) (w : Submission) :
    (saveWidget id sectionId w).Sound .shut fun _ => False :=
  sound_saveWidget_of_calls (fun _ _ => trivial) w (fun _ => shut_ask rfl) fun _ => shut_ask rfl

theorem shut_deleteWidget (id widget : String) :
    (deleteWidget id widget).Sound .shut fun _ => False :=
  sound_deleteWidget_of_calls (fun _ _ => trivial) (shut_ask rfl)

end Task

/-! ## a write comes last -/

namespace Plan

/-- makes one write at most, as its last call, and does not fail once that has succeeded -/
def WritesLast : Plan (Except ServiceError α) → Prop
  | .done _ => True
  | .ask c next =>
    (c.isWrite = false → ∀ r, (next r).WritesLast) ∧
    (c.isWrite = true → (∀ r, ∃ x, next r = .done x) ∧ ∀ a, ∃ o, next (.ok a) = .done (.ok o))

/-- only reads come before a write -/
theorem WritesLast.bind {Q : α → Prop} {p : Plan α} {f : α → Plan (Except ServiceError β)}
    (h : p.Sound .readOnly Q) (hf : ∀ a, (f a).WritesLast) : (p.bind f).WritesLast := by
  induction p with
  | done a => exact hf a
  | ask c next ih =>
    obtain ⟨hread, hnext⟩ := h
    refine ⟨fun _ r => ih r (hnext r trivial), fun hwrite => ?_⟩
    exact absurd (hwrite.symm.trans hread) nofun

/-- nothing is called behind a write -/
theorem WritesLast.bind_done {p : Plan (Except ServiceError α)}
    {f : Except ServiceError α → Plan (Except ServiceError β)} (h : p.WritesLast)
    (hdone : ∀ r, ∃ x, f r = .done x) (hok : ∀ a, ∃ o, f (.ok a) = .done (.ok o)) :
    (p.bind f).WritesLast := by
  induction p with
  | done r =>
    obtain ⟨x, hx⟩ := hdone r
    show (f r).WritesLast
    rw [hx]
    trivial
  | ask c next ih =>
    refine ⟨fun hread r => ih r (h.1 hread r), fun hwrite => ?_⟩
    obtain ⟨hends, hsucceeds⟩ := h.2 hwrite
    constructor
    · intro r
      obtain ⟨x, hx⟩ := hends r
      obtain ⟨y, hy⟩ := hdone x
      exact ⟨y, (congrArg (Plan.bind · f) hx).trans hy⟩
    · intro a
      obtain ⟨o, ho⟩ := hsucceeds a
      obtain ⟨y, hy⟩ := hok o
      exact ⟨y, (congrArg (Plan.bind · f) ho).trans hy⟩

end Plan

namespace Task

def WritesLast (t : Task α) : Prop :=
  t.run.WritesLast

theorem WritesLast.bind {Q : α → Prop} {t : Task α} {f : α → Task β} (h : t.Sound .readOnly Q)
    (hf : ∀ a, (f a).WritesLast) : (t >>= f).WritesLast := by
  refine Plan.WritesLast.bind h fun r => ?_
  cases r with
  | error e => trivial
  | ok a => exact hf a

theorem WritesLast.map {t : Task α} (f : α → β) (h : t.WritesLast) : (f <$> t).WritesLast := by
  refine Plan.WritesLast.bind_done h (fun r => ?_) fun a => ⟨f a, rfl⟩
  cases r with
  | error e => exact ⟨.error e, rfl⟩
  | ok a => exact ⟨.ok (f a), rfl⟩

theorem writesLast_ask (c : Call) : (ask c).WritesLast := by
  refine ⟨fun _ r => ?_, fun _ => ⟨fun r => ?_, fun a => ⟨a, rfl⟩⟩⟩
  · cases r <;> trivial
  · cases r with
    | error e => exact ⟨.error (.store e), rfl⟩
    | ok a => exact ⟨.ok a, rfl⟩

theorem writesLast_saveWidget (id sectionId : String) (w : Submission) :
    (saveWidget id sectionId w).WritesLast := by
  refine .bind (readOnly_sectionOf id sectionId) fun p => ?_
  refine .bind (readOnly_viewColumns p.1.view) fun v => ?_
  refine .bind sound_require fun _ => ?_
  cases w.id with
  | some widget => exact .bind (sound_found fun _ h => h) fun _ => writesLast_ask _
  | none => exact writesLast_ask _

theorem writesLast_deleteWidget (id widget : String) : (deleteWidget id widget).WritesLast := by
  refine .bind (readOnly_dashboard id) fun d => ?_
  refine .bind (sound_found fun _ h => h) fun _ => ?_
  refine Plan.WritesLast.bind_done (writesLast_ask _) (fun r => ?_) fun _ => ⟨_, rfl⟩
  cases r with
  | error e => exact ⟨.error e, rfl⟩
  | ok a => exact ⟨.ok (d.withoutWidget widget), rfl⟩

/-- filters are not written, they are handed on -/
theorem writesLast_prepareFilters (id : String) (fs : List Filter) :
    (prepareFilters id fs).WritesLast := by
  refine .bind (readOnly_dashboard id) fun d => ?_
  refine .bind (readOnly_viewColumns d.view) fun v => ?_
  exact .bind sound_require fun _ => trivial

end Task

/-- what became of the layout does not matter to the one who asked for it -/
theorem Plan.writesLast_relayout (id : String) (f : Relayout) : (relayout id f).WritesLast := by
  refine ⟨fun _ r => ?_, nofun⟩
  rcases r with e | _ | d
  · trivial
  · trivial
  · show (commit (f d)).WritesLast
    cases f d with
    | error e => trivial
    | ok e => exact ⟨nofun, fun _ => ⟨fun _ => ⟨_, rfl⟩, fun _ => ⟨_, rfl⟩⟩⟩

/-- every action writes last, if it writes at all -/
theorem Action.writesLast_plan (newId id : String) (a : Action) :
    (a.plan newId id).WritesLast := by
  have hdashboard : (Task.dashboard id).WritesLast := by
    refine .bind (Task.sound_ask rfl fun _ h => h) fun o => ?_
    cases o <;> trivial
  cases a with
  | get | inspect => exact hdashboard.map _
  | save sectionId w => exact (Task.writesLast_saveWidget id sectionId w).map _
  | delete w => exact (Task.writesLast_deleteWidget id w).map _
  | setNativeFilters fs => exact (Task.writesLast_prepareFilters id fs).map _
  | addSection | removeSection | setColumns | reorderWidgets | reorderSections | resize | drag =>
    rw [plan_eq_relayout rfl]
    exact Plan.writesLast_relayout id _

/-! ## what fails changes nothing -/

namespace Store

variable {s : Store}

/-- the dashboards and the views are the same; ids may have been used up -/
structure Untouched (s t : Store) : Prop where
  dashboards : t.dashboards = s.dashboards
  views : t.views = s.views

theorem Untouched.refl (s : Store) : s.Untouched s :=
  ⟨rfl, rfl⟩

theorem modify_of_error {α : Type} {id : String} {err : StoreError}
    {edit : Dashboard → Except StoreError (α × Dashboard)} (h : (s.modify id edit).1 = .error err) :
    (s.modify id edit).2 = s := by
  rcases s.modify_eq_or id edit with hs | ⟨d, a, e, hd, he, -⟩
  · exact hs
  · rw [modify_of_ok hd he] at h
    exact nomatch h

/-- a call that fails changes nothing -/
theorem untouched_of_error {c : Call} {err : StoreError} (h : (s.answer c).1 = .error err) :
    s.Untouched (s.answer c).2 := by
  refine ⟨?_, s.views_answer c⟩
  cases c with
  | dashboard => rfl
  | viewColumns =>
    rw [answer]
    split <;> rfl
  | createWidget id w =>
    have hs := congrArg Store.dashboards (modify_of_error h)
    exact hs
  | updateWidget | deleteWidget | saveLayout | saveNativeFilters =>
    exact congrArg Store.dashboards (modify_of_error h)

end Store

/-! ## sessions -/

namespace Session

variable {s : Session} {id : String} {a : Action}

theorem answer_of_read {c : Call} (hc : c.isWrite = false) :
    s.answer c = ((s.store.answer c).1, s) := by
  rw [answer, hc]
  rfl

/-- the result of an action is that of its plan -/
theorem result_perform (s : Session) (id : String) (a : Action) :
    (s.perform id a).1 =
      ((a.plan (s.newSectionId (s.sectionsMade + 1)) id).run answer s).1 := by
  unfold perform
  generalize (a.plan (s.newSectionId (s.sectionsMade + 1)) id).run answer s = x
  obtain ⟨r, t⟩ := x
  cases r <;> rfl

/-- the same in a session, closed to writes or not -/
theorem untouched_answer {c : Call} {err : StoreError} (h : (s.answer c).1 = .error err) :
    s.store.Untouched (s.answer c).2.store := by
  unfold answer at h ⊢
  split
  · next hc =>
    rw [if_pos hc] at h
    split
    · next hw =>
      rw [if_pos hw] at h
      exact Store.untouched_of_error h
    · exact .refl _
  · exact .refl _

theorem untouched_run {p : Plan (Except ServiceError α)} (h : p.WritesLast) {err : ServiceError}
    (he : (p.run answer s).1 = .error err) : s.store.Untouched (p.run answer s).2.store := by
  induction p generalizing s with
  | done r => exact .refl _
  | ask c next ih =>
    rw [Plan.run_ask] at he ⊢
    cases hc : c.isWrite with
    | false =>
      rw [answer_of_read hc] at he ⊢
      exact ih _ (h.1 hc _) he
    | true =>
      obtain ⟨hends, hsucceeds⟩ := h.2 hc
      cases hr : (s.answer c).1 with
      | ok a =>
        obtain ⟨o, ho⟩ := hsucceeds a
        rw [hr, ho] at he
        exact nomatch he
      | error e =>
        obtain ⟨x, hx⟩ := hends (.error e)
        rw [hx]
        exact untouched_answer hr

/-- **A request that fails leaves the store untouched.** -/
theorem untouched_perform {err : ServiceError} (h : (s.perform id a).1 = .error err) :
    s.store.Untouched (s.perform id a).2.store := by
  rw [result_perform] at h
  rw [store_perform]
  exact untouched_run (Action.writesLast_plan _ id a) h

/-! ### only reads -/

theorem run_of_reads {p : Plan α} {Q : α → Prop} (h : p.Sound (.reads s.store) Q) :
    Q (p.run answer s).1 ∧ (p.run answer s).2 = s := by
  refine h.run (I := fun t => t = s) (fun c t hc ht => ?_) rfl
  subst ht
  rw [answer_of_read hc]
  exact ⟨rfl, rfl⟩

/-- **A request that only reads, and fails, leaves the session as it was.** -/
theorem exists_perform_of_reads
    (h : (a.task (s.newSectionId (s.sectionsMade + 1)) id).Sound (.reads s.store) fun _ => False) :
    ∃ e, s.perform id a = (.error e, s) := by
  obtain ⟨hr, hs⟩ := run_of_reads h
  change ∀ o, ((a.plan (s.newSectionId (s.sectionsMade + 1)) id).run answer s).1 = .ok o → False
    at hr
  change ((a.plan (s.newSectionId (s.sectionsMade + 1)) id).run answer s).2 = s at hs
  unfold perform
  revert hr hs
  generalize (a.plan (s.newSectionId (s.sectionsMade + 1)) id).run answer s = x
  obtain ⟨r, t⟩ := x
  intro hr hs
  cases r with
  | ok o => exact absurd rfl (hr o)
  | error e => exact ⟨e, congrArg (Prod.mk _) hs⟩

/-! ### closed to writes -/

theorem answer_of_shut (hw : s.writable = false) (c : Call) :
    Contract.shut.replies c (s.answer c).1 ∧ (s.answer c).2.store = s.store := by
  unfold answer
  rw [hw]
  cases hc : c.isWrite with
  | true => exact ⟨fun _ _ => nofun, rfl⟩
  | false => exact ⟨fun h => absurd (hc.symm.trans h) nofun, rfl⟩

theorem run_of_shut {p : Plan α} {Q : α → Prop} (hw : s.writable = false) (h : p.Sound .shut Q) :
    Q (p.run answer s).1 := by
  refine (h.run (I := fun t : Session => t.writable = false) (fun c t _ ht => ?_) hw).1
  exact ⟨(answer_of_shut ht c).1, (t.writable_answer c).trans ht⟩

theorem store_run_of_shut (p : Plan α) (hw : s.writable = false) :
    (p.run answer s).2.store = s.store := by
  induction p generalizing s with
  | done a => rfl
  | ask c next ih =>
    rw [Plan.run_ask, ih, (answer_of_shut hw c).2]
    rw [writable_answer, hw]

/-- **No request changes a store that is closed to writes.** -/
theorem store_perform_of_shut (hw : s.writable = false) (id : String) (a : Action) :
    (s.perform id a).2.store = s.store :=
  (s.store_perform id a).trans (store_run_of_shut _ hw)

end Session

end WidgetBoard
