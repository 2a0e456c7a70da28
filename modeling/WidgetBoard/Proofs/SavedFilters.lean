import WidgetBoard.Proofs.Bursts
import WidgetBoard.Proofs.Refusals

/-!
# The worker of a session

A session has a worker of its own, which receives filters as soon as they are handed in and saves
them without taking any time.

* `Contract.noFilters`        no filters of a dashboard are written;
* `Session.filterWrites`      the writes of filters in the journal of a session;
* `Session.Mirrors s w`       the worker of the session `s` is in the state `w`;
* `Session.Wrote s us t`      from `s` to `t` the filters `us` were written.

Main statements: `Session.exists_mirrors_turns`, `Session.exists_mirrors_shutdown` (whatever happens
to a session is one of the runs of the worker in which nothing is saved while filters are queued).
-/

namespace WidgetBoard

/-! ## requests write no filters -/

/-- no filters of a dashboard are written -/
def Contract.noFilters : Contract where
  allows c := c.filters? = none
  replies _ _ := True

/-- what is read is no write of filters -/
theorem Call.filters?_of_read {c : Call} (hc : c.isWrite = false) : c.filters? = none := by
  cases c with
  | dashboard | viewColumns => rfl
  | createWidget | updateWidget | deleteWidget | saveLayout | saveNativeFilters => exact nomatch hc

namespace Task

theorem noFilters_saveWidget (id sectionId : String) (w : Submission) :
    (saveWidget id sectionId w).Sound .noFilters fun _ => True :=
  sound_saveWidget_of_calls (fun _ => Call.filters?_of_read) w
    (fun _ => sound_ask rfl fun _ _ => trivial) fun _ => sound_ask rfl fun _ _ => trivial

theorem noFilters_deleteWidget (id widget : String) :
    (deleteWidget id widget).Sound .noFilters fun _ => True :=
  sound_deleteWidget_of_calls (fun _ => Call.filters?_of_read) (sound_ask rfl fun _ _ => trivial)

/-- filters that are handed in are not written yet -/
theorem noFilters_prepareFilters (id : String) (fs : List Filter) :
    (prepareFilters id fs).Sound .noFilters fun _ => True := by
  have hdashboard : (dashboard id).Sound .noFilters fun _ => True :=
    (readOnly_dashboard id).of_readOnly fun _ => Call.filters?_of_read
  have hcolumns (view : String) : (ask (.viewColumns view)).Sound .noFilters fun _ => True :=
    (readOnly_viewColumns view).of_readOnly fun _ => Call.filters?_of_read
  refine hdashboard.bind fun d _ => (hcolumns d.view).bind fun v _ => ?_
  exact sound_require.bind fun _ _ => sound_pure trivial

end Task

theorem Plan.noFilters_relayout (id : String) (f : Relayout) :
    (relayout id f).Sound .noFilters fun _ => True := by
  refine ⟨rfl, fun r _ => ?_⟩
  rcases r with e | _ | d
  · trivial
  · trivial
  · show (commit (f d)).Sound .noFilters _
    cases f d with
    | error e => trivial
    | ok e => exact ⟨rfl, fun _ _ => trivial⟩

theorem Action.noFilters_plan (newId id : String) (a : Action) :
    (a.plan newId id).Sound .noFilters fun _ => True := by
  have htask {α : Type} {t : Task α} (f : α → Outcome) (h : t.Sound .noFilters fun _ => True) :
      (f <$> t).run.Sound .noFilters fun _ => True := by
    have hmap : (f <$> t).Sound .noFilters fun _ => True := h.map fun _ _ => trivial
    exact Plan.Sound.mono hmap fun _ _ => trivial
  cases a with
  | get | inspect =>
    exact htask _ ((Task.readOnly_dashboard id).of_readOnly fun _ => Call.filters?_of_read)
  | save sectionId w => exact htask _ (Task.noFilters_saveWidget id sectionId w)
  | delete w => exact htask _ (Task.noFilters_deleteWidget id w)
  | setNativeFilters fs => exact htask _ (Task.noFilters_prepareFilters id fs)
  | addSection | removeSection | setColumns | reorderWidgets | reorderSections | resize | drag =>
    rw [plan_eq_relayout rfl]
    exact Plan.noFilters_relayout id _

/-! ## what is due -/

namespace Debounce

variable {b : Debounce} {now : Nat}

theorem later_eq_self (h : b.due now = []) : b.later now = b := by
  have hnot : ∀ e ∈ b.waiting.entries, ¬ e.2.due ≤ now := by
    intro e he hdue
    have hmem : (e.1, e.2.filters) ∈ b.due now :=
      List.mem_filterMap.2 ⟨e, he, if_pos hdue⟩
    rw [h] at hmem
    exact nomatch hmem
  have hwaiting : (b.later now).waiting = b.waiting := by
    refine Dictionary.ext (filterMap_eq_self fun e he => ?_)
    simp [hnot e he]
  show { b with waiting := (b.later now).waiting } = b
  rw [hwaiting]

theorem exists_due (h : b.due now ≠ []) : ∃ id p, b.waiting.get? id = some p ∧ p.due ≤ now := by
  obtain ⟨u, hu⟩ := List.exists_mem_of_ne_nil _ h
  obtain ⟨e, he, hsome⟩ := List.mem_filterMap.1 hu
  by_cases hdue : e.2.due ≤ now
  · exact ⟨e.1, e.2, Dictionary.get?_of_mem he, hdue⟩
  · rw [if_neg hdue] at hsome
    exact nomatch hsome

end Debounce

/-! ## what a session saves -/

namespace Session

/-- the writes of filters that were asked for, whether or not the store was closed -/
def filterWrites (s : Session) : List (String × List Filter) :=
  s.journal.filterMap fun x => x.call.filters?

/-- the worker of the session `s` is in the state `w` -/
structure Mirrors (s : Session) (w : Worker) : Prop where
  debounce : w.debounce = s.debounce
  /-- nothing is left in the queue -/
  queue : w.queue = []
  clock : w.clock ≤ s.clock
  free : w.free ≤ s.clock
  running : w.ended = !s.running
  saves : (Entry.saves w.log).map (fun x => (x.dashboard, x.filters)) = s.filterWrites

/-- the session has gone on from `s` to `t`, and meanwhile the filters `us` were written -/
structure Wrote (s : Session) (us : List (String × List Filter)) (t : Session) : Prop where
  debounce : t.debounce = s.debounce
  clock : t.clock = s.clock
  running : t.running = s.running
  filterWrites : t.filterWrites = s.filterWrites ++ us

variable {s t u : Session} {w : Worker} {quiet : Nat} {us vs : List (String × List Filter)}

theorem Wrote.refl (s : Session) : s.Wrote [] s :=
  ⟨rfl, rfl, rfl, (List.append_nil _).symm⟩

theorem Wrote.trans (h : s.Wrote us t) (hu : t.Wrote vs u) : s.Wrote (us ++ vs) u where
  debounce := hu.debounce.trans h.debounce
  clock := hu.clock.trans h.clock
  running := hu.running.trans h.running
  filterWrites := by rw [hu.filterWrites, h.filterWrites, List.append_assoc]

theorem Mirrors.of_wrote (h : s.Mirrors w) (ht : s.Wrote [] t) : t.Mirrors w where
  debounce := h.debounce.trans ht.debounce.symm
  queue := h.queue
  clock := ht.clock ▸ h.clock
  free := ht.clock ▸ h.free
  running := ht.running ▸ h.running
  saves := by rw [h.saves, ht.filterWrites, List.append_nil]

/-- a call is put on record, also when it is refused -/
theorem wrote_answer (s : Session) (c : Call) : s.Wrote c.filters?.toList (s.answer c).2 := by
  have hnote (refused : Bool) :
      (s.note c refused).filterWrites = s.filterWrites ++ c.filters?.toList := by
    cases hc : c.filters? <;> simp [filterWrites, note, List.filterMap_append, hc]
  cases hc : c.isWrite with
  | true =>
    unfold answer
    rw [if_pos hc]
    split
    · exact ⟨rfl, rfl, rfl, hnote false⟩
    · exact ⟨rfl, rfl, rfl, hnote true⟩
  | false =>
    rw [answer_of_read hc, Call.filters?_of_read hc]
    exact .refl s

theorem wrote_run {α : Type} {p : Plan α} (h : p.Sound .noFilters fun _ => True) :
    s.Wrote [] (p.run answer s).2 := by
  refine (h.run (I := fun t => s.Wrote [] t) (fun c t hc ht => ⟨trivial, ?_⟩) (.refl s)).2
  have hnext := t.wrote_answer c
  rw [hc] at hnext
  exact ht.trans hnext

theorem wrote_saveFilters (us : List (String × List Filter)) (s : Session) :
    s.Wrote us (s.saveFilters us) := by
  induction us generalizing s with
  | nil => exact .refl s
  | cons u us ih =>
    exact (s.wrote_answer (.saveNativeFilters u.1 u.2)).trans
      (ih (s.answer (.saveNativeFilters u.1 u.2)).2)

theorem wrote_settle (s : Session) (id : String) {a : Action} {o : Outcome}
    (h : ∀ fs, o ≠ .nativeFilters fs) : s.Wrote [] (s.settle id a o) := by
  unfold settle
  split
  · exact ⟨rfl, rfl, rfl, (List.append_nil _).symm⟩
  · next fs => exact absurd rfl (h fs)
  · exact .refl s

/-! ### requests -/

/-- filters that are handed in are received at once -/
theorem Mirrors.exists_submit (h : s.Mirrors w) (hw : w.Prompt quiet) (hopen : w.ended = false)
    (id : String) (fs : List Filter) :
    ∃ w', w'.Prompt quiet ∧ w'.ended = false ∧
      Mirrors { s with debounce := s.debounce.submit s.clock id fs } w' := by
  let o : Offer := ⟨s.clock, id, fs⟩
  have hsubmit := hw.step (.submit o hopen h.clock) nofun
  have hqueue : w.queue ++ [o] = o :: [] := by
    rw [h.queue]
    rfl
  have hreceive := hsubmit.step (.receive hopen hqueue (Nat.le_refl s.clock) h.free) nofun
  refine ⟨_, hreceive, hopen, ?_, rfl, Nat.le_refl _, h.free, h.running, ?_⟩
  · show w.debounce.submit s.clock id fs = s.debounce.submit s.clock id fs
    rw [h.debounce]
  · show (Entry.saves (w.log ++ [.received s.clock o])).map _ = s.filterWrites
    rw [← h.saves]
    simp [Entry.saves, List.filterMap_append]

theorem Mirrors.exists_perform (h : s.Mirrors w) (hw : w.Prompt quiet) (hopen : w.ended = false)
    (id : String) (a : Action) :
    ∃ w', w'.Prompt quiet ∧ w'.ended = false ∧ (s.perform id a).2.Mirrors w' := by
  have hrun := wrote_run (s := s)
    (Action.noFilters_plan (s.newSectionId (s.sectionsMade + 1)) id a)
  unfold perform
  revert hrun
  generalize (a.plan (s.newSectionId (s.sectionsMade + 1)) id).run answer s = x
  obtain ⟨r, t⟩ := x
  intro hrun
  have ht := h.of_wrote hrun
  cases r with
  | error e => exact ⟨w, hw, hopen, ht⟩
  | ok o =>
    show ∃ w', _ ∧ _ ∧ (t.settle id a o).Mirrors w'
    by_cases ho : ∃ fs, o = .nativeFilters fs
    · obtain ⟨fs, rfl⟩ := ho
      cases a with
      | setNativeFilters => exact ht.exists_submit hw hopen id fs
      | addSection => exact ⟨w, hw, hopen, ht.of_wrote ⟨rfl, rfl, rfl, (List.append_nil _).symm⟩⟩
      | get | inspect | save | delete | removeSection | setColumns | reorderWidgets
      | reorderSections | resize | drag => exact ⟨w, hw, hopen, ht⟩
    · have hsettle := t.wrote_settle id (a := a) fun fs hfs => ho ⟨fs, hfs⟩
      exact ⟨w, hw, hopen, ht.of_wrote hsettle⟩

/-! ### saves -/

/-- saves that are made at once, one for each of what is to be saved -/
def savesAt (now : Nat) (atEnd : Bool) (us : List (String × List Filter)) : List Save :=
  us.map fun u => ⟨now, u.1, u.2, atEnd, .ok ()⟩

theorem saves_savesAt (now : Nat) (atEnd : Bool) (us : List (String × List Filter)) :
    Worker.Saves (savesAt now atEnd us) us := by
  have hmap : (savesAt now atEnd us).map (fun x => (x.dashboard, x.filters)) = us := by
    rw [savesAt, List.map_map]
    exact List.map_id us
  rw [Worker.Saves, hmap]

theorem saves_log_savesAt (w : Worker) (now : Nat) (atEnd : Bool)
    (us : List (String × List Filter)) :
    (Entry.saves (w.log ++ (savesAt now atEnd us).map .saved)).map
        (fun x => (x.dashboard, x.filters))
      = (Entry.saves w.log).map (fun x => (x.dashboard, x.filters)) ++ us := by
  simp [Entry.saves, savesAt, List.filterMap_append, List.filterMap_map, List.map_filterMap,
    Function.comp_def]

/-- what is due is saved at once -/
theorem Mirrors.exists_advance (h : s.Mirrors w) (hw : w.Prompt quiet) (hopen : w.ended = false)
    (millis : Nat) : ∃ w', w'.Prompt quiet ∧ w'.ended = false ∧ (s.advance millis).Mirrors w' := by
  let now := s.clock + millis
  let t : Session := { s with clock := now, debounce := s.debounce.later now }
  have hclock : w.clock ≤ now := Nat.le_trans h.clock (Nat.le_add_right _ _)
  have hfree : w.free ≤ now := Nat.le_trans h.free (Nat.le_add_right _ _)
  have hwrote : t.Wrote (s.debounce.due now) (s.advance millis) := wrote_saveFilters _ t
  by_cases hdue : s.debounce.due now = []
  · have ht : t.Mirrors w := by
      refine ⟨?_, h.queue, hclock, hfree, h.running, h.saves⟩
      show w.debounce = s.debounce.later now
      rw [Debounce.later_eq_self hdue]
      exact h.debounce
    rw [hdue] at hwrote
    exact ⟨w, hw, hopen, ht.of_wrote hwrote⟩
  · rw [← h.debounce] at hdue
    have hfire := hw.step (.fire hopen hclock hfree (Debounce.exists_due hdue)
      (saves_savesAt now false (w.debounce.due now)) (fun x hx => ?_) (Nat.le_refl now))
      fun _ _ _ _ => h.queue
    · refine ⟨_, hfire, hopen, ?_, h.queue, ?_, ?_, ?_, ?_⟩
      · rw [hwrote.debounce, h.debounce]
      · exact Nat.le_of_eq hwrote.clock.symm
      · exact Nat.le_of_eq hwrote.clock.symm
      · rw [hwrote.running]
        exact h.running
      · rw [saves_log_savesAt, hwrote.filterWrites, h.saves, h.debounce]
        rfl
    · obtain ⟨u, -, rfl⟩ := List.mem_map.1 hx
      exact ⟨rfl, Nat.le_refl _, Nat.le_refl _⟩

/-- **A session saves filters as the worker does**, in every course of requests and waits; nothing
is queued when it saves, so of a burst only the last is saved. -/
theorem exists_mirrors_turns (seed : Seed) (opened quiet : Nat) (ts : List Turn) :
    ∃ w : Worker, w.Prompt quiet ∧ w.ended = false ∧
      ((start seed opened quiet).turns ts).Mirrors w := by
  have hstart : (start seed opened quiet).Mirrors (.start quiet) :=
    ⟨rfl, rfl, Nat.le_refl 0, Nat.le_refl 0, rfl, rfl⟩
  have hrun : ∀ (s : Session) (w : Worker), w.Prompt quiet → w.ended = false → s.Mirrors w →
      ∃ w' : Worker, w'.Prompt quiet ∧ w'.ended = false ∧ (s.turns ts).Mirrors w' := by
    induction ts with
    | nil => exact fun s w hw hopen h => ⟨w, hw, hopen, h⟩
    | cons t ts ih =>
      intro s w hw hopen h
      have hturn : ∃ w', w'.Prompt quiet ∧ w'.ended = false ∧ (s.turn t).Mirrors w' := by
        cases t with
        | request id a => exact h.exists_perform hw hopen id a
        | wait millis => exact h.exists_advance hw hopen millis
      obtain ⟨w', hw', hopen', h'⟩ := hturn
      exact ih (s.turn t) w' hw' hopen' h'
  exact hrun _ _ .start rfl hstart

/-- **When a session is shut down, its worker ends.** -/
theorem exists_mirrors_shutdown (seed : Seed) (opened quiet : Nat) (ts : List Turn) :
    ∃ w : Worker, w.Prompt quiet ∧ w.ended = true ∧
      ((start seed opened quiet).turns ts).shutdown.Mirrors w := by
  obtain ⟨w, hw, hopen, h⟩ := exists_mirrors_turns seed opened quiet ts
  revert h
  generalize (start seed opened quiet).turns ts = s
  intro h
  let t : Session := { s with running := false, debounce := { s.debounce with waiting := {} } }
  have hwrote : t.Wrote s.debounce.flush s.shutdown := wrote_saveFilters _ t
  have hclose := hw.step (.close hopen h.queue h.clock h.free
    (saves_savesAt s.clock true w.debounce.flush) fun x hx => ?_) nofun
  · refine ⟨_, hclose, rfl, ?_, h.queue, ?_, ?_, ?_, ?_⟩
    · rw [hwrote.debounce, h.debounce]
    · exact Nat.le_of_eq hwrote.clock.symm
    · rw [hwrote.clock]
      exact h.free
    · rw [hwrote.running]
      rfl
    · rw [saves_log_savesAt, hwrote.filterWrites, h.saves, h.debounce]
      rfl
  · obtain ⟨u, -, rfl⟩ := List.mem_map.1 hx
    exact ⟨rfl, Nat.le_refl _⟩

end Session

end WidgetBoard
