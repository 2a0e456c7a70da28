import WidgetBoard.Proofs.Lists
import WidgetBoard.Proofs.Worker

/-!
# Bursts

Filters of one dashboard that are handed in less than a quiet time after others are to take their
place before these are saved.

* `Worker.Handed o behind`   the filters `o` were saved, by what is on record behind their receipt;
* `Worker.Rests`             what was saved had been left alone for a quiet time;
* `Worker.Prompt`            the runs in which nothing is saved while filters are queued.

Main statements: `Worker.Prompt.not_handed` (in these runs of a burst only the last is saved),
`Worker.handed_in_burst` (but while the worker saves for another dashboard, filters may be left in
the queue until those that they replace have become due).
-/

namespace WidgetBoard

/-! ## the record in two parts -/

namespace Entry

variable {log front behind : List Entry} {now : Nat} {o : Offer}

/-- what was received before saves -/
theorem exists_of_append_saved {ss : List Save}
    (h : log ++ ss.map .saved = front ++ .received now o :: behind) :
    ∃ rest, log = front ++ .received now o :: rest ∧ behind = rest ++ ss.map .saved := by
  rcases List.append_eq_append_iff.1 h with ⟨as, -, hss⟩ | ⟨cs, hlog, hcs⟩
  · have hmem : Entry.received now o ∈ ss.map .saved := by
      rw [hss]
      exact List.mem_append_right _ List.mem_cons_self
    obtain ⟨_, -, hs⟩ := List.mem_map.1 hmem
    exact nomatch hs
  · cases cs with
    | nil =>
      have hmem : Entry.received now o ∈ ss.map .saved := by
        rw [List.nil_append] at hcs
        rw [← hcs]
        exact List.mem_cons_self
      obtain ⟨_, -, hs⟩ := List.mem_map.1 hmem
      exact nomatch hs
    | cons e rest =>
      obtain ⟨rfl, rfl⟩ := List.cons.inj hcs
      exact ⟨rest, hlog, rfl⟩

/-- what was received last, or before others -/
theorem exists_of_append_received {later : Nat} {p : Offer}
    (h : log ++ [.received later p] = front ++ .received now o :: behind) :
    behind = [] ∨
      ∃ rest, log = front ++ .received now o :: rest ∧ behind = rest ++ [.received later p] := by
  rcases split_concat h with ⟨-, -, hbehind⟩ | ⟨rest, hbehind, hlog⟩
  · exact Or.inl hbehind
  · exact Or.inr ⟨rest, hlog, hbehind⟩

end Entry

namespace Worker

variable {w t : Worker} {a : Act} {quiet : Nat} {o : Offer} {es fs : List Entry}

/-- the first on record behind, for the dashboard of `o`, is a save -/
def Handed (o : Offer) (behind : List Entry) : Prop :=
  ∃ s rest, Entry.about o.dashboard behind = .saved s :: rest

theorem handed_append_iff : Handed o (es ++ fs) ↔
    Handed o es ∨ Entry.about o.dashboard es = [] ∧ Handed o fs := by
  unfold Handed
  rw [Entry.about_append]
  cases Entry.about o.dashboard es with
  | nil => simp
  | cons e es => simp

theorem not_handed_received {now : Nat} {p : Offer} : ¬ Handed o [.received now p] := by
  rintro ⟨s, rest, h⟩
  have hmem : Entry.saved s ∈ Entry.about o.dashboard [.received now p] := by
    rw [h]
    exact List.mem_cons_self
  exact nomatch List.mem_singleton.1 (List.mem_filter.1 hmem).1

theorem handed_of_meets {now : Nat} {behind : List Entry}
    (h : w.Meets now o (Entry.about o.dashboard behind) .handed) : Handed o behind := by
  obtain ⟨s, hs, -⟩ := h
  unfold Handed
  cases hb : Entry.about o.dashboard behind with
  | nil =>
    rw [hb] at hs
    exact nomatch hs
  | cons e rest =>
    rw [hb] at hs
    cases e with
    | received => exact nomatch hs
    | saved x => exact ⟨x, rest, rfl⟩

/-! ## times -/

/-- nothing is received before it is handed in -/
theorem Reachable.time_le (h : w.Reachable quiet) :
    (∀ p ∈ w.queue, p.time ≤ w.clock) ∧ ∀ now p, .received now p ∈ w.log → p.time ≤ now := by
  induction h with
  | start => exact ⟨nofun, nofun⟩
  | @step w t a _ hs ih =>
    obtain ⟨hqueue, hlog⟩ := ih
    have hsaved {ss : List Save} {now : Nat} {p : Offer}
        (hin : Entry.received now p ∈ w.log ++ ss.map .saved) : p.time ≤ now := by
      rcases List.mem_append.1 hin with hin | hin
      · exact hlog now p hin
      · obtain ⟨_, -, hx⟩ := List.mem_map.1 hin
        exact nomatch hx
    cases hs with
    | submit o _ htime =>
      refine ⟨fun p hp => ?_, hlog⟩
      rcases List.mem_append.1 hp with hp | hp
      · exact Nat.le_trans (hqueue p hp) htime
      · exact Nat.le_of_eq (congrArg Offer.time (List.mem_singleton.1 hp))
    | @receive o queue now _ hq htime =>
      rw [hq] at hqueue
      refine ⟨fun p hp => Nat.le_trans (hqueue p (List.mem_cons_of_mem _ hp)) htime, ?_⟩
      intro later p hin
      rcases List.mem_append.1 hin with hin | hin
      · exact hlog later p hin
      · cases List.mem_singleton.1 hin
        exact Nat.le_trans (hqueue o List.mem_cons_self) htime
    | fire _ htime =>
      exact ⟨fun p hp => Nat.le_trans (hqueue p hp) htime, fun _ _ hin => hsaved hin⟩
    | close _ _ htime =>
      exact ⟨fun p hp => Nat.le_trans (hqueue p hp) htime, fun _ _ hin => hsaved hin⟩

/-! ## left alone -/

/-- what was saved had been left alone: nothing was handed in for its dashboard for a quiet time,
and unless the worker has ended that time is over -/
def Rests (quiet : Nat) (w : Worker) : Prop :=
  ∀ front now o behind, w.log = front ++ .received now o :: behind → Handed o behind →
    (w.ended = true ∨ o.time + quiet ≤ w.clock) ∧
      ∀ p ∈ Entry.offers behind ++ w.queue, p.dashboard = o.dashboard → o.time + quiet ≤ p.time

/-- where nothing is on record of a dashboard, nothing was received for it -/
theorem ne_of_about_eq_nil {behind : List Entry} (h : Entry.about o.dashboard behind = []) :
    ∀ p ∈ Entry.offers behind, p.dashboard ≠ o.dashboard := by
  have hnone := Entry.offers_about o.dashboard behind
  rw [h] at hnone
  intro p hp hid
  exact List.filter_eq_nil_iff.1 hnone.symm p hp (by simpa using hid)

/-- filters that are saved now, after nothing else was received, were left alone -/
theorem Reachable.le_of_handed_fire {now₀ now : Nat} {front rest : List Entry} {ss : List Save}
    (h : w.Reachable quiet) (hlog : w.log = front ++ .received now₀ o :: rest)
    (hrest : Entry.about o.dashboard rest = []) (hsaves : Saves ss (w.debounce.due now))
    (hhanded : Handed o (ss.map .saved)) : o.time + quiet ≤ now := by
  have hwaits := h.follows o.dashboard
  rw [hlog, Entry.about_append, Entry.about_cons_of_eq o.dashboard (.received now₀ o) rest rfl,
    hrest] at hwaits
  have hget : some _ = w.debounce.waiting.get? o.dashboard := hwaits.behind_received
  have htime : o.time ≤ now₀ := by
    refine h.time_le.2 now₀ o ?_
    rw [hlog]
    exact List.mem_append_right _ List.mem_cons_self
  have hdue : now₀ + quiet ≤ now := by
    by_contra hnot
    have hnone := w.debounce.filter_due now o.dashboard
    rw [← hget] at hnone
    simp only [Option.filter, hnot, decide_false] at hnone
    obtain ⟨s, behind, hs⟩ := hhanded
    rw [hsaves.about_eq_nil hnone] at hs
    exact nomatch hs
  exact Nat.le_trans (Nat.add_le_add_right htime quiet) hdue

/-- **A step at which nothing is saved past the queue** leaves it so. -/
theorem Step.rests (hs : w.Step a t) (h : w.Reachable quiet)
    (hprompt : ∀ now done ss, a = .fire now done ss → w.queue = []) (hw : w.Rests quiet) :
    t.Rests quiet := by
  intro front now₀ o behind hlog hhanded
  -- what was saved before rested before; only `fire` and `close` save, and what they save is the
  -- last on record of its dashboard, so whatever may follow it is in the queue
  cases hs with
  | submit p hopen htime =>
    obtain ⟨hover, hlater⟩ := hw front now₀ o behind hlog hhanded
    have hclock : o.time + quiet ≤ w.clock :=
      hover.resolve_left fun hended => absurd (hopen.symm.trans hended) nofun
    refine ⟨Or.inr (Nat.le_trans hclock htime), fun q hq hid => ?_⟩
    rw [← List.append_assoc] at hq
    rcases List.mem_append.1 hq with hq | hq
    · exact hlater q hq hid
    · rw [List.mem_singleton.1 hq]
      exact Nat.le_trans hclock htime
  | @receive p queue now hopen hqueue htime =>
    rcases Entry.exists_of_append_received hlog with rfl | ⟨rest, hrest, rfl⟩
    · obtain ⟨_, _, hs⟩ := hhanded
      exact nomatch hs
    · rcases handed_append_iff.1 hhanded with hhanded | ⟨-, hhanded⟩
      · obtain ⟨hover, hlater⟩ := hw front now₀ o rest hrest hhanded
        refine ⟨hover.imp_right fun hclock => Nat.le_trans hclock htime, ?_⟩
        rw [hqueue] at hlater
        rw [Entry.offers_append, List.append_assoc]
        exact hlater
      · exact absurd hhanded not_handed_received
  | @fire now done ss hopen htime _ _ hsaves =>
    obtain ⟨rest, hrest, rfl⟩ := Entry.exists_of_append_saved hlog
    rw [Entry.offers_append, Entry.offers_map_saved, List.append_nil]
    rcases handed_append_iff.1 hhanded with hhanded | ⟨hnone, hhanded⟩
    · obtain ⟨hover, hlater⟩ := hw front now₀ o rest hrest hhanded
      exact ⟨hover.imp_right fun hclock => Nat.le_trans hclock htime, hlater⟩
    · refine ⟨Or.inr (h.le_of_handed_fire hrest hnone hsaves hhanded), fun q hq hid => ?_⟩
      rw [hprompt now done ss rfl, List.append_nil] at hq
      exact absurd hid (ne_of_about_eq_nil hnone q hq)
  | @close now ss _ hqueue =>
    obtain ⟨rest, hrest, rfl⟩ := Entry.exists_of_append_saved hlog
    rw [Entry.offers_append, Entry.offers_map_saved, List.append_nil]
    refine ⟨Or.inl rfl, fun q hq hid => ?_⟩
    rcases handed_append_iff.1 hhanded with hhanded | ⟨hnone, -⟩
    · exact (hw front now₀ o rest hrest hhanded).2 q hq hid
    · rw [hqueue, List.append_nil] at hq
      exact absurd hid (ne_of_about_eq_nil hnone q hq)

/-- the states behind steps at which nothing is saved while something is queued -/
inductive Prompt (quiet : Nat) : Worker → Prop where
  | start : Prompt quiet (start quiet)
  | step {w t : Worker} {a : Act} (h : Prompt quiet w) (hs : w.Step a t)
      (hprompt : ∀ now done ss, a = .fire now done ss → w.queue = []) : Prompt quiet t

namespace Prompt

theorem reachable (h : w.Prompt quiet) : w.Reachable quiet := by
  induction h with
  | start => exact .start
  | step _ hs _ ih => exact .step ih hs

theorem rests (h : w.Prompt quiet) : w.Rests quiet := by
  induction h with
  | start =>
    intro front now o behind hlog
    exact absurd hlog.symm (List.append_ne_nil_of_right_ne_nil _ (List.cons_ne_nil _ _))
  | step h hs hprompt ih => exact hs.rests h.reachable hprompt ih

/-- **Of a burst only the last is saved**, as long as all that is queued is received before anything
is saved: filters are not saved if others, received or still queued behind them, were handed in for
their dashboard within the quiet time. -/
theorem not_handed (h : w.Prompt quiet) {front behind : List Entry} {now : Nat} {p : Offer}
    (hlog : w.log = front ++ .received now o :: behind)
    (hp : p ∈ Entry.offers behind ++ w.queue) (hid : p.dashboard = o.dashboard)
    (hburst : p.time < o.time + quiet) :
    ¬ w.Meets now o (Entry.about o.dashboard behind) .handed := fun hmeets =>
  have hlater := (h.rests front now o behind hlog (handed_of_meets hmeets)).2
  Nat.not_le.2 hburst (hlater p hp hid)

end Prompt

/-- **While the worker saves for one dashboard, a burst of another may come due**: the last of the
burst is still queued when it next looks, and what it was to replace is saved first. -/
theorem handed_in_burst :
    ∃ w : Worker, w.Reachable 400 ∧ ∃ front now behind, ∃ o p : Offer,
      w.log = front ++ .received now o :: behind ∧ p ∈ w.queue ∧ p.dashboard = o.dashboard ∧
      p.time < o.time + 400 ∧ w.Meets now o (Entry.about o.dashboard behind) .handed := by
  let north : Filter := { column := "region", op := .eq, value := some (.scalar (.str "north")) }
  let other : Offer := ⟨0, "ops", [north]⟩
  let first : Offer := ⟨300, "sales", [north, north]⟩
  let second : Offer := ⟨500, "sales", [north]⟩
  -- the save for the other dashboard takes from 400 to 1000, and `first` falls due at 700
  let slow : Save := ⟨400, "ops", [north], false, .ok ()⟩
  let save : Save := ⟨1000, "sales", [north, north], false, .ok ()⟩
  let w₁ : Worker := { debounce := {}, submitted := [other], queue := [other] }
  let w₂ : Worker :=
    { w₁ with debounce := w₁.debounce.submit 0 "ops" [north], queue := [],
              log := [.received 0 other] }
  let w₃ : Worker := { w₂ with submitted := [other, first], queue := [first], clock := 300 }
  let w₄ : Worker :=
    { w₃ with debounce := w₃.debounce.submit 300 "sales" [north, north], queue := [],
              log := [.received 0 other, .received 300 first] }
  let w₅ : Worker :=
    { w₄ with debounce := w₄.debounce.later 400, log := w₄.log ++ [.saved slow],
              clock := 400, free := 1000 }
  let w₆ : Worker :=
    { w₅ with submitted := [other, first, second], queue := [second], clock := 500 }
  let w₇ : Worker :=
    { w₆ with debounce := w₆.debounce.later 1000, log := w₆.log ++ [.saved save],
              clock := 1000, free := 1000 }
  have h₁ : (start 400).Step (.submit other) w₁ := .submit other rfl (by decide)
  have h₂ : w₁.Step (.receive 0) w₂ :=
    @Step.receive _ other [] 0 rfl rfl (by decide) (by decide)
  have h₃ : w₂.Step (.submit first) w₃ := .submit first rfl (by decide)
  have h₄ : w₃.Step (.receive 300) w₄ :=
    @Step.receive _ first [] 300 rfl rfl (by decide) (by decide)
  have h₅ : w₄.Step (.fire 400 1000 [slow]) w₅ :=
    .fire rfl (by decide) (by decide) ⟨"ops", ⟨[north], 400⟩, by decide +kernel, by decide⟩
      (by decide +kernel) (by decide) (by decide)
  have h₆ : w₅.Step (.submit second) w₆ := .submit second rfl (by decide)
  have h₇ : w₆.Step (.fire 1000 1000 [save]) w₇ :=
    .fire rfl (by decide) (by decide)
      ⟨"sales", ⟨[north, north], 700⟩, by decide +kernel, by decide⟩
      (by decide +kernel) (by decide) (by decide)
  have h : w₇.Reachable 400 :=
    .step (.step (.step (.step (.step (.step (.step .start h₁) h₂) h₃) h₄) h₅) h₆) h₇
  exact ⟨w₇, h, [.received 0 other], 300, [.saved slow, .saved save], first, second,
    rfl, List.mem_singleton_self second, rfl, by decide, save, rfl, rfl⟩

end Worker

end WidgetBoard
