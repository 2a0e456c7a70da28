import Mathlib.Data.List.Basic
import WidgetBoard.Proofs.Canonical
import WidgetBoard.Service.Debounce
import WidgetBoard.Store.Call

/-!
# The worker that saves filters

Filters that are handed in queue up.  The worker takes them from the queue one by one, in order, and
lets them wait; from time to time it saves what is due, and at the end everything that waits.  While
it saves it does nothing else, however long that takes.  Everything is put on record.

* `Offer`, `Entry`        filters handed in, and what is on record;
* `Worker`                what waits, what is queued and the record;
* `Worker.Step`           one thing that happens: filters are handed in, the worker receives some,
                          it saves what is due, or the queue is closed and it saves the rest;
* `Worker.Reachable`      the states behind any number of steps;
* `Follows`               how the record of one dashboard goes, and what waits behind it;
* `Worker.Accounts`       nothing is lost, doubled, early or out of order.

Main statements: `Worker.Reachable.follows` (every record goes like that),
`Worker.Reachable.accounts` (so the worker accounts for everything).
-/

namespace WidgetBoard

/-! ## the record -/

/-- filters that were handed in for a dashboard -/
structure Offer where
  time : Nat
  dashboard : String
  filters : List Filter
  deriving DecidableEq, Repr

/-- filters that were handed to the store -/
structure Save where
  time : Nat
  dashboard : String
  filters : List Filter
  /-- the queue was closed; otherwise they were due -/
  atEnd : Bool
  /-- what came of it -/
  result : Except StoreError Unit

inductive Entry where
  | received (now : Nat) (o : Offer)
  | saved (s : Save)

namespace Entry

def dashboard : Entry → String
  | .received _ o => o.dashboard
  | .saved s => s.dashboard

def isSave : Entry → Bool
  | .received .. => false
  | .saved _ => true

/-- what is on record about a dashboard -/
def about (id : String) (es : List Entry) : List Entry :=
  es.filter fun e => e.dashboard == id

/-- what was received, in order -/
def offers (es : List Entry) : List Offer :=
  es.filterMap fun
    | .received _ o => some o
    | .saved _ => none

/-- what was saved, in order -/
def saves (es : List Entry) : List Save :=
  es.filterMap fun
    | .received .. => none
    | .saved s => some s

theorem about_append (id : String) (es fs : List Entry) :
    about id (es ++ fs) = about id es ++ about id fs :=
  List.filter_append es fs

theorem about_cons_of_eq (id : String) (e : Entry) (es : List Entry) (h : e.dashboard = id) :
    about id (e :: es) = e :: about id es :=
  List.filter_cons_of_pos (by simpa using h)

theorem about_cons_of_ne (id : String) (e : Entry) (es : List Entry) (h : e.dashboard ≠ id) :
    about id (e :: es) = about id es :=
  List.filter_cons_of_neg (by simpa using h)

theorem offers_append (es fs : List Entry) : offers (es ++ fs) = offers es ++ offers fs :=
  List.filterMap_append

theorem offers_map_saved (ss : List Save) : offers (ss.map .saved) = [] := by
  simp [offers, List.filterMap_map]

/-- what was received for a dashboard -/
theorem offers_about (id : String) (es : List Entry) :
    offers (about id es) = (offers es).filter fun o => o.dashboard == id := by
  rw [about, offers, offers, List.filterMap_filter, List.filter_filterMap]
  congr 1
  funext e
  cases e with
  | received now o => by_cases ho : o.dashboard = id <;> simp [dashboard, Option.filter, ho]
  | saved s => simp

end Entry

/-! ## the worker -/

structure Worker where
  debounce : Debounce
  /-- all that was handed in -/
  submitted : List Offer := []
  /-- what of it was not received yet -/
  queue : List Offer := []
  log : List Entry := []
  /-- nothing more happens before -/
  clock : Nat := 0
  /-- the worker is busy until then -/
  free : Nat := 0
  ended : Bool := false

/-- what happens to a worker -/
inductive Act where
  | submit (o : Offer)
  | receive (now : Nat)
  /-- what is due at `now` is saved, which is over at `done` -/
  | fire (now done : Nat) (saves : List Save)
  /-- the queue is closed, and everything that waits is saved -/
  | close (now : Nat) (saves : List Save)

namespace Worker

def start (quiet : Nat) : Worker :=
  { debounce := { quiet := quiet } }

/-- the filters that are saved, in any order -/
def Saves (saves : List Save) (us : List (String × List Filter)) : Prop :=
  (saves.map fun s => (s.dashboard, s.filters)).Perm us

instance (saves : List Save) (us : List (String × List Filter)) : Decidable (Saves saves us) :=
  inferInstanceAs (Decidable (List.Perm _ us))

inductive Step (w : Worker) : Act → Worker → Prop where
  | submit (o : Offer) (hopen : w.ended = false) (htime : w.clock ≤ o.time) :
      Step w (.submit o)
        { w with submitted := w.submitted ++ [o], queue := w.queue ++ [o], clock := o.time }
  | receive {o : Offer} {queue : List Offer} {now : Nat} (hopen : w.ended = false)
      (hqueue : w.queue = o :: queue) (htime : w.clock ≤ now) (hfree : w.free ≤ now) :
      Step w (.receive now)
        { w with
          debounce := w.debounce.submit now o.dashboard o.filters
          queue := queue
          log := w.log ++ [.received now o]
          clock := now }
  | fire {now done : Nat} {saves : List Save} (hopen : w.ended = false) (htime : w.clock ≤ now)
      (hfree : w.free ≤ now) (hdue : ∃ id p, w.debounce.waiting.get? id = some p ∧ p.due ≤ now)
      (hsaves : Saves saves (w.debounce.due now))
      (hwhen : ∀ s ∈ saves, s.atEnd = false ∧ now ≤ s.time ∧ s.time ≤ done) (hdone : now ≤ done) :
      Step w (.fire now done saves)
        { w with
          debounce := w.debounce.later now
          log := w.log ++ saves.map .saved
          clock := now
          free := done }
  | close {now : Nat} {saves : List Save} (hopen : w.ended = false) (hqueue : w.queue = [])
      (htime : w.clock ≤ now) (hfree : w.free ≤ now) (hsaves : Saves saves w.debounce.flush)
      (hwhen : ∀ s ∈ saves, s.atEnd = true ∧ now ≤ s.time) :
      Step w (.close now saves)
        { w with
          debounce := { w.debounce with waiting := {} }
          log := w.log ++ saves.map .saved
          clock := now
          ended := true }

inductive Reachable (quiet : Nat) : Worker → Prop where
  | start : Reachable quiet (start quiet)
  | step {w t : Worker} {a : Act} (h : Reachable quiet w) (hs : w.Step a t) : Reachable quiet t

end Worker

/-! ## the record of one dashboard -/

/-- `es` may be on record of a dashboard for which `p` has waited, and then `q` waits: what is
received takes the place of what waits, and only what waits is saved, not before it is due unless at
the end -/
def Follows (quiet : Nat) : Option Waiting → List Entry → Option Waiting → Prop
  | p, [], q => p = q
  | _, .received now o :: es, q => Follows quiet (some ⟨o.filters, now + quiet⟩) es q
  | some p, .saved s :: es, q =>
    s.filters = p.filters ∧ (s.atEnd = false → p.due ≤ s.time) ∧ Follows quiet none es q
  | none, .saved _ :: _, _ => False

namespace Follows

variable {quiet : Nat} {p q : Option Waiting} {es fs : List Entry}

theorem append_iff : Follows quiet p (es ++ fs) q ↔
    ∃ r, Follows quiet p es r ∧ Follows quiet r fs q := by
  induction es generalizing p with
  | nil => simp [Follows]
  | cons e es ih =>
    cases e with
    | received now o => exact ih
    | saved s =>
      cases p with
      | none => simp [Follows]
      | some w => simp only [List.cons_append, Follows, ih, and_assoc, exists_and_left]

/-- what was received is followed by its save, by another receipt or by nothing at all -/
theorem behind_received {now : Nat} {o : Offer} {behind : List Entry}
    (h : Follows quiet none (es ++ .received now o :: behind) q) :
    Follows quiet (some ⟨o.filters, now + quiet⟩) behind q := by
  obtain ⟨r, -, hr⟩ := append_iff.1 h
  exact hr

/-- what waits was received last -/
theorem exists_of_waits {w : Waiting} (h : Follows quiet none es (some w)) :
    ∃ front now o, es = front ++ [.received now o] ∧ w = ⟨o.filters, now + quiet⟩ := by
  rcases List.eq_nil_or_concat es with rfl | ⟨front, e, rfl⟩
  · exact nomatch h
  · rw [List.concat_eq_append] at h ⊢
    obtain ⟨r, -, hr⟩ := append_iff.1 h
    cases e with
    | received now o => exact ⟨front, now, o, rfl, (Option.some.inj hr).symm⟩
    | saved s =>
      cases r with
      | none => exact hr.elim
      | some p => exact nomatch hr.2.2

/-- what is saved waited, and was received last -/
theorem exists_of_saved {s : Save} {behind : List Entry}
    (h : Follows quiet none (es ++ .saved s :: behind) q) :
    Follows quiet none behind q ∧ ∃ front now o, es = front ++ [.received now o] ∧
      s.filters = o.filters ∧ (s.atEnd = false → now + quiet ≤ s.time) := by
  obtain ⟨r, hes, hr⟩ := append_iff.1 h
  cases r with
  | none => exact hr.elim
  | some p =>
    obtain ⟨front, now, o, rfl, rfl⟩ := exists_of_waits hes
    exact ⟨hr.2.2, front, now, o, rfl, hr.1, hr.2.1⟩

/-- what is saved is, in order, some of what waited or was received -/
theorem sublist (h : Follows quiet p es q) :
    ((Entry.saves es).map (·.filters)).Sublist
      (p.toList.map (·.filters) ++ (Entry.offers es).map (·.filters)) := by
  induction es generalizing p with
  | nil => exact List.nil_sublist _
  | cons e es ih =>
    cases e with
    | received now o =>
      have hrest := ih h
      exact hrest.trans (List.sublist_append_right _ _)
    | saved s =>
      cases p with
      | none => exact h.elim
      | some w =>
        obtain ⟨hfilters, -, hrest⟩ := h
        have hcons := (ih hrest).cons_cons w.filters
        show (s.filters :: _).Sublist (w.filters :: _)
        rw [hfilters]
        exact hcons

end Follows

/-! ## saves -/

namespace Worker

variable {ss : List Save} {us : List (String × List Filter)} {id : String}

theorem about_map_saved (id : String) (ss : List Save) :
    Entry.about id (ss.map .saved) = (ss.filter fun s => s.dashboard == id).map .saved :=
  List.filter_map

theorem Saves.filter (h : Saves ss us) (id : String) :
    Saves (ss.filter fun s => s.dashboard == id) (us.filter fun u => u.1 == id) := by
  have hperm := List.Perm.filter (fun u => u.1 == id) h
  rw [List.filter_map] at hperm
  exact hperm

theorem Saves.about_eq_nil (h : Saves ss us) (hid : us.filter (fun u => u.1 == id) = []) :
    Entry.about id (ss.map .saved) = [] := by
  have hperm := h.filter id
  rw [hid] at hperm
  rw [about_map_saved, List.map_eq_nil_iff.1 hperm.eq_nil]
  rfl

theorem Saves.exists_about_eq (h : Saves ss us) {fs : List Filter}
    (hid : us.filter (fun u => u.1 == id) = [(id, fs)]) :
    ∃ s ∈ ss, s.filters = fs ∧ Entry.about id (ss.map .saved) = [.saved s] := by
  have hperm := h.filter id
  rw [hid] at hperm
  obtain ⟨s, hs, hupdate⟩ := List.map_eq_singleton_iff.1 (List.perm_singleton.1 hperm)
  have hmem : s ∈ ss.filter fun s => s.dashboard == id := by
    rw [hs]
    exact List.mem_singleton_self s
  refine ⟨s, (List.mem_filter.1 hmem).1, (Prod.mk.inj hupdate).2, ?_⟩
  rw [about_map_saved, hs]
  rfl

/-! ## every step -/

variable {w t : Worker} {a : Act} {quiet : Nat}

theorem Step.quiet_eq (h : w.Step a t) : t.debounce.quiet = w.debounce.quiet := by
  cases h <;> rfl

theorem Step.submitted_eq (h : w.Step a t) (hw : w.submitted = Entry.offers w.log ++ w.queue) :
    t.submitted = Entry.offers t.log ++ t.queue := by
  cases h with
  | submit o =>
    show w.submitted ++ [o] = Entry.offers w.log ++ (w.queue ++ [o])
    rw [hw, List.append_assoc]
  | @receive o queue now _ hqueue =>
    show w.submitted = Entry.offers (w.log ++ [.received now o]) ++ queue
    rw [hw, hqueue, Entry.offers_append, List.append_assoc]
    rfl
  | @fire now done saves =>
    show w.submitted = Entry.offers (w.log ++ saves.map .saved) ++ w.queue
    rw [Entry.offers_append, Entry.offers_map_saved, List.append_nil, hw]
  | @close now saves =>
    show w.submitted = Entry.offers (w.log ++ saves.map .saved) ++ w.queue
    rw [Entry.offers_append, Entry.offers_map_saved, List.append_nil, hw]

/-- **A step goes on with the record of every dashboard.** -/
theorem Step.follows (h : w.Step a t)
    (hw : ∀ id, Follows w.debounce.quiet none (Entry.about id w.log) (w.debounce.waiting.get? id))
    (id : String) :
    Follows w.debounce.quiet none (Entry.about id t.log) (t.debounce.waiting.get? id) := by
  cases h with
  | submit o => exact hw id
  | @receive o queue now =>
    show Follows _ none (Entry.about id (w.log ++ [.received now o]))
      ((w.debounce.submit now o.dashboard o.filters).waiting.get? id)
    rw [Debounce.get?_submit, Entry.about_append, Follows.append_iff]
    refine ⟨_, hw id, ?_⟩
    by_cases ho : id = o.dashboard
    · rw [if_pos ho, Entry.about_cons_of_eq id (.received now o) [] ho.symm]
      rfl
    · rw [if_neg ho, Entry.about_cons_of_ne id (.received now o) [] (Ne.symm ho)]
      rfl
  | @fire now done saves _ _ _ _ hsaves hwhen =>
    show Follows _ none (Entry.about id (w.log ++ saves.map .saved))
      ((w.debounce.release now).2.waiting.get? id)
    have hdue := w.debounce.filter_due now id
    rw [Debounce.get?_release, Entry.about_append, Follows.append_iff]
    refine ⟨_, hw id, ?_⟩
    cases hp : w.debounce.waiting.get? id with
    | none =>
      rw [hp] at hdue
      rw [hsaves.about_eq_nil hdue]
      rfl
    | some p =>
      by_cases hnow : p.due ≤ now
      · -- it is due: it is saved, and waits no longer
        simp only [hp, Option.filter, hnow, decide_true, if_true] at hdue
        obtain ⟨s, hs, hfilters, habout⟩ := hsaves.exists_about_eq hdue
        have hafter : ¬ now < p.due := Nat.not_lt.2 hnow
        simp only [Option.filter, hafter, decide_false]
        rw [habout]
        exact ⟨hfilters, fun _ => Nat.le_trans hnow (hwhen s hs).2.1, rfl⟩
      · simp only [hp, Option.filter, hnow, decide_false] at hdue
        have hbefore : now < p.due := Nat.lt_of_not_le hnow
        simp only [Option.filter, hbefore, decide_true, if_true]
        rw [hsaves.about_eq_nil hdue]
        rfl
  | @close now saves _ _ _ _ hsaves hwhen =>
    show Follows _ none (Entry.about id (w.log ++ saves.map .saved)) none
    have hflush := w.debounce.filter_flush id
    rw [Entry.about_append, Follows.append_iff]
    refine ⟨_, hw id, ?_⟩
    cases hp : w.debounce.waiting.get? id with
    | none =>
      rw [hp] at hflush
      rw [hsaves.about_eq_nil hflush]
      rfl
    | some p =>
      rw [hp] at hflush
      obtain ⟨s, hs, hfilters, habout⟩ := hsaves.exists_about_eq hflush
      rw [habout]
      exact ⟨hfilters, fun hdue => absurd ((hwhen s hs).1.symm.trans hdue) nofun, rfl⟩

/-! ## every run -/

namespace Reachable

theorem quiet_eq (h : w.Reachable quiet) : w.debounce.quiet = quiet := by
  induction h with
  | start => rfl
  | step _ hs ih => exact hs.quiet_eq.trans ih

/-- what was received was handed in before what is queued -/
theorem submitted_eq (h : w.Reachable quiet) : w.submitted = Entry.offers w.log ++ w.queue := by
  induction h with
  | start => rfl
  | step _ hs ih => exact hs.submitted_eq ih

/-- **The record of every dashboard goes on in every run.** -/
theorem follows (h : w.Reachable quiet) (id : String) :
    Follows quiet none (Entry.about id w.log) (w.debounce.waiting.get? id) := by
  rw [← h.quiet_eq]
  induction h generalizing id with
  | start => rfl
  | step _ hs ih =>
    rw [hs.quiet_eq]
    exact hs.follows ih id

/-- at the end nothing is left -/
theorem of_ended (h : w.Reachable quiet) (he : w.ended = true) :
    w.queue = [] ∧ ∀ id, w.debounce.waiting.get? id = none := by
  cases h with
  | start => exact nomatch he
  | step _ hs =>
    cases hs with
    | submit _ hopen => exact absurd (hopen.symm.trans he) nofun
    | receive hopen => exact absurd (hopen.symm.trans he) nofun
    | fire hopen => exact absurd (hopen.symm.trans he) nofun
    | close _ hqueue => exact ⟨hqueue, fun _ => rfl⟩

end Reachable

/-! ## accounts -/

/-- what may become of filters that were received -/
inductive Fate where
  | handed
  | superseded
  | pending
  deriving DecidableEq, Repr

/-- which fate `o`, received at `now`, has met, by what is on record of its dashboard behind -/
def Meets (w : Worker) (now : Nat) (o : Offer) (behind : List Entry) : Fate → Prop
  /- the only save before others are received is one of these filters -/
  | .handed => ∃ s, behind.takeWhile Entry.isSave = [.saved s] ∧ s.filters = o.filters
  /- others are received before anything is saved -/
  | .superseded => ∃ later p rest, behind = .received later p :: rest
  /- these were the last to be received, and they wait -/
  | .pending =>
    behind = [] ∧ w.debounce.waiting.get? o.dashboard = some ⟨o.filters, now + w.debounce.quiet⟩

structure Accounts (w : Worker) : Prop where
  /-- all that was received meets one fate -/
  fate : ∀ front now o behind, w.log = front ++ .received now o :: behind →
    ∃! f, w.Meets now o (Entry.about o.dashboard behind) f
  /-- what is saved for a dashboard was handed in, in that order -/
  inOrder : ∀ id, ((Entry.saves (Entry.about id w.log)).map (·.filters)).Sublist
    ((w.submitted.filter fun o => o.dashboard == id).map (·.filters))
  /-- what is saved because it is due was received last, a quiet time ago -/
  notEarly : ∀ front s behind, w.log = front ++ .saved s :: behind → s.atEnd = false →
    ∃ before now o, Entry.about s.dashboard front = before ++ [.received now o] ∧
      s.filters = o.filters ∧ now + w.debounce.quiet ≤ s.time
  /-- at the end the last that was handed in for a dashboard was saved last -/
  complete : w.ended = true → ∀ id, (∃ o ∈ w.submitted, o.dashboard = id) →
    ∃ s o, (Entry.saves (Entry.about id w.log)).getLast? = some s ∧
      (w.submitted.filter fun o => o.dashboard == id).getLast? = some o ∧ s.filters = o.filters

/-- what waits, or is saved, behind a receipt are those filters -/
theorem existsUnique_meets {now : Nat} {o : Offer} {behind : List Entry}
    (h : Follows w.debounce.quiet (some ⟨o.filters, now + w.debounce.quiet⟩) behind
      (w.debounce.waiting.get? o.dashboard)) : ∃! f, w.Meets now o behind f := by
  cases behind with
  | nil =>
    refine ⟨.pending, ⟨rfl, h.symm⟩, fun f hf => ?_⟩
    cases f with
    | pending => rfl
    | handed =>
      obtain ⟨s, hs, -⟩ := hf
      exact nomatch hs
    | superseded =>
      obtain ⟨_, _, _, hnil⟩ := hf
      exact nomatch hnil
  | cons e rest =>
    cases e with
    | received later p =>
      refine ⟨.superseded, ⟨later, p, rest, rfl⟩, fun f hf => ?_⟩
      cases f with
      | superseded => rfl
      | handed =>
        obtain ⟨s, hs, -⟩ := hf
        exact nomatch hs
      | pending => exact nomatch hf.1
    | saved s =>
      obtain ⟨hfilters, -, hrest⟩ := h
      -- nothing waits any more, so nothing is saved before something is received
      have honly : (Entry.saved s :: rest).takeWhile Entry.isSave = [.saved s] := by
        cases rest with
        | nil => rfl
        | cons e rest =>
          cases e with
          | received => rfl
          | saved => exact hrest.elim
      refine ⟨.handed, ⟨s, honly, hfilters⟩, fun f hf => ?_⟩
      cases f with
      | handed => rfl
      | superseded =>
        obtain ⟨_, _, _, hcons⟩ := hf
        exact nomatch hcons
      | pending => exact nomatch hf.1

/-- where nothing waits, what was received last was saved -/
theorem exists_last_save {es : List Entry} (h : Follows quiet none es none)
    (hne : Entry.offers es ≠ []) :
    ∃ s o, (Entry.saves es).getLast? = some s ∧ (Entry.offers es).getLast? = some o ∧
      s.filters = o.filters := by
  rcases List.eq_nil_or_concat es with rfl | ⟨front, e, rfl⟩
  · exact absurd rfl hne
  · rw [List.concat_eq_append] at h ⊢
    cases e with
    | received now o =>
      have hwaits := h.behind_received
      exact nomatch hwaits
    | saved s =>
      obtain ⟨-, before, now, o, rfl, hfilters, -⟩ := h.exists_of_saved
      refine ⟨s, o, ?_, ?_, hfilters⟩ <;> simp [Entry.saves, Entry.offers, List.filterMap_append]

/-- **The worker loses nothing and doubles nothing**, whatever is handed in and whenever, however
long a save takes and whatever comes of it. -/
theorem Reachable.accounts (h : w.Reachable quiet) : w.Accounts where
  fate front now o behind hlog := by
    have hfollows := h.follows o.dashboard
    rw [hlog, Entry.about_append, Entry.about_cons_of_eq o.dashboard (.received now o) behind rfl,
      ← h.quiet_eq] at hfollows
    exact existsUnique_meets hfollows.behind_received
  inOrder id := by
    have hsaved := (h.follows id).sublist
    rw [Entry.offers_about] at hsaved
    refine hsaved.trans (List.Sublist.map _ (List.Sublist.filter _ ?_))
    rw [h.submitted_eq]
    exact List.sublist_append_left _ _
  notEarly front s behind hlog hdue := by
    have hfollows := h.follows s.dashboard
    rw [hlog, Entry.about_append, Entry.about_cons_of_eq s.dashboard (.saved s) behind rfl,
      ← h.quiet_eq] at hfollows
    obtain ⟨-, before, now, o, hfront, hfilters, htime⟩ := hfollows.exists_of_saved
    exact ⟨before, now, o, hfront, hfilters, htime hdue⟩
  complete hended id hsome := by
    obtain ⟨hqueue, hnone⟩ := h.of_ended hended
    have hfollows := h.follows id
    have hsubmitted := h.submitted_eq
    rw [hqueue, List.append_nil] at hsubmitted
    rw [hnone id] at hfollows
    rw [hsubmitted, ← Entry.offers_about]
    refine exists_last_save hfollows fun hnil => ?_
    obtain ⟨o, ho, hid⟩ := hsome
    rw [hsubmitted] at ho
    rw [Entry.offers_about, List.filter_eq_nil_iff] at hnil
    exact hnil o ho (by simpa using hid)

/-- of two values in a row only the second is saved -/
theorem accounts_burst :
    ∃ w : Worker, w.Reachable 400 ∧ w.ended = true ∧ w.Accounts ∧
      w.submitted.map (fun o => (o.time, o.filters.length)) = [(0, 2), (100, 1)] ∧
      (Entry.saves w.log).map (fun s => (s.time, s.filters.length)) = [(500, 1)] := by
  let north : Filter := { column := "region", op := .eq, value := some (.scalar (.str "north")) }
  let first : Offer := ⟨0, "sales", [north, north]⟩
  let second : Offer := ⟨100, "sales", [north]⟩
  let save : Save := ⟨500, "sales", [north], false, .ok ()⟩
  let w₁ : Worker := { debounce := {}, submitted := [first], queue := [first] }
  let w₂ : Worker :=
    { w₁ with debounce := w₁.debounce.submit 0 "sales" [north, north], queue := [],
              log := [.received 0 first] }
  let w₃ : Worker := { w₂ with submitted := [first, second], queue := [second], clock := 100 }
  let w₄ : Worker :=
    { w₃ with debounce := w₃.debounce.submit 100 "sales" [north], queue := [],
              log := [.received 0 first, .received 100 second] }
  let w₅ : Worker :=
    { w₄ with debounce := w₄.debounce.later 500, log := w₄.log ++ [.saved save],
              clock := 500, free := 650 }
  let w₆ : Worker :=
    { w₅ with debounce := { w₅.debounce with waiting := {} }, log := w₅.log ++ [],
              clock := 700, ended := true }
  have h₁ : (start 400).Step (.submit first) w₁ := .submit first rfl (by decide)
  have h₂ : w₁.Step (.receive 0) w₂ :=
    @Step.receive _ first [] 0 rfl rfl (by decide) (by decide)
  have h₃ : w₂.Step (.submit second) w₃ := .submit second rfl (by decide)
  have h₄ : w₃.Step (.receive 100) w₄ :=
    @Step.receive _ second [] 100 rfl rfl (by decide) (by decide)
  have h₅ : w₄.Step (.fire 500 650 [save]) w₅ :=
    .fire rfl (by decide) (by decide) ⟨"sales", ⟨[north], 500⟩, by decide +kernel, by decide⟩
      (by decide +kernel) (by decide) (by decide)
  have h₆ : w₅.Step (.close 700 []) w₆ :=
    .close rfl rfl (by decide) (by decide) (by decide +kernel) (by decide)
  have h : w₆.Reachable 400 :=
    .step (.step (.step (.step (.step (.step .start h₁) h₂) h₃) h₄) h₅) h₆
  exact ⟨w₆, h, rfl, h.accounts, rfl, rfl⟩

end Worker

end WidgetBoard
