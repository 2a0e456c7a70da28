import WidgetBoard.Service.Session

/-!
# Requests side by side

Requests run side by side over one store in memory, which answers one call at a time.  Beside them
a worker saves filters: what requests hand in queues up, waits until it has been left alone, and is
then saved dashboard by dashboard.  Which call is answered next is up to whoever schedules them, and
so is everything else: a run is a list of events, and an event that cannot happen changes nothing.

* `Ongoing`        a request under way: what is left of its plan;
* `System`         the store, the requests under way, and the worker;
* `System.step`, `System.run`   what an event, and a list of events, does;
* `System.run_induction`        what every step keeps, every run keeps.

Main statements: `System.exists_run_perform`, `System.exists_run_advance` (what a session does to its
store, one thing after the other, is one of the runs).
-/

namespace WidgetBoard

/-- a request under way -/
structure Ongoing where
  dashboard : String
  rest : Plan (Except ServiceError Outcome)

/-- filters with the dashboard they are for -/
abbrev FilterUpdate := String × List Filter

/-- the filters that a request hands to the worker when it is over -/
def Ongoing.handedIn (dashboard : String) : Except ServiceError Outcome → List FilterUpdate
  | .ok (.nativeFilters fs) => [(dashboard, fs)]
  | _ => []

structure System where
  store : Store
  requests : List Ongoing := []
  /-- handed in, not yet looked at by the worker -/
  queue : List FilterUpdate := []
  debounce : Debounce := {}
  /-- taken by the worker to be saved, one by one -/
  saving : List FilterUpdate := []
  clock : Nat := 0

inductive Event where
  /-- a request comes in; a section that it makes gets the id `newId` -/
  | begin (newId dashboard : String) (action : Action)
  /-- the store answers the call that request number `i` waits for -/
  | answer (i : Nat)
  /-- that call fails before it reaches the store -/
  | refuse (i : Nat) (error : StoreError)
  /-- request number `i` is over -/
  | finish (i : Nat)
  /-- request number `i` is given up -/
  | abandon (i : Nat)
  /-- the worker looks at the next filters handed in -/
  | receive
  /-- the worker takes what has waited long enough -/
  | release
  /-- the worker takes everything, when no more will be handed in -/
  | flush
  /-- number `k` of what the worker took is saved -/
  | save (k : Nat)
  /-- or cannot be saved, and is not tried again -/
  | lose (k : Nat)
  | pass (millis : Nat)

namespace System

/-- before anything has happened -/
def start (seed : Seed) (quiet : Nat) : System :=
  { store := .ofSeed seed, debounce := { quiet := quiet } }

/-- goes on with request number `i` behind the reply to its call -/
def resume (s : System) (i : Nat) (reply : (c : Call) → c.Reply × Store) : System :=
  match s.requests[i]? with
  | some ⟨id, .ask c next⟩ =>
    { s with store := (reply c).2, requests := s.requests.set i ⟨id, next (reply c).1⟩ }
  | _ => s

def finish (s : System) (i : Nat) : System :=
  match s.requests[i]? with
  | some ⟨id, .done r⟩ =>
    { s with requests := s.requests.eraseIdx i, queue := s.queue ++ Ongoing.handedIn id r }
  | _ => s

/-- the worker looks at nothing while it saves -/
def receive (s : System) : System :=
  match s.saving, s.queue with
  | [], (id, fs) :: queue =>
    { s with queue := queue, debounce := s.debounce.submit s.clock id fs }
  | _, _ => s

def release (s : System) : System :=
  match s.saving with
  | [] =>
    { s with saving := (s.debounce.release s.clock).1, debounce := (s.debounce.release s.clock).2 }
  | _ :: _ => s

def flush (s : System) : System :=
  match s.saving, s.queue with
  | [], [] => { s with saving := s.debounce.flush, debounce := { s.debounce with waiting := {} } }
  | _, _ => s

def save (s : System) (k : Nat) : System :=
  match s.saving[k]? with
  | some (id, fs) =>
    { s with store := (s.store.answer (.saveNativeFilters id fs)).2, saving := s.saving.eraseIdx k }
  | none => s

def step (s : System) : Event → System
  | .begin newId id a => { s with requests := s.requests ++ [⟨id, a.plan newId id⟩] }
  | .answer i => s.resume i fun c => s.store.answer c
  | .refuse i e => s.resume i fun _ => (.error e, s.store)
  | .finish i => s.finish i
  | .abandon i => { s with requests := s.requests.eraseIdx i }
  | .receive => s.receive
  | .release => s.release
  | .flush => s.flush
  | .save k => s.save k
  | .lose k => { s with saving := s.saving.eraseIdx k }
  | .pass millis => { s with clock := s.clock + millis }

def run (s : System) (events : List Event) : System :=
  events.foldl step s

theorem run_cons (s : System) (e : Event) (events : List Event) :
    s.run (e :: events) = (s.step e).run events := rfl

/-- what every step keeps, every run keeps -/
theorem run_induction {P : System → Prop} {s : System} (h : P s)
    (hstep : ∀ s e, P s → P (s.step e)) (events : List Event) : P (s.run events) := by
  induction events generalizing s with
  | nil => exact h
  | cons e events ih => exact ih (hstep s e h)

end System

/-! ## one request alone -/

theorem Plan.run_ask {α σ : Type} (answer : (c : Call) → σ → c.Reply × σ) (c : Call)
    (next : c.Reply → Plan α) (s : σ) :
    (Plan.ask c next).run answer s = (next (answer c s).1).run answer (answer c s).2 := rfl

/-- the request that is alone gets all the answers -/
theorem System.exists_run_answers (p : Plan (Except ServiceError Outcome)) (s : System) (id : String)
    (h : s.requests = [⟨id, p⟩]) :
    ∃ events, s.run events =
      { s with
        store := (p.run Store.answer s.store).2
        requests := [⟨id, .done (p.run Store.answer s.store).1⟩] } := by
  induction p generalizing s with
  | done a =>
    refine ⟨[], ?_⟩
    show s = { s with requests := [⟨id, .done a⟩] }
    rw [← h]
  | ask c next ih =>
    have hs : s.step (.answer 0) =
        { s with
          store := (s.store.answer c).2
          requests := [⟨id, next (s.store.answer c).1⟩] } := by
      simp [step, resume, h]
    obtain ⟨events, he⟩ := ih (s.store.answer c).1 (s.step (.answer 0)) (by rw [hs])
    refine ⟨.answer 0 :: events, ?_⟩
    rw [run_cons, he, hs]
    rfl

/-- while it is open to writes, a session answers as its store does -/
theorem Session.run_answer {α : Type} (p : Plan α) (s : Session) (h : s.writable = true) :
    (p.run answer s).1 = (p.run Store.answer s.store).1 ∧
      (p.run answer s).2.store = (p.run Store.answer s.store).2 := by
  induction p generalizing s with
  | done a => exact ⟨rfl, rfl⟩
  | ask c next ih =>
    have hc : (s.answer c).1 = (s.store.answer c).1 ∧
        (s.answer c).2.store = (s.store.answer c).2 ∧ (s.answer c).2.writable = true := by
      cases c with
      | dashboard id => exact ⟨rfl, rfl, h⟩
      | viewColumns id =>
        refine ⟨rfl, ?_, h⟩
        show s.store = (s.store.answer (.viewColumns id)).2
        rw [Store.answer]
        split <;> rfl
      | createWidget | updateWidget | deleteWidget | saveLayout | saveNativeFilters =>
        simp [answer, Call.isWrite, h, note]
    obtain ⟨hr, hs, hw⟩ := hc
    have hn := ih (s.answer c).1 (s.answer c).2 hw
    rw [Plan.run_ask, Plan.run_ask, ← hr, ← hs]
    exact hn

/-- what an action leaves to be done does not touch the store -/
theorem Session.store_settle (s : Session) (id : String) (a : Action) (o : Outcome) :
    (s.settle id a o).store = s.store := by
  unfold settle
  split <;> rfl

theorem Session.store_perform (s : Session) (id : String) (a : Action) :
    (s.perform id a).2.store =
      ((a.plan (s.newSectionId (s.sectionsMade + 1)) id).run answer s).2.store := by
  unfold perform
  generalize (a.plan (s.newSectionId (s.sectionsMade + 1)) id).run answer s = x
  obtain ⟨r, t⟩ := x
  cases r with
  | ok o => exact t.store_settle id a o
  | error e => rfl

/-- **An action performed with nothing in between is one of the runs**: it leaves the store as the
run does. -/
theorem System.exists_run_perform (s : Session) (h : s.writable = true) (id : String) (a : Action) :
    ∃ events, (System.run { store := s.store } events).store = (s.perform id a).2.store := by
  let newId := s.newSectionId (s.sectionsMade + 1)
  have hs : (s.perform id a).2.store = ((a.plan newId id).run Store.answer s.store).2 :=
    (s.store_perform id a).trans (Session.run_answer (a.plan newId id) s h).2
  obtain ⟨events, he⟩ := exists_run_answers (a.plan newId id)
    (step { store := s.store } (.begin newId id a)) id rfl
  refine ⟨.begin newId id a :: events, ?_⟩
  rw [run_cons, he, hs]
  rfl

/-! ## time passing alone -/

/-- a store behind saves of filters, one after the other -/
def Store.saveAll (s : Store) (us : List FilterUpdate) : Store :=
  us.foldl (fun s u => (s.answer (.saveNativeFilters u.1 u.2)).2) s

theorem Session.store_saveFilters (us : List FilterUpdate) (s : Session) (h : s.writable = true) :
    (s.saveFilters us).store = s.store.saveAll us := by
  induction us generalizing s with
  | nil => rfl
  | cons u us ih =>
    have hs : (s.answer (.saveNativeFilters u.1 u.2)).2.store
        = (s.store.answer (.saveNativeFilters u.1 u.2)).2 := by
      simp [answer, Call.isWrite, h]
    have hw : (s.answer (.saveNativeFilters u.1 u.2)).2.writable = true := by
      simp [answer, Call.isWrite, h, note]
    have hn := ih (s.answer (.saveNativeFilters u.1 u.2)).2 hw
    rw [hs] at hn
    exact hn

/-- the worker saves all that it took -/
theorem System.exists_run_saves (us : List FilterUpdate) (s : System) (h : s.saving = us) :
    ∃ events, (s.run events).store = s.store.saveAll us := by
  induction us generalizing s with
  | nil => exact ⟨[], rfl⟩
  | cons u us ih =>
    have hs : s.step (.save 0) =
        { s with store := (s.store.answer (.saveNativeFilters u.1 u.2)).2, saving := us } := by
      simp [step, save, h]
    obtain ⟨events, he⟩ := ih (s.step (.save 0)) (by rw [hs])
    refine ⟨.save 0 :: events, ?_⟩
    rw [run_cons, he, hs]
    rfl

/-- so is time that passes with nothing but saves -/
theorem System.exists_run_advance (s : Session) (h : s.writable = true) (millis : Nat) :
    ∃ events, (run { store := s.store, debounce := s.debounce, clock := s.clock } events).store
      = (s.advance millis).store := by
  have hs : (s.advance millis).store = s.store.saveAll (s.debounce.due (s.clock + millis)) :=
    Session.store_saveFilters _ _ h
  let t : System :=
    { store := s.store, debounce := s.debounce.later (s.clock + millis),
      saving := s.debounce.due (s.clock + millis), clock := s.clock + millis }
  obtain ⟨events, he⟩ := exists_run_saves (s.debounce.due (s.clock + millis)) t rfl
  refine ⟨.pass millis :: .release :: events, ?_⟩
  rw [hs, run_cons, run_cons]
  exact he

end WidgetBoard
