import WidgetBoard.Proofs.Interleaving
import WidgetBoard.Proofs.Performed

/-!
# A session, turn by turn

* `Session.Turn`          one thing that happens to a session: a request, or time passes;
* `Session.start`         before anything has happened;
* `Session.turns`         a session behind a list of turns;
* `Session.sectionIdAt`   the ids that sections get.

Main statement: `Session.store_turn` (what a turn makes of the store).
-/

namespace WidgetBoard

namespace Session

inductive Turn where
  | request (dashboard : String) (action : Action)
  | wait (millis : Nat)

/-- before anything has happened -/
def start (seed : Seed) (opened quiet : Nat) : Session :=
  { store := .ofSeed seed, opened := opened, debounce := { quiet := quiet } }

def turn (s : Session) : Turn → Session
  | .request dashboard action => (s.perform dashboard action).2
  | .wait millis => s.advance millis

def turns (s : Session) (ts : List Turn) : Session :=
  ts.foldl turn s

/-- the id of a section that is made at a moment -/
def sectionIdAt (moment : Nat) : String :=
  "section-" ++ toString moment

theorem newSectionId_eq (s : Session) (n : Nat) : s.newSectionId n = sectionIdAt (s.opened + n) :=
  rfl

/-! ## open to writes -/

theorem writable_answer (s : Session) (c : Call) : (s.answer c).2.writable = s.writable := by
  unfold answer
  split
  · split <;> rfl
  · rfl

theorem writable_run {α : Type} (p : Plan α) (s : Session) :
    (p.run answer s).2.writable = s.writable := by
  induction p generalizing s with
  | done a => rfl
  | ask c next ih => exact (ih (s.answer c).1 (s.answer c).2).trans (s.writable_answer c)

theorem writable_settle (s : Session) (id : String) (a : Action) (o : Outcome) :
    (s.settle id a o).writable = s.writable := by
  unfold settle
  split <;> rfl

theorem writable_perform (s : Session) (id : String) (a : Action) :
    (s.perform id a).2.writable = s.writable := by
  have hrun := writable_run (a.plan (s.newSectionId (s.sectionsMade + 1)) id) s
  unfold perform
  revert hrun
  generalize (a.plan (s.newSectionId (s.sectionsMade + 1)) id).run answer s = x
  obtain ⟨r, t⟩ := x
  intro hrun
  cases r with
  | ok o => exact (t.writable_settle id a o).trans hrun
  | error e => exact hrun

theorem writable_saveFilters (us : List FilterUpdate) (s : Session) :
    (s.saveFilters us).writable = s.writable := by
  induction us generalizing s with
  | nil => rfl
  | cons u us ih => exact (ih (s.answer (.saveNativeFilters u.1 u.2)).2).trans (s.writable_answer _)

theorem writable_turn (s : Session) (t : Turn) : (s.turn t).writable = s.writable := by
  cases t with
  | request id a => exact s.writable_perform id a
  | wait millis => exact writable_saveFilters _ _

/-! ## what becomes of the store -/

theorem store_turn_request (s : Session) (hw : s.writable = true) (id : String) (a : Action) :
    (s.turn (.request id a)).store
      = ((a.plan (s.newSectionId (s.sectionsMade + 1)) id).run Store.answer s.store).2 :=
  (s.store_perform id a).trans (run_answer _ s hw).2

/-- **A turn is an action on the store, or saves of filters.** -/
theorem store_turn (s : Session) (hw : s.writable = true) (t : Turn) :
    (∃ moment id a, Action.Leaves (sectionIdAt moment) id s.store a (s.turn t).store) ∨
      ∃ us, (s.turn t).store = s.store.saveAll us := by
  cases t with
  | request id a =>
    refine Or.inl ⟨s.opened + (s.sectionsMade + 1), id, a, ?_⟩
    rw [store_turn_request s hw, newSectionId_eq]
    exact Action.leaves_run _ id s.store a
  | wait millis => exact Or.inr ⟨_, store_saveFilters _ _ hw⟩

end Session

end WidgetBoard
