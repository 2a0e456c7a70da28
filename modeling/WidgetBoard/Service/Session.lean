import WidgetBoard.Service.Debounce
import WidgetBoard.Service.Plan
import WidgetBoard.Store.Memory

/-!
# A running service

A session is the service over a store in memory, on a clock of its own.  For a time the store can be
closed to writes: they fail before they reach it.

* `Session.newSectionId`   the ids of sections, one for each moment;
* `Session.answer`         the answer to a call, with every write noted in the journal;
* `Session.perform`        an action from start to end, with nothing in between;
* `Session.advance`        time passes, and filters that are due are saved;
* `Session.shutdown`       the end: all filters that wait are saved.

A save of filters that fails is not tried again.
-/

namespace WidgetBoard

/-- a write as it was asked for -/
structure Write where
  call : Call
  /-- the store was closed to it -/
  refused : Bool
  deriving DecidableEq, Repr

structure Session where
  store : Store := {}
  /-- nanoseconds on the calendar when the session was opened -/
  opened : Nat := 1700000000000000000
  debounce : Debounce := {}
  /-- milliseconds since the start -/
  clock : Nat := 0
  writable : Bool := true
  sectionsMade : Nat := 0
  running : Bool := true
  /-- the latest write last -/
  journal : List Write := []
  deriving Repr

namespace Session

/-- the id of the section made as number `n`: no two are made at one moment -/
def newSectionId (s : Session) (n : Nat) : String :=
  "section-" ++ toString (s.opened + n)

def note (s : Session) (c : Call) (refused : Bool) : Session :=
  { s with journal := s.journal ++ [⟨c, refused⟩] }

def answer (c : Call) (s : Session) : c.Reply × Session :=
  if c.isWrite then
    if s.writable then
      let (r, store) := s.store.answer c
      (r, { s.note c false with store := store })
    else (.error .maintenance, s.note c true)
  else ((s.store.answer c).1, s)

/-! ## Actions -/

/-- what a successful action leaves to be done: a new section uses up its number, filters wait to
be saved -/
def settle (s : Session) (dashboard : String) (a : Action) (o : Outcome) : Session :=
  match a, o with
  | .addSection .., _ => { s with sectionsMade := s.sectionsMade + 1 }
  | .setNativeFilters _, .nativeFilters fs =>
    { s with debounce := s.debounce.submit s.clock dashboard fs }
  | _, _ => s

def perform (s : Session) (dashboard : String) (a : Action) :
    Except ServiceError Outcome × Session :=
  let (r, s) := (a.plan (s.newSectionId (s.sectionsMade + 1)) dashboard).run answer s
  match r with
  | .ok o => (.ok o, s.settle dashboard a o)
  | .error e => (.error e, s)

/-! ## Time -/

def saveFilters (s : Session) (due : List (String × List Filter)) : Session :=
  due.foldl (fun s d => (s.answer (.saveNativeFilters d.1 d.2)).2) s

def advance (s : Session) (millis : Nat) : Session :=
  let now := s.clock + millis
  let (due, debounce) := s.debounce.release now
  { s with clock := now, debounce := debounce }.saveFilters due

def shutdown (s : Session) : Session :=
  { s with running := false, debounce := { s.debounce with waiting := {} } }.saveFilters
    s.debounce.flush

end Session

end WidgetBoard
