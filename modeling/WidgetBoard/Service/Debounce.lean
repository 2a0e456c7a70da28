import WidgetBoard.Dictionary
import WidgetBoard.Filter

/-!
# Waiting until filters have been left alone

The filters of a whole dashboard change in bursts.  They wait here until nothing has changed for a
while; only what was handed in last is saved.

* `Debounce.submit`    filters handed in: they take the place of what waited, and wait anew;
* `Debounce.due`       what has waited long enough, by dashboard;
* `Debounce.release`   what is due, and what goes on waiting;
* `Debounce.flush`     everything, at the end.

Main statements: `get?_submit`, `get?_release`, `filter_due`, `filter_flush`.
-/

namespace WidgetBoard

structure Waiting where
  filters : List Filter
  /-- the time from which on they are saved -/
  due : Nat
  deriving DecidableEq, Repr

/-- times are in milliseconds -/
structure Debounce where
  /-- how long filters are left alone before they are saved -/
  quiet : Nat := 400
  waiting : Dictionary Waiting := {}
  deriving DecidableEq, Repr

namespace Debounce

def submit (b : Debounce) (now : Nat) (dashboard : String) (fs : List Filter) : Debounce :=
  { b with waiting := b.waiting.insert dashboard ⟨fs, now + b.quiet⟩ }

def due (b : Debounce) (now : Nat) : List (String × List Filter) :=
  b.waiting.entries.filterMap fun e => if e.2.due ≤ now then some (e.1, e.2.filters) else none

/-- what goes on waiting -/
def later (b : Debounce) (now : Nat) : Debounce :=
  { b with waiting := b.waiting.filterMap fun _ w => if w.due ≤ now then none else some w }

def release (b : Debounce) (now : Nat) : List (String × List Filter) × Debounce :=
  (b.due now, b.later now)

def flush (b : Debounce) : List (String × List Filter) :=
  b.waiting.entries.map fun e => (e.1, e.2.filters)

/-! ## Who waits -/

theorem get?_submit (b : Debounce) (now : Nat) (dashboard id : String) (fs : List Filter) :
    (b.submit now dashboard fs).waiting.get? id =
      if id = dashboard then some ⟨fs, now + b.quiet⟩ else b.waiting.get? id :=
  b.waiting.get?_insert dashboard id ⟨fs, now + b.quiet⟩

theorem get?_release (b : Debounce) (now : Nat) (id : String) :
    (b.release now).2.waiting.get? id =
      (b.waiting.get? id).filter fun w => decide (now < w.due) := by
  rw [release, later, Dictionary.get?_filterMap]
  cases b.waiting.get? id with
  | none => rfl
  | some w => by_cases h : w.due ≤ now <;> simp [h, Option.filter]

/-! ## what is saved -/

theorem filter_due (b : Debounce) (now : Nat) (id : String) :
    (b.due now).filter (fun u => u.1 == id) =
      ((b.waiting.get? id).filter fun w => decide (w.due ≤ now)).toList.map
        fun w => (id, w.filters) := by
  have hkey : (b.due now).filter (fun u => u.1 == id) =
      (b.waiting.entries.filter fun e => e.1 == id).filterMap fun e =>
        if e.2.due ≤ now then some (e.1, e.2.filters) else none := by
    rw [due, List.filter_filterMap, List.filterMap_filter]
    congr 1
    funext e
    by_cases hd : e.2.due ≤ now <;> by_cases hk : e.1 = id <;> simp [hd, hk, Option.filter]
  rw [hkey, Dictionary.filter_entries]
  cases b.waiting.get? id with
  | none => rfl
  | some w => by_cases hd : w.due ≤ now <;> simp [hd, Option.filter]

theorem filter_flush (b : Debounce) (id : String) :
    b.flush.filter (fun u => u.1 == id) =
      (b.waiting.get? id).toList.map fun w => (id, w.filters) := by
  have hkey : b.flush.filter (fun u => u.1 == id) =
      (b.waiting.entries.filter fun e => e.1 == id).map fun e => (e.1, e.2.filters) := by
    rw [flush, List.filter_map]
    rfl
  rw [hkey, Dictionary.filter_entries, List.map_map]
  rfl

end Debounce

end WidgetBoard
