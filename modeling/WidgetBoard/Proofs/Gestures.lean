import Mathlib.Data.List.Induction
import WidgetBoard.Grid.Resize
import WidgetBoard.Proofs.Lists
import WidgetBoard.Proofs.Room

/-!
# Gestures from their beginning to their end

A gesture is followed through what happens to it: drags begin, the pointer moves and is let go.

* `Gesture.Start`, `Gesture.Event`   what a drag is begun with, and what happens to a gesture;
* `Gesture.run`                 the gesture behind a list of events;
* `Gesture.attached`            the listeners that were handed over in the course of events;
* `Gesture.Underway es s`       the latest drag in `es` was begun with `s`, on a widget of its grid,
                                and since then the pointer has only moved;
* `DragOrigin.Of o s`           `o` is what `s` began with, as its grid was then;
* `Gesture.Accounts es g`       how `g` stands behind the events `es`.

Main statement: `Gesture.accounts_run` (every gesture accounts for all that happened to it).
-/

namespace WidgetBoard

namespace Gesture

/-- what a drag is begun with: a widget of the grid of a section, the pointer and a listener -/
structure Start where
  widget : String
  index : Nat
  columns : Nat
  /-- the declared widths of the section -/
  declared : List Nat
  x : Float
  listener : Subscription

namespace Start

def grid (s : Start) : Grid := .ofDeclared s.columns s.declared

/-- there is a widget of that index -/
def InRange (s : Start) : Prop := s.index < s.declared.length

end Start

inductive Event where
  | begin (s : Start)
  | move (x : Float) (p : GridPixels)
  | up (x : Float) (p : GridPixels)

namespace Event

/-- the listener that comes with an event -/
def listener : Event → Subscription
  | .begin s => s.listener
  | .move .. | .up .. => none

def IsMove : Event → Prop
  | .move .. => True
  | .begin _ | .up .. => False

end Event

def step (g : Gesture) : Event → Gesture
  | .begin s => (g.begin s.widget s.index s.grid s.x s.listener).2
  | .move .. => g
  | .up x p => (g.up x p).2

def run (g : Gesture) (es : List Event) : Gesture := es.foldl step g

theorem run_concat (g : Gesture) (es : List Event) (e : Event) :
    g.run (es ++ [e]) = (g.run es).step e := by
  rw [run, List.foldl_append]
  rfl

/-! ## listeners -/

/-- the listener of the drag under way -/
def held (g : Gesture) : List Nat := (g.origin.bind (·.listener)).toList

/-- all listeners that were handed over, in order -/
def attached (es : List Event) : List Nat := es.flatMap fun e => e.listener.toList

theorem attached_concat (es : List Event) (e : Event) :
    attached (es ++ [e]) = attached es ++ e.listener.toList := by
  rw [attached, List.flatMap_append, List.flatMap_singleton]
  rfl

theorem released_stop (g : Gesture) : g.stop.released = g.released ++ g.held := rfl

end Gesture

/-! ## beginning -/

/-- the widget, its width and the room for it, as they were where the drag began -/
structure DragOrigin.Of (o : DragOrigin) (s : Gesture.Start) : Prop where
  widget : o.widget = s.widget
  startX : o.startX = s.x
  startWidth : s.grid.widths[s.index]? = some o.startWidth
  maxWidth : s.grid.maxWidthAt? s.index = some o.maxWidth
  listener : o.listener = s.listener
  bounds : 1 ≤ o.startWidth ∧ o.startWidth ≤ o.maxWidth ∧ o.maxWidth ≤ 4

namespace Gesture

variable {s : Start}

theorem step_begin_of_inRange (g : Gesture) (h : s.InRange) :
    ∃ o : DragOrigin, o.Of s ∧
      g.step (.begin s) = { origin := some o, released := g.stop.released } := by
  have hfits : s.grid.Fits := Grid.fits_ofDeclared s.columns s.declared
  have hi : s.index < s.grid.widths.length := by
    rw [Start.grid, Grid.length_widths_ofDeclared]
    exact h
  obtain ⟨w, hw⟩ : ∃ w, s.grid.widths[s.index]? = some w := ⟨_, List.getElem?_eq_getElem hi⟩
  obtain ⟨m, hm, hwm, hmc⟩ := Grid.exists_maxWidthAt? hfits hw
  have hle : 1 ≤ w := (hfits.widths w (List.mem_of_getElem? hw)).1
  refine ⟨⟨s.widget, s.x, w, m, s.listener⟩, ?_, ?_⟩
  · exact ⟨rfl, rfl, hw, hm, rfl, hle, hwm, Nat.le_trans hmc hfits.columns.2⟩
  · rw [step, begin, hw, hm]

theorem step_begin_of_not_inRange (g : Gesture) (h : ¬ s.InRange) :
    g.step (.begin s) = { released := g.stop.released ++ s.listener.toList } := by
  have hw : s.grid.widths[s.index]? = none := by
    rw [List.getElem?_eq_none_iff, Start.grid, Grid.length_widths_ofDeclared]
    exact Nat.le_of_not_lt h
  rw [step, begin, hw]
  rfl

/-- a listener that comes is held or released, and none but the one held before is released -/
theorem released_append_held_step (g : Gesture) (e : Event) :
    (g.step e).released ++ (g.step e).held = (g.released ++ g.held) ++ e.listener.toList := by
  cases e with
  | move x p => exact (List.append_nil _).symm
  | up x p =>
    show g.stop.released ++ [] = _
    rw [released_stop]
    rfl
  | begin s =>
    by_cases h : s.InRange
    · obtain ⟨o, ho, hg⟩ := step_begin_of_inRange g h
      have hheld : (g.step (.begin s)).held = s.listener.toList := by
        rw [hg, held, Option.bind_some, ho.listener]
      rw [hheld, hg, released_stop]
      rfl
    · rw [step_begin_of_not_inRange g h]
      exact List.append_nil _

theorem released_append_held_run (es : List Event) :
    (({} : Gesture).run es).released ++ (({} : Gesture).run es).held = attached es := by
  induction es using List.reverseRec with
  | nil => rfl
  | append_singleton es e ih => rw [run_concat, released_append_held_step, ih, attached_concat]

/-! ## the drag under way -/

def Underway (es : List Event) (s : Start) : Prop :=
  ∃ before after, es = before ++ .begin s :: after ∧ s.InRange ∧ ∀ e ∈ after, e.IsMove

theorem underway_concat_begin {es : List Event} {t : Start} :
    Underway (es ++ [.begin t]) s ↔ s = t ∧ t.InRange := by
  constructor
  · rintro ⟨before, after, he, hs, hmoves⟩
    rcases split_concat he with ⟨hst, _, _⟩ | ⟨rest, rfl, _⟩
    · cases hst
      exact ⟨rfl, hs⟩
    · -- a beginning behind the drag is no move
      exact (hmoves (.begin t) (List.mem_append_right _ List.mem_cons_self)).elim
  · rintro ⟨rfl, hs⟩
    exact ⟨es, [], rfl, hs, fun e he => nomatch he⟩

theorem underway_concat_iff {es : List Event} {e : Event} (h : ∀ t, e ≠ .begin t) :
    Underway (es ++ [e]) s ↔ Underway es s ∧ e.IsMove := by
  constructor
  · rintro ⟨before, after, he, hs, hmoves⟩
    rcases split_concat he with ⟨hst, _, _⟩ | ⟨rest, rfl, hes⟩
    · exact absurd hst.symm (h s)
    · obtain ⟨hrest, hlast⟩ := List.forall_mem_append.1 hmoves
      exact ⟨⟨before, rest, hes, hs, hrest⟩, hlast e List.mem_cons_self⟩
  · rintro ⟨⟨before, after, rfl, hs, hmoves⟩, hm⟩
    refine ⟨before, after ++ [e], List.append_assoc _ _ _, hs, ?_⟩
    exact List.forall_mem_append.2 ⟨hmoves, List.forall_mem_singleton.2 hm⟩

/-- no drag but the one under way, and that as it was begun -/
def Drags (g : Gesture) (es : List Event) : Prop :=
  (∀ s, Underway es s → ∃ o, g.origin = some o ∧ o.Of s) ∧
  (g.origin.isSome = true → ∃ s, Underway es s)

theorem drags_run (es : List Event) : (({} : Gesture).run es).Drags es := by
  induction es using List.reverseRec with
  | nil =>
    refine ⟨?_, fun h => nomatch h⟩
    rintro s ⟨before, after, he, -⟩
    exact absurd he (by simp)
  | append_singleton es e ih =>
    rw [run_concat]
    obtain ⟨horigin, hsome⟩ := ih
    cases e with
    | move x p =>
      simp only [Drags, underway_concat_iff (e := .move x p) (fun t => nofun)]
      exact ⟨fun s hs => horigin s hs.1, fun h => (hsome h).imp fun s hs => ⟨hs, trivial⟩⟩
    | up x p =>
      simp only [Drags, underway_concat_iff (e := .up x p) (fun t => nofun)]
      exact ⟨fun s hs => hs.2.elim, fun h => nomatch h⟩
    | begin t =>
      simp only [Drags, underway_concat_begin]
      by_cases ht : t.InRange
      · obtain ⟨o, ho, hg⟩ := step_begin_of_inRange (({} : Gesture).run es) ht
        rw [hg]
        exact ⟨fun s hs => ⟨o, rfl, hs.1 ▸ ho⟩, fun _ => ⟨t, rfl, ht⟩⟩
      · rw [step_begin_of_not_inRange _ ht]
        exact ⟨fun s hs => absurd hs.2 ht, fun h => nomatch h⟩

/-! ## what a gesture accounts for -/

/-- how a gesture stands behind events -/
structure Accounts (es : List Event) (g : Gesture) : Prop where
  /-- all listeners that were handed over are released but for the one that is held -/
  listeners : g.released ++ g.held = attached es
  once : (attached es).Nodup → g.released.Nodup
  /-- none is left when the gesture is dropped -/
  dropped : g.stop.released = attached es
  dragging : g.isDragging = true ↔ ∃ s, Underway es s
  origin : ∀ s, Underway es s → ∃ o, g.origin = some o ∧ o.Of s
  /-- moving the pointer and letting it go say the same width, for the widget of the drag -/
  update : ∀ s, Underway es s → ∀ x p,
    ∃ n, g.move? x p = some ⟨s.widget, n⟩ ∧ (g.up x p).1 = some ⟨s.widget, n⟩
  still : (¬ ∃ s, Underway es s) → ∀ x p, g.move? x p = none ∧ (g.up x p).1 = none

/-- **Every gesture accounts for what happened to it**: behind any events, each listener that came
with a drag was released once or belongs to the drag under way, and that drag is the latest one,
with the widget, the width and the room it began with. -/
theorem accounts_run (es : List Event) : Accounts es (({} : Gesture).run es) := by
  have hlisteners := released_append_held_run es
  obtain ⟨horigin, hsome⟩ := drags_run es
  refine
    { listeners := hlisteners
      once := fun h => ?_
      dropped := hlisteners
      dragging := ⟨hsome, fun ⟨s, hs⟩ => ?_⟩
      origin := horigin
      update := fun s hs x p => ?_
      still := fun h x p => ?_ }
  · rw [← hlisteners] at h
    exact (List.nodup_append.1 h).1
  · obtain ⟨o, ho, -⟩ := horigin s hs
    rw [isDragging, ho]
    rfl
  · obtain ⟨o, ho, hof⟩ := horigin s hs
    refine ⟨resizedWidth p o.startX x o.startWidth o.maxWidth, ?_⟩
    have hmove : (({} : Gesture).run es).move? x p
        = some ⟨s.widget, resizedWidth p o.startX x o.startWidth o.maxWidth⟩ := by
      rw [move?, ho, Option.map_some, hof.widget]
    exact ⟨hmove, hmove⟩
  · have hnone : (({} : Gesture).run es).origin = none := by
      rw [← Option.not_isSome_iff_eq_none]
      exact fun ho => h (hsome ho)
    have hmove : (({} : Gesture).run es).move? x p = none := by
      rw [move?, hnone]
      rfl
    exact ⟨hmove, hmove⟩

/-- a drag, another on no widget, and a third, which is still under way -/
theorem accounts_run_restart :
    let first : Start := ⟨"orders", 0, 3, [1, 2], 10.0, some 1⟩
    let second : Start := ⟨"none", 7, 3, [1, 2], 20.0, some 2⟩
    let third : Start := ⟨"region", 1, 3, [1, 2], 30.0, some 3⟩
    let es : List Event := [.begin first, .begin second, .begin third, .move 40.0 ⟨300.0, 0.0, 3⟩]
    (attached es).Nodup ∧ Underway es third ∧ (({} : Gesture).run es).released = [1, 2] ∧
      ((({} : Gesture).run es).origin.map fun o => (o.startWidth, o.maxWidth)) = some (2, 2) ∧
      Accounts es (({} : Gesture).run es) := by
  intro first second third es
  have hlast : Underway es third := by
    refine ⟨[.begin first, .begin second], [.move 40.0 ⟨300.0, 0.0, 3⟩], rfl, ?_, ?_⟩
    · exact Nat.one_lt_two
    · exact List.forall_mem_singleton.2 trivial
  exact ⟨by decide, hlast, rfl, rfl, accounts_run es⟩

end Gesture

end WidgetBoard
