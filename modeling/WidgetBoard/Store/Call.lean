import WidgetBoard.Dashboard.Layout
import WidgetBoard.View

/-!
# Calls on a store

A store keeps dashboards and views.  It answers calls, one at a time; between two calls of one
request, calls of others may come in.

* `Call`, `Call.Answer`   the calls and what each is answered with;
* `Plan α`                a request as a tree: it ends with a value of `α`, or makes a call and goes
                          on with its answer;
* `Plan.run`              a request run over a store that nothing else calls meanwhile.

Main statement: `Plan.run_bind` (running two plans in a row).
-/

namespace WidgetBoard

/-- a widget that has no id yet -/
structure NewWidget where
  sectionId : String
  title : String
  showTitle : Bool
  config : Config
  size : WidgetSize
  deriving DecidableEq, Repr

def NewWidget.withId (w : NewWidget) (id : String) : Widget :=
  { id := id, title := w.title, showTitle := w.showTitle, config := w.config, size := w.size }

inductive Call where
  | dashboard (id : String)
  | viewColumns (id : String)
  | createWidget (dashboard : String) (widget : NewWidget)
  | updateWidget (dashboard : String) (widget : Widget)
  | deleteWidget (dashboard : String) (widget : String)
  | saveLayout (dashboard : String) (layout : Layout)
  | saveNativeFilters (dashboard : String) (filters : List Filter)
  deriving DecidableEq, Repr

namespace Call

/-- what a call is answered with -/
abbrev Answer : Call → Type
  | .dashboard _ => Option Dashboard
  | .viewColumns _ => View
  | .createWidget .. => Widget
  | .updateWidget .. => Widget
  | .deleteWidget .. => Unit
  | .saveLayout .. => Unit
  | .saveNativeFilters .. => Unit

def isWrite : Call → Bool
  | .dashboard _ | .viewColumns _ => false
  | _ => true

end Call

/-! ## Failures -/

/-- what came of a request to another service -/
inductive RemoteFailure where
  /-- the request did not reach it -/
  | notSent (action : String)
  /-- it answered with a status that is no success -/
  | refused (action : String) (status : String) (body : String)
  /-- its answer could not be read -/
  | unreadable (what : String)
  deriving DecidableEq, Repr

namespace RemoteFailure

def message : RemoteFailure → String
  | .notSent action => "Failed to send " ++ action ++ " request"
  | .refused action status body => action ++ " failed with status " ++ status ++ ": " ++ body
  | .unreadable what => "Failed to parse " ++ what

end RemoteFailure

inductive StoreError where
  | noDashboard (id : String)
  | noSection (id : String)
  | noWidget (id : String)
  | noView (id : String)
  /-- the store takes no writes for now -/
  | maintenance
  | remote (failure : RemoteFailure)
  deriving DecidableEq, Repr

namespace StoreError

def message : StoreError → String
  | .noDashboard id => "Dashboard " ++ id ++ " does not exist"
  | .noSection id => "Section " ++ id ++ " does not exist"
  | .noWidget id => "Widget " ++ id ++ " does not exist"
  | .noView id => "View " ++ id ++ " does not exist"
  | .maintenance => "write refused: maintenance"
  | .remote failure => failure.message

end StoreError

abbrev Call.Reply (c : Call) : Type := Except StoreError c.Answer

/-! ## Plans -/

inductive Plan (α : Type) where
  | done (a : α)
  | ask (c : Call) (next : c.Reply → Plan α)

namespace Plan

variable {α β σ : Type}

def bind : Plan α → (α → Plan β) → Plan β
  | .done a, f => f a
  | .ask c next, f => .ask c fun r => (next r).bind f

instance : Monad Plan where
  pure := .done
  bind := bind

/-- the plan that makes one call -/
def call (c : Call) : Plan c.Reply :=
  .ask c .done

/-- runs a plan over a store, with `answer` for a call -/
def run (answer : (c : Call) → σ → c.Reply × σ) : Plan α → σ → α × σ
  | .done a, s => (a, s)
  | .ask c next, s =>
    let (r, s) := answer c s
    (next r).run answer s

theorem run_bind (answer : (c : Call) → σ → c.Reply × σ) (p : Plan α) (f : α → Plan β) (s : σ) :
    (p.bind f).run answer s = (f (p.run answer s).1).run answer (p.run answer s).2 := by
  induction p generalizing s with
  | done a => rfl
  | ask c next ih => simp only [bind, run, ih]

end Plan

end WidgetBoard
