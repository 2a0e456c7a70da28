import WidgetBoard.Grid.Resize
import WidgetBoard.Service.Action
import WidgetBoard.Store.Call

/-!
# Actions as plans

Every action is a plan: it loads the dashboard, checks what it was given against it and its view,
and only then makes at most one write.

A change of the layout counts even when it cannot be saved: the dashboard that is answered has it.
All other writes must succeed.

* `Task`           plans that may fail;
* `Action.plan`    the plan of an action.
-/

namespace WidgetBoard

abbrev Task (α : Type) : Type := ExceptT ServiceError Plan α

/-- a whole drag at once: what the widget is resized to -/
def Section.dragged? (s : Section) (widget : String) (drag : PointerDrag) :
    Option ResizeUpdate := do
  let i ← s.widgetIndex? widget
  let g := (({} : Gesture).begin widget i s.grid drag.startX none).2
  (g.up drag.pointerX { width := drag.gridWidth, gap := drag.gap, columns := s.columns }).1

/-- the widget handed in, with its configuration compiled -/
def Submission.compiled (w : Submission) (sectionId : String) (c : Config) : NewWidget :=
  { sectionId := sectionId, title := w.title, showTitle := w.showTitle, config := c,
    size := w.size }

namespace Task

variable {α : Type}

/-- makes a call that must succeed -/
def ask (c : Call) : Task c.Answer :=
  ExceptT.mk do
    match ← Plan.call c with
    | .ok a => pure (.ok a)
    | .error e => pure (.error (.store e))

/-- makes a call and goes on in any case -/
def attempt (c : Call) : Task Unit :=
  ExceptT.mk do
    let _ ← Plan.call c
    pure (.ok ())

def found (o : Option α) (what : Missing) : Task α :=
  match o with
  | some a => pure a
  | none => throw (.notFound what)

/-- fails if there are violations -/
def require (vs : List Violation) : Task Unit :=
  if vs.isEmpty then pure () else throw (.invalid vs)

/-! ## Loading -/

def dashboard (id : String) : Task Dashboard := do
  found (← ask (.dashboard id)) (.dashboard id)

def sectionOf (id sectionId : String) : Task (Dashboard × Section) := do
  let d ← dashboard id
  let s ← found (d.section? sectionId) (.sectionId sectionId)
  pure (d, s)

/-! ## Widgets -/

/-- saves a widget whose configuration has no violation; one with an id must be in the section -/
def saveWidget (id sectionId : String) (w : Submission) : Task Widget := do
  let (d, s) ← sectionOf id sectionId
  let view ← ask (.viewColumns d.view)
  let report := w.draft.compile view
  require report.violations
  let new := w.compiled sectionId report.config
  match w.id with
  | some widget =>
    let _ ← found (s.widgetIndex? widget) (.widget widget)
    ask (.updateWidget id (new.withId widget))
  | none => ask (.createWidget id new)

/-- deletes a widget, whatever section it is in -/
def deleteWidget (id widget : String) : Task Dashboard := do
  let d ← dashboard id
  let _ ← found (d.find? widget) (.widget widget)
  ask (.deleteWidget id widget)
  pure (d.withoutWidget widget)

/-! ## Layout -/

/-- saves the layout if the store takes it -/
def commitLayout (d : Dashboard) : Task Dashboard := do
  attempt (.saveLayout d.id d.layout)
  pure d

def addSection (id newId title : String) (columns : Nat) : Task Dashboard := do
  let d ← dashboard id
  commitLayout (d.withSection (Section.empty newId title columns))

def removeSection (id sectionId : String) : Task Dashboard := do
  let (d, _) ← sectionOf id sectionId
  commitLayout (d.withoutSection sectionId)

def setColumns (id sectionId : String) (columns : Nat) : Task Dashboard := do
  let (d, s) ← sectionOf id sectionId
  commitLayout (d.withSection (s.withColumns columns))

def reorderWidgets (id sectionId source target : String) : Task Dashboard := do
  let (d, s) ← sectionOf id sectionId
  let s ← found (s.reorderWidgets? source target) (.widgetPair source target sectionId)
  commitLayout (d.withSection s)

def reorderSections (id source target : String) : Task Dashboard := do
  let d ← dashboard id
  commitLayout (← found (d.reorderSections? source target) (.sectionPair source target))

/-- sets a width, clamped to what the row of the widget can hold -/
def resizeWidget (id sectionId widget : String) (width : Nat) : Task Dashboard := do
  let (d, s) ← sectionOf id sectionId
  let room ← found ((s.widgetIndex? widget).bind s.grid.maxWidthAt?) (.widget widget)
  commitLayout (d.withSection (s.withWidgetWidth widget (clampWidth width room)))

def dragWidget (id sectionId widget : String) (drag : PointerDrag) : Task Dashboard := do
  let (d, s) ← sectionOf id sectionId
  let u ← found (s.dragged? widget drag) (.widget widget)
  commitLayout (d.withSection (s.withWidgetWidth widget u.width))

/-! ## Filters -/

/-- compiles filters for the whole dashboard and checks them; they are not saved yet -/
def prepareFilters (id : String) (fs : List Filter) : Task (List Filter) := do
  let d ← dashboard id
  let view ← ask (.viewColumns d.view)
  let compiled := Filter.compile fs
  require (view.checkFilters compiled)
  pure compiled

end Task

/-! ## All actions -/

namespace Action

/-- what an action does to the dashboard `id`; a new section gets the id `newId` -/
def task (newId id : String) : Action → Task Outcome
  | .get => .dashboard <$> Task.dashboard id
  | .inspect => (fun d => .inspections d.inspections) <$> Task.dashboard id
  | .save s w => .widget <$> Task.saveWidget id s w
  | .delete w => .dashboard <$> Task.deleteWidget id w
  | .addSection title columns => .dashboard <$> Task.addSection id newId title columns
  | .removeSection s => .dashboard <$> Task.removeSection id s
  | .setColumns s columns => .dashboard <$> Task.setColumns id s columns
  | .reorderWidgets s source target => .dashboard <$> Task.reorderWidgets id s source target
  | .reorderSections source target => .dashboard <$> Task.reorderSections id source target
  | .resize s w width => .dashboard <$> Task.resizeWidget id s w width
  | .drag s w p => .dashboard <$> Task.dragWidget id s w p
  | .setNativeFilters fs => .nativeFilters <$> Task.prepareFilters id fs

def plan (newId id : String) (a : Action) : Plan (Except ServiceError Outcome) :=
  (a.task newId id).run

end Action

end WidgetBoard
