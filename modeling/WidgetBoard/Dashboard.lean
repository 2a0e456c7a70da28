import WidgetBoard.Config
import WidgetBoard.Grid
import WidgetBoard.Instant

/-!
# Dashboards

A dashboard shows the columns of one view in sections, each a grid of widgets.  Sections and widgets
are found by id: of several with one id, the first counts.

* `moveItem`                     moves an item of a list to another place;
* `Section`, `Dashboard`         with the edits of a single section and of the whole dashboard;
* `upsertBy`                     replaces the first item with the same id, or appends.
-/

namespace WidgetBoard

/-! ## Lists -/

/-- takes the item at `source` out and puts it in at index `target` of the rest, at the end if there
are fewer; nothing moves when there is no such item -/
def moveItem {α : Type} (items : List α) (source target : Nat) : List α :=
  match items[source]? with
  | none => items
  | some item =>
    let rest := items.eraseIdx source
    rest.take target ++ item :: rest.drop target

/-- replaces the first item with the key of `a`, or appends `a` -/
def upsertBy {α : Type} (key : α → String) (a : α) : List α → List α
  | [] => [a]
  | b :: bs => if key b = key a then a :: bs else b :: upsertBy key a bs

/-- replaces the first item with that key by what `f` makes of it -/
def updateFirst {α : Type} (key : α → String) (k : String) (f : α → α) : List α → List α
  | [] => []
  | b :: bs => if key b = k then f b :: bs else b :: updateFirst key k f bs

/-! ## Widgets and sections -/

structure Widget where
  id : String
  title : String
  showTitle : Bool := false
  config : Config
  size : WidgetSize := {}
  deriving DecidableEq, Repr

structure Section where
  id : String
  title : String
  showTitle : Bool := false
  columns : Nat
  widgets : List Widget := []
  deriving DecidableEq, Repr

namespace Section

def empty (id title : String) (columns : Nat) : Section :=
  { id := id, title := title, showTitle := true, columns := clampColumns columns }

def grid (s : Section) : Grid :=
  .ofDeclared s.columns (s.widgets.map fun w => w.size.width.val)

def widgetIndex? (s : Section) (id : String) : Option Nat :=
  s.widgets.findIdx? fun w => w.id == id

/-- widgets keep their declared widths -/
def withColumns (s : Section) (columns : Nat) : Section :=
  { s with columns := clampColumns columns }

def withWidget (s : Section) (w : Widget) : Section :=
  { s with widgets := upsertBy (·.id) w s.widgets }

def withoutWidget (s : Section) (id : String) : Section :=
  { s with widgets := s.widgets.filter fun w => w.id ≠ id }

/-- moves a widget to the place of another -/
def reorderWidgets? (s : Section) (source target : String) : Option Section := do
  let i ← s.widgetIndex? source
  let j ← s.widgetIndex? target
  pure { s with widgets := moveItem s.widgets i j }

/-- gives a width to every widget with that id -/
def withWidgetWidth (s : Section) (id : String) (width : Nat) : Section :=
  { s with
    widgets := s.widgets.map fun w =>
      if w.id = id then { w with size := { w.size with width := Span.clamp width } } else w }

end Section

/-! ## Dashboards -/

/-- when a dashboard was last changed -/
inductive Stamp where
  /-- at an instant that is on record -/
  | recorded (t : Instant)
  /-- in the course of this session -/
  | thisSession
  deriving DecidableEq, Repr

structure Dashboard where
  id : String
  title : String
  view : String
  sections : List Section := []
  nativeFilters : List Filter := []
  updatedAt : Option Stamp := none
  deriving DecidableEq, Repr

namespace Dashboard

def empty (id title view : String) : Dashboard :=
  { id := id, title := title, view := view }

def section? (d : Dashboard) (id : String) : Option Section :=
  d.sections.find? fun s => s.id == id

def sectionIndex? (d : Dashboard) (id : String) : Option Nat :=
  d.sections.findIdx? fun s => s.id == id

/-- all widgets, section by section -/
def widgets (d : Dashboard) : List Widget :=
  d.sections.flatMap (·.widgets)

/-- a widget with the section it is in -/
def located (d : Dashboard) : List (Section × Widget) :=
  d.sections.flatMap fun s => s.widgets.map fun w => (s, w)

def find? (d : Dashboard) (id : String) : Option (Section × Widget) :=
  d.located.find? fun p => p.2.id == id

def withSection (d : Dashboard) (s : Section) : Dashboard :=
  { d with sections := upsertBy (·.id) s d.sections }

def withoutSection (d : Dashboard) (id : String) : Dashboard :=
  { d with sections := d.sections.filter fun s => s.id ≠ id }

def withoutWidget (d : Dashboard) (id : String) : Dashboard :=
  { d with sections := d.sections.map fun s => s.withoutWidget id }

/-- moves a section to the place of another -/
def reorderSections? (d : Dashboard) (source target : String) : Option Dashboard := do
  let i ← d.sectionIndex? source
  let j ← d.sectionIndex? target
  pure { d with sections := moveItem d.sections i j }

end Dashboard

end WidgetBoard
