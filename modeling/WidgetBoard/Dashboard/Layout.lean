import WidgetBoard.Dashboard

/-!
# Layouts

The layout of a dashboard is its sections in order, with their titles and columns, and for each the
ids and sizes of its widgets in order: everything but what the widgets show.

* `Dashboard.layout`        the layout of a dashboard;
* `Dashboard.applyLayout`   the dashboard laid out anew.

A layout may be older than the dashboard.  Ids that the dashboard does not have are passed over, and
widgets that the layout does not place stay at the end of their section, so that a layout taken
before a widget was made does not remove it.  Sections that the layout leaves out are removed, with
the widgets it does not place elsewhere.
-/

namespace WidgetBoard

structure Placement where
  id : String
  size : WidgetSize
  deriving DecidableEq, Repr

structure SectionLayout where
  id : String
  title : String
  showTitle : Bool := false
  columns : Nat
  widgets : List Placement := []
  deriving DecidableEq, Repr

abbrev Layout := List SectionLayout

def Section.layout (s : Section) : SectionLayout :=
  { id := s.id, title := s.title, showTitle := s.showTitle, columns := s.columns,
    widgets := s.widgets.map fun w => ⟨w.id, w.size⟩ }

/-- the ids that a layout places -/
def Layout.placed (l : Layout) : List String :=
  l.flatMap fun s => s.widgets.map (·.id)

namespace Dashboard

def layout (d : Dashboard) : Layout :=
  d.sections.map Section.layout

/-- a widget of the dashboard in the size of a placement -/
def place? (d : Dashboard) (p : Placement) : Option Widget :=
  (d.find? p.id).map fun found => { found.2 with size := p.size }

/-- the widgets of the section that the layout does not place -/
def unplaced (d : Dashboard) (placed : List String) (id : String) : List Widget :=
  match d.section? id with
  | some s => s.widgets.filter fun w => w.id ∉ placed
  | none => []

def layOut (d : Dashboard) (placed : List String) (s : SectionLayout) : Section :=
  { id := s.id, title := s.title, showTitle := s.showTitle, columns := clampColumns s.columns,
    widgets := s.widgets.filterMap d.place? ++ d.unplaced placed s.id }

def applyLayout (d : Dashboard) (l : Layout) : Dashboard :=
  { d with sections := l.map (d.layOut (Layout.placed l)) }

end Dashboard

end WidgetBoard
