import WidgetBoard.Dashboard.Layout
import WidgetBoard.Wire.Config

/-!
# Dashboards as JSON

The written forms and readers of widgets, sections, dashboards and layouts.  A width is clamped when
it is read, the columns of a section are not.
-/

namespace WidgetBoard

/-! ## Widgets -/

def Height.reader : Reader Height := fun j => (Reader.float j).map Height.ofFloat

def WidgetSize.toJson (s : WidgetSize) : Json :=
  .record
    [("height", some (.num (.real s.height.toFloat))), ("width", some (.ofNat s.width.val))]

def Span.reader : Reader Span := fun j => (Reader.below 256 j).map Span.clamp

def WidgetSize.reader : Reader WidgetSize :=
  (Members.of WidgetSize.mk |>.required "width" Span.reader
    |>.withDefault "height" .full Height.reader).reader

def Widget.toJson (w : Widget) : Json :=
  .record
    [("config", some w.config.toJson), ("id", some (.str w.id)),
     ("show_title", some (.bool w.showTitle)), ("size", some w.size.toJson),
     ("title", some (.str w.title))]

def Widget.reader : Reader Widget :=
  (Members.of Widget.mk |>.required "id" Reader.string |>.required "title" Reader.string
    |>.withDefault "show_title" false Reader.bool |>.required "config" Config.reader
    |>.withDefault "size" {} WidgetSize.reader).reader

/-! ## Sections -/

def columnsReader : Reader Nat := Reader.below 256

def Section.toJson (s : Section) : Json :=
  .record
    [("columns", some (.ofNat s.columns)), ("id", some (.str s.id)),
     ("show_title", some (.bool s.showTitle)), ("title", some (.str s.title)),
     ("widgets", some (.arr (s.widgets.map Widget.toJson)))]

def Section.reader : Reader Section :=
  (Members.of Section.mk |>.required "id" Reader.string |>.required "title" Reader.string
    |>.withDefault "show_title" false Reader.bool |>.required "columns" columnsReader
    |>.withDefault "widgets" [] (Reader.list Widget.reader)).reader

/-! ## Dashboards -/

def Stamp.toText : Stamp → String
  | .recorded t => t.toText
  | .thisSession => "NOW"

/-- the text of an instant -/
def Stamp.reader : Reader Stamp := fun j => do
  let s ← Reader.string j
  match Instant.ofText? s with
  | some t => .ok (.recorded t)
  | none => .error .mismatch

def Dashboard.toJson (d : Dashboard) : Json :=
  .record
    [("id", some (.str d.id)), ("native_filters", some (Filter.listToJson d.nativeFilters)),
     ("sections", some (.arr (d.sections.map Section.toJson))), ("title", some (.str d.title)),
     ("updated_at", d.updatedAt.map fun t => .str t.toText), ("view_id", some (.str d.view))]

def Dashboard.reader : Reader Dashboard :=
  (Members.of Dashboard.mk |>.required "id" Reader.string |>.required "title" Reader.string
    |>.required "view_id" Reader.string
    |>.withDefault "sections" [] (Reader.list Section.reader)
    |>.withDefault "native_filters" [] Filter.listReader
    |>.optional "updated_at" Stamp.reader).reader

/-! ## Layouts -/

def Placement.toJson (p : Placement) : Json :=
  .record [("id", some (.str p.id)), ("size", some p.size.toJson)]

def Placement.reader : Reader Placement :=
  (Members.of Placement.mk |>.required "id" Reader.string
    |>.required "size" WidgetSize.reader).reader

def SectionLayout.toJson (s : SectionLayout) : Json :=
  .record
    [("columns", some (.ofNat s.columns)), ("id", some (.str s.id)),
     ("show_title", some (.bool s.showTitle)), ("title", some (.str s.title)),
     ("widgets", some (.arr (s.widgets.map Placement.toJson)))]

def SectionLayout.reader : Reader SectionLayout :=
  (Members.of SectionLayout.mk |>.required "id" Reader.string |>.required "title" Reader.string
    |>.withDefault "show_title" false Reader.bool |>.required "columns" columnsReader
    |>.withDefault "widgets" [] (Reader.list Placement.reader)).reader

def Layout.toJson (l : Layout) : Json := .arr (l.map SectionLayout.toJson)

def Layout.reader : Reader Layout := Reader.list SectionLayout.reader

/-! ## Grids -/

def GridRow.toJson (r : GridRow) : Json :=
  .record [("used", some (.ofNat r.used)), ("widgets", some (.arr (r.widgets.map .ofNat)))]

/-- a grid packed: its rows and the room in them -/
def Grid.toJson (g : Grid) : Json :=
  .record
    [("columns", some (.ofNat g.columns)), ("max_widths", some (.arr (g.maxWidths.map .ofNat))),
     ("remaining", some (.ofNat g.remaining)), ("rows", some (.arr (g.rows.map GridRow.toJson)))]

end WidgetBoard
