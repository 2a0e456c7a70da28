import WidgetBoard.Service.Action
import WidgetBoard.Store.Memory
import WidgetBoard.Json.Parser
import WidgetBoard.Wire.Dashboard

/-!
# What goes in and out of the service, as JSON

Readers of what is handed in, written forms of what comes of an action, and the seed of a store in
memory.
-/

namespace WidgetBoard

/-! ## In -/

def Submission.reader : Reader Submission :=
  (Members.of Submission.mk |>.optional "id" Reader.string |>.required "title" Reader.string
    |>.withDefault "show_title" false Reader.bool |>.withDefault "size" {} WidgetSize.reader
    |>.required "config" Draft.reader).reader

def PointerDrag.reader : Reader PointerDrag :=
  (Members.of PointerDrag.mk |>.required "start_x" Reader.float
    |>.required "pointer_x" Reader.float |>.required "grid_width_px" Reader.float
    |>.withDefault "gap_px" 0.0 Reader.float).reader

/-! ## Out -/

def NewWidget.toJson (w : NewWidget) : Json :=
  .record
    [("config", some w.config.toJson), ("section_id", some (.str w.sectionId)),
     ("show_title", some (.bool w.showTitle)), ("size", some w.size.toJson),
     ("title", some (.str w.title))]

def Inspection.toJson (i : Inspection) : Json :=
  .record
    [("config", some i.config.toJson), ("section_id", some (.str i.sectionId)),
     ("widget_id", some (.str i.widgetId))]

def Outcome.toJson : Outcome → Json
  | .dashboard d => d.toJson
  | .widget w => w.toJson
  | .inspections is => .arr (is.map Inspection.toJson)
  | .nativeFilters fs => Filter.listToJson fs

/-! ## Seeds -/

def Seed.reader : Reader Seed :=
  (Members.of Seed.mk |>.withDefault "dashboards" [] (Reader.list Dashboard.reader)
    |>.withDefault "views" {} (Reader.dictionary View.reader)).reader

/-- a file that holds no seed -/
structure UnreadableSeed where
  file : String
  deriving DecidableEq, Repr

def UnreadableSeed.message (e : UnreadableSeed) : String :=
  "Failed to parse seed file " ++ e.file

/-- the seed that the text of a file holds -/
def Seed.ofFile (file text : String) : Except UnreadableSeed Seed :=
  match Seed.reader (Json.ofWholeText text) with
  | .ok s => .ok s
  | .error _ => .error ⟨file⟩

end WidgetBoard
