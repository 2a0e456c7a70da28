import WidgetBoard.Http.Path

/-!
# Resources

What the paths of the service stand for.  Every resource takes one method.

* `Resource.ofSegments?`  the resource at a path; its ids are still percent-encoded;
* `Resource.decode?`      the same with its ids decoded, if they are UTF-8;
* `Resource.method`       the method it takes, `HEAD` apart, which goes with `GET`.
-/

namespace WidgetBoard.Http

inductive Resource where
  | health
  /-- compiles a draft -/
  | compile
  /-- makes a draft -/
  | defaults
  /-- changes the kind of a draft -/
  | retype
  /-- switches the labels of a draft -/
  | lineLabels
  /-- packs a grid -/
  | pack
  | dashboard (id : String)
  | inspection (id : String)
  /-- the order of the sections -/
  | sectionOrder (id : String)
  | nativeFilters (id : String)
  | sections (id : String)
  | sectionOf (id sectionId : String)
  | columns (id sectionId : String)
  /-- the order of the widgets of a section -/
  | widgetOrder (id sectionId : String)
  | widgets (id sectionId : String)
  | widget (id sectionId widget : String)
  | width (id sectionId widget : String)
  deriving DecidableEq, Repr

namespace Resource

def match? : List String → Option Resource
  | ["healthz"] => some .health
  | ["widgets", "compile"] => some .compile
  | ["widgets", "defaults"] => some .defaults
  | ["widgets", "retype"] => some .retype
  | ["widgets", "line-labels"] => some .lineLabels
  | ["layout", "pack"] => some .pack
  | ["dashboards", id] => some (.dashboard id)
  | ["dashboards", id, "inspect"] => some (.inspection id)
  | ["dashboards", id, "reorder"] => some (.sectionOrder id)
  | ["dashboards", id, "native-filters"] => some (.nativeFilters id)
  | ["dashboards", id, "sections"] => some (.sections id)
  | ["dashboards", id, "sections", s] => some (.sectionOf id s)
  | ["dashboards", id, "sections", s, "columns"] => some (.columns id s)
  | ["dashboards", id, "sections", s, "reorder"] => some (.widgetOrder id s)
  | ["dashboards", id, "sections", s, "widgets"] => some (.widgets id s)
  | ["dashboards", id, "sections", s, "widgets", w] => some (.widget id s w)
  | ["dashboards", id, "sections", s, "widgets", w, "resize"] => some (.width id s w)
  | _ => none

/-- the last segment is not empty; an id in front of it may be -/
def ofSegments? (segments : List String) : Option Resource :=
  if segments.getLast? = some "" then none else match? segments

def decode? : Resource → Option Resource
  | .dashboard id => return .dashboard (← text id)
  | .inspection id => return .inspection (← text id)
  | .sectionOrder id => return .sectionOrder (← text id)
  | .nativeFilters id => return .nativeFilters (← text id)
  | .sections id => return .sections (← text id)
  | .sectionOf id s => return .sectionOf (← text id) (← text s)
  | .columns id s => return .columns (← text id) (← text s)
  | .widgetOrder id s => return .widgetOrder (← text id) (← text s)
  | .widgets id s => return .widgets (← text id) (← text s)
  | .widget id s w => return .widget (← text id) (← text s) (← text w)
  | .width id s w => return .width (← text id) (← text s) (← text w)
  | r => some r
where
  text := Text.Percent.decode?

def method : Resource → String
  | .health | .dashboard _ | .inspection _ => "GET"
  | .compile | .defaults | .retype | .lineLabels | .pack => "POST"
  | .sectionOrder _ | .sections _ | .widgetOrder .. | .width .. => "POST"
  | .nativeFilters _ | .columns .. | .widgets .. => "PUT"
  | .sectionOf .. | .widget .. => "DELETE"

def takes (r : Resource) (method : String) : Bool :=
  method == r.method || (method == "HEAD" && r.method == "GET")

end Resource

end WidgetBoard.Http
