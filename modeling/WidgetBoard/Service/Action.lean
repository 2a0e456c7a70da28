import WidgetBoard.Config.Check
import WidgetBoard.Store.Call

/-!
# Actions on a dashboard

* `Action`         what can be asked of the service about one dashboard;
* `Outcome`        what a successful action results in;
* `ServiceError`   why an action failed, with its wording in `ServiceError.message`.
-/

namespace WidgetBoard

/-! ## What is handed in -/

/-- a widget as an editor hands it in; one that was never saved has no id -/
structure Submission where
  id : Option String := none
  title : String
  showTitle : Bool := false
  size : WidgetSize := {}
  draft : Draft
  deriving Repr

/-- a drag of a widget's edge that is over, in pixels -/
structure PointerDrag where
  startX : Float
  pointerX : Float
  gridWidth : Float
  gap : Float := 0.0
  deriving Repr

inductive Action where
  | get
  /-- the configurations of all widgets -/
  | inspect
  | save (sectionId : String) (widget : Submission)
  | delete (widget : String)
  | addSection (title : String) (columns : Nat)
  | removeSection (sectionId : String)
  | setColumns (sectionId : String) (columns : Nat)
  /-- moves a widget to the place of another -/
  | reorderWidgets (sectionId source target : String)
  /-- moves a section to the place of another -/
  | reorderSections (source target : String)
  | resize (sectionId widget : String) (width : Nat)
  | drag (sectionId widget : String) (drag : PointerDrag)
  /-- filters for the whole dashboard; they are saved once they have been left alone for a while -/
  | setNativeFilters (filters : List Filter)
  deriving Repr

/-! ## What comes of it -/

/-- the configuration of a widget, with where it is -/
structure Inspection where
  sectionId : String
  widgetId : String
  config : Config
  deriving DecidableEq, Repr

def Dashboard.inspections (d : Dashboard) : List Inspection :=
  d.located.map fun p => ⟨p.1.id, p.2.id, p.2.config⟩

inductive Outcome where
  | dashboard (d : Dashboard)
  | widget (w : Widget)
  | inspections (is : List Inspection)
  /-- the filters as they will be saved -/
  | nativeFilters (fs : List Filter)
  deriving DecidableEq, Repr

/-! ## Failures -/

/-- what an action named and the dashboard does not have -/
inductive Missing where
  | dashboard (id : String)
  | sectionId (id : String)
  | widget (id : String)
  /-- one of two widgets of a section -/
  | widgetPair (source target sectionId : String)
  /-- one of two sections -/
  | sectionPair (source target : String)
  deriving DecidableEq, Repr

namespace Missing

def describe : Missing → String
  | .dashboard id => "dashboard " ++ id
  | .sectionId id => "section " ++ id
  | .widget id => "widget " ++ id
  | .widgetPair source target s => "widgets " ++ source ++ " / " ++ target ++ " in section " ++ s
  | .sectionPair source target => "sections " ++ source ++ " / " ++ target

end Missing

inductive ServiceError where
  | invalid (violations : List Violation)
  | notFound (what : Missing)
  | store (e : StoreError)
  deriving DecidableEq, Repr

namespace ServiceError

def message : ServiceError → String
  | .invalid vs => "widget configuration is invalid: " ++ " ".intercalate (vs.map (·.message))
  | .notFound what => "not found: " ++ what.describe
  | .store e => "persistence failed: " ++ e.message

end ServiceError

end WidgetBoard
