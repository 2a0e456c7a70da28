import WidgetBoard.Wire.Service

/-!
# Bodies of requests

What the service reads from the body of a request.
-/

namespace WidgetBoard.Http

/-- the draft to compile, and the columns it is checked against -/
structure CompileBody where
  draft : Draft
  view : View

def CompileBody.reader : Reader CompileBody :=
  (Members.of CompileBody.mk |>.required "config" Draft.reader
    |>.withDefault "columns" [] View.reader).reader

structure DefaultsBody where
  kind : WidgetKind
  view : View

def DefaultsBody.reader : Reader DefaultsBody :=
  (Members.of DefaultsBody.mk |>.required "widget_type" WidgetKind.reader
    |>.withDefault "columns" [] View.reader).reader

structure RetypeBody where
  draft : Draft
  kind : WidgetKind

def RetypeBody.reader : Reader RetypeBody :=
  (Members.of RetypeBody.mk |>.required "config" Draft.reader
    |>.required "widget_type" WidgetKind.reader).reader

structure LabelsBody where
  draft : Draft
  enabled : Bool

def LabelsBody.reader : Reader LabelsBody :=
  (Members.of LabelsBody.mk |>.required "config" Draft.reader
    |>.required "enabled" Reader.bool).reader

structure PackBody where
  columns : Nat
  widths : List Nat

def PackBody.reader : Reader PackBody :=
  (Members.of PackBody.mk |>.required "columns" columnsReader
    |>.required "widths" (Reader.list (Reader.below 256))).reader

structure SectionBody where
  title : String
  columns : Nat

def SectionBody.reader : Reader SectionBody :=
  (Members.of SectionBody.mk |>.required "title" Reader.string
    |>.withDefault "columns" maxColumns columnsReader).reader

def columnsBodyReader : Reader Nat :=
  (Members.of id |>.required "columns" columnsReader).reader

/-- what is moved, and to whose place -/
structure ReorderBody where
  source : String
  target : String

def ReorderBody.reader : Reader ReorderBody :=
  (Members.of ReorderBody.mk |>.required "from" Reader.string
    |>.required "to" Reader.string).reader

inductive ResizeBody where
  | width (n : Nat)
  | drag (d : PointerDrag)

/-- a width always stands in an object -/
def ResizeBody.widthReader : Reader Nat :=
  (Members.of id |>.required "width" (Reader.below 256)).objectReader

/-- a width if there is one, else a drag; the text is gone through to its end first -/
def ResizeBody.reader : Reader ResizeBody := fun j => do
  let _ ← Reader.value j
  match widthReader j, PointerDrag.reader j with
  | .ok n, _ => .ok (.width n)
  | _, .ok d => .ok (.drag d)
  | _, _ => .error .mismatch

def nativeFiltersReader : Reader (List Filter) :=
  (Members.of id |>.required "native_filters" Filter.listReader).reader

end WidgetBoard.Http
