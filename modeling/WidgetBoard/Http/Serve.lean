import WidgetBoard.Http.Body
import WidgetBoard.Http.Exchange
import WidgetBoard.Http.MediaType
import WidgetBoard.Http.Resource
import WidgetBoard.Service.Session

/-!
# Serving requests

A request is turned into an answer at once, or into an action on a dashboard.  It is looked at in
this order: path, method, ids, content type, length, body; what comes first to be wrong decides the
status.

* `Resource.handler`      how a resource is served;
* `Request.job`           what a request comes to;
* `Response.ofOutcome`    the response to an action;
* `Session.serve`         a request served in a session.
-/

namespace WidgetBoard.Http

/-- what a request comes to -/
inductive Job where
  | answer (r : Response)
  | act (dashboard : String) (a : Action)
  deriving Repr

inductive Handler where
  /-- looks at no body -/
  | plain (j : Job)
  /-- takes a JSON body -/
  | withBody (r : Reader Job)

/-! ## Resources -/

def readBody {α : Type} (r : Reader α) (f : α → Job) : Handler :=
  .withBody fun j => (r j).map f

/-- a body that is answered with another JSON value -/
def convert {α : Type} (r : Reader α) (f : α → Json) : Handler :=
  readBody r fun a => .answer (.ok (f a))

def Resource.handler : Resource → Handler
  | .health => .plain (.answer { status := 200, content := .text "ok" })
  | .compile => convert CompileBody.reader fun b => (b.draft.compile b.view).toJson
  | .defaults => convert DefaultsBody.reader fun b => (Draft.default b.kind b.view).toJson
  | .retype => convert RetypeBody.reader fun b => (b.draft.retype b.kind).toJson
  | .lineLabels => convert LabelsBody.reader fun b => (b.draft.switchLabels b.enabled).toJson
  | .pack => convert PackBody.reader fun b => (Grid.ofDeclared b.columns b.widths).toJson
  | .dashboard id => .plain (.act id .get)
  | .inspection id => .plain (.act id .inspect)
  | .sectionOrder id =>
    readBody ReorderBody.reader fun b => .act id (.reorderSections b.source b.target)
  | .nativeFilters id => readBody nativeFiltersReader fun fs => .act id (.setNativeFilters fs)
  | .sections id => readBody SectionBody.reader fun b => .act id (.addSection b.title b.columns)
  | .sectionOf id s => .plain (.act id (.removeSection s))
  | .columns id s => readBody columnsBodyReader fun n => .act id (.setColumns s n)
  | .widgetOrder id s =>
    readBody ReorderBody.reader fun b => .act id (.reorderWidgets s b.source b.target)
  | .widgets id s => readBody Submission.reader fun w => .act id (.save s w)
  /- the widget is found by its id alone -/
  | .widget id _ w => .plain (.act id (.delete w))
  | .width id s w =>
    readBody ResizeBody.reader fun
      | .width n => .act id (.resize s w n)
      | .drag d => .act id (.drag s w d)

/-! ## Requests -/

def Request.isJson (q : Request) : Bool :=
  match q.contentType.bind MediaType.ofText? with
  | some m => m.isJson
  | none => false

/-- the status of a body that cannot be read -/
def faultStatus : Fault → Nat
  | .malformed => 400
  | .mismatch => 422

/-- a longer body is not read, in bytes -/
def maxBodyLength : Nat := 2097152

def Handler.job (h : Handler) (q : Request) : Job :=
  match h with
  | .plain j => j
  | .withBody r =>
    if !q.isJson then .answer { status := 415 }
    else if maxBodyLength < q.body.utf8ByteSize then .answer { status := 413 }
    else match r (Json.ofText q.body) with
      | .ok j => j
      | .error f => .answer { status := faultStatus f }

def Request.job (q : Request) : Job :=
  match (Path.segments? q.path).bind Resource.ofSegments? with
  | none => .answer { status := 404 }
  | some r =>
    if r.takes q.method then
      match r.decode? with
      | some r => r.handler.job q
      | none => .answer { status := 400 }
    else .answer { status := 405 }

/-! ## Responses -/

def errorJson (text : String) : Json :=
  .record [("error", some (.str text))]

/-- filters are not saved yet when they are accepted -/
def Response.ofOutcome : Except ServiceError Outcome → Response
  | .ok (.nativeFilters _) => { status := 202 }
  | .ok o => .ok o.toJson
  | .error (.invalid vs) =>
    { status := 422, content := .json (.record [("violations", some (violationsToJson vs))]) }
  | .error (.notFound what) =>
    { status := 404, content := .json (errorJson (what.describe ++ " not found")) }
  | .error (.store _) =>
    { status := 502, content := .json (errorJson "dashboard API request failed") }

/-- a `HEAD` request gets no body -/
def Response.to (r : Response) (q : Request) : Response :=
  if q.method = "HEAD" then { r with content := .empty } else r

end WidgetBoard.Http

namespace WidgetBoard

open Http

def Session.serve (s : Session) (q : Request) : Response × Session :=
  match q.job with
  | .answer r => (r.to q, s)
  | .act dashboard a =>
    let (o, s) := s.perform dashboard a
    ((Response.ofOutcome o).to q, s)

end WidgetBoard
