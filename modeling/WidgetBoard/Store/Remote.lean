import WidgetBoard.Http.Path
import WidgetBoard.Http.Status
import WidgetBoard.Json.Parser
import WidgetBoard.Settings
import WidgetBoard.Wire.Service

/-!
# A store kept by another service

A call is sent as one request to the service at a base address and is answered by its reply.

* `Remote.order`     the method, the path and the body that a call is sent with;
* `Remote.request`   the whole request, with its address and headers;
* `Remote.read`      what a call makes of the reply, or of there being none.
-/

namespace WidgetBoard.Remote

/-! ## Requests -/

structure Order where
  method : String
  segments : List String
  body : Option Json := none
  deriving DecidableEq, Repr

def order : Call → Order
  | .dashboard id => { method := "GET", segments := ["dashboards", id] }
  | .viewColumns id => { method := "GET", segments := ["views", id, "columns"] }
  | .createWidget id w =>
    { method := "POST", segments := ["dashboards", id, "widgets"], body := some w.toJson }
  | .updateWidget id w =>
    { method := "PUT", segments := ["dashboards", id, "widgets", w.id], body := some w.toJson }
  | .deleteWidget id w => { method := "DELETE", segments := ["dashboards", id, "widgets", w] }
  | .saveLayout id l =>
    { method := "PUT", segments := ["dashboards", id, "layout"],
      body := some (.record [("sections", some (Layout.toJson l))]) }
  | .saveNativeFilters id fs =>
    { method := "PUT", segments := ["dashboards", id, "native-filters"],
      body := some (.record [("native_filters", some (Filter.listToJson fs))]) }

/-- a text without the slashes at its end -/
def withoutSlashes (s : String) : String :=
  String.ofList (s.toList.reverse.dropWhile (· == '/')).reverse

def url (base : String) (segments : List String) : String :=
  withoutSlashes base ++ Http.Path.write segments

structure Request where
  method : String
  url : String
  accept : String
  authorization : Option String
  contentType : Option String
  body : Option Json
  deriving DecidableEq, Repr

def request (s : ApiSettings) (c : Call) : Request :=
  let o := order c
  { method := o.method, url := url s.baseUrl o.segments, accept := "application/json",
    authorization := s.token.map ("Bearer " ++ ·),
    contentType := o.body.map fun _ => "application/json", body := o.body }

/-! ## Replies -/

structure Reply where
  status : Nat
  body : String
  deriving DecidableEq, Repr

/-- what a call is called when it fails -/
def action : Call → String
  | .dashboard _ => "Get dashboard"
  | .viewColumns _ => "List view columns"
  | .createWidget .. => "Create widget"
  | .updateWidget .. => "Update widget"
  | .deleteWidget .. => "Delete widget"
  | .saveLayout .. => "Save layout"
  | .saveNativeFilters .. => "Save native filters"

/-- what a call is called when it cannot be sent -/
def unsentAction : Call → String
  | .dashboard _ => "get dashboard"
  | c => action c

def fail {α : Type} (f : RemoteFailure) : Except StoreError α :=
  .error (.remote f)

/-- the value that the body of a reply holds -/
def parse {α : Type} (what : String) (r : Reader α) (body : String) : Except StoreError α :=
  match r (Json.ofWholeText body) with
  | .ok a => .ok a
  | .error _ => fail (.unreadable what)

/-- what the body of a successful reply answers -/
def readBody (body : String) : (c : Call) → c.Reply
  | .dashboard _ => (parse "dashboard response" Dashboard.reader body).map some
  | .viewColumns _ => parse "view columns response" View.reader body
  | .createWidget .. => parse "created widget" Widget.reader body
  | .updateWidget .. => parse "updated widget" Widget.reader body
  | .deleteWidget .. | .saveLayout .. | .saveNativeFilters .. => .ok ()

def refusal (reply : Reply) (c : Call) : RemoteFailure :=
  .refused (action c) (Http.Status.text reply.status) reply.body

/-- a dashboard that is not found is no failure -/
def readFailure (reply : Reply) : (c : Call) → c.Reply
  | .dashboard id =>
    if reply.status = 404 then .ok none else fail (refusal reply (.dashboard id))
  | c => fail (refusal reply c)

/-- without a reply the request did not reach the service -/
def read (c : Call) : Option Reply → c.Reply
  | none => fail (.notSent (unsentAction c))
  | some reply =>
    if Http.Status.isSuccess reply.status then readBody reply.body c else readFailure reply c

end WidgetBoard.Remote
