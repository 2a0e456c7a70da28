import WidgetBoard.Http.Target
import WidgetBoard.Http.Token
import WidgetBoard.Json.Basic

/-!
# Requests and responses

* `Request`            what was sent, taken apart;
* `Request.ofParts?`   the request of a method, a target, a content type and a body; none if one of
                       the first three is not well formed;
* `Response`           what is sent back.
-/

namespace WidgetBoard.Http

structure Request where
  method : String
  /-- the path of the target, percent-encoded as it was sent -/
  path : String
  contentType : Option String := none
  body : String := ""
  deriving DecidableEq, Repr

/-- a header holds no control characters but tabs -/
def isHeaderValue (s : String) : Bool :=
  s.toList.all fun c => c == '\t' || (0x20 ≤ c.toNat && c.toNat != 0x7F)

/-- a method is a token -/
def Request.ofParts? (method target : String) (contentType : Option String)
    (body : String) : Option Request := do
  let path ← Target.path? target
  if isToken method && contentType.all isHeaderValue then
    some { method := method, path := path, contentType := contentType, body := body }
  else none

inductive Content where
  | empty
  | text (s : String)
  | json (j : Json)
  deriving DecidableEq, Repr

structure Response where
  status : Nat
  content : Content := .empty
  deriving DecidableEq, Repr

/-- a success with a JSON value -/
def Response.ok (j : Json) : Response :=
  { status := 200, content := .json j }

end WidgetBoard.Http
