import WidgetBoard.Http.Token

/-!
# Media types

A media type is a type and a subtype, as in `application/json`.  Behind the last plus sign the
subtype may have a suffix, as in `application/problem+json`; parameters may follow, each behind a
semicolon.

* `MediaType.ofText?`   the media type of a header, without its parameters;
* `MediaType.isJson`    whether it is JSON.
-/

namespace WidgetBoard.Http

/-- in lower case -/
structure MediaType where
  type : String
  subtype : String
  suffix : Option String := none
  deriving DecidableEq, Repr

namespace MediaType

/-- the characters of quoted values -/
def isQuotable (c : Char) : Bool :=
  0x20 ≤ c.toNat && c.toNat < 0x7F

/-! ## Parameters -/

/-- where a reader of parameters is -/
inductive Place where
  /-- in front of a name -/
  | start
  | name
  /-- behind the equals sign -/
  | valueStart
  | value
  /-- behind the opening quote -/
  | quoteStart
  | quoted
  /-- behind the closing quote -/
  | closed
  deriving DecidableEq, Repr

/-- one character further; a quoted value is not empty, a quote at its front belongs to it -/
def Place.step? : Place → Char → Option Place
  | .start, c => if c = ' ' then some .start else if isTokenChar c then some .name else none
  | .name, c => if c = '=' then some .valueStart else if isTokenChar c then some .name else none
  | .valueStart, c =>
    if c = '"' then some .quoteStart else if isTokenChar c then some .value else none
  | .value, c => if c = ';' then some .start else if isTokenChar c then some .value else none
  | .quoteStart, c => if isQuotable c then some .quoted else none
  | .quoted, c => if c = '"' then some .closed else if isQuotable c then some .quoted else none
  | .closed, c => if c = ';' then some .start else if c = ' ' then some .closed else none

def Place.isEnd : Place → Bool
  | .start | .valueStart | .value | .closed => true
  | .name | .quoteStart | .quoted => false

/-- parameters, from behind the first semicolon -/
def areParameters (cs : List Char) : Bool :=
  match cs.foldlM Place.step? .start with
  | some p => p.isEnd
  | none => false

/-! ## Types -/

/-- a subtype without and with its suffix: what stands behind the last plus sign, if it is not the
first character -/
def splitSuffix : List Char → List Char × Option (List Char)
  | [] => ([], none)
  | c :: cs =>
    let r := cs.reverse
    match r.dropWhile (· != '+') with
    | [] => (c :: cs, none)
    | _ :: front => (c :: front.reverse, some (r.takeWhile (· != '+')).reverse)

def lower (cs : List Char) : String :=
  String.ofList (cs.map Char.toLower)

def ofText? (s : String) : Option MediaType := do
  let cs := s.toList
  let type := cs.takeWhile isTokenChar
  let '/' :: cs := cs.dropWhile isTokenChar | none
  if type.isEmpty then none
  let subtype := cs.takeWhile isTokenChar
  match cs.dropWhile isTokenChar with
  | [] => pure ()
  | ';' :: ps => if subtype.isEmpty || !areParameters ps then none
  | _ => none
  let (front, suffix) := splitSuffix subtype
  pure { type := lower type, subtype := lower front, suffix := suffix.map lower }

def isJson (m : MediaType) : Bool :=
  m.type == "application" && (m.subtype == "json" || m.suffix == some "json")

end MediaType

end WidgetBoard.Http
