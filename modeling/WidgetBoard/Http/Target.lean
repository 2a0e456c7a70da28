/-!
# Targets of requests

A request names what it is for by a target:

* a path, as in `/healthz?full#top`, with a query and a fragment that may follow;
* an address, as in `http://host:80/healthz`, which has a scheme and an authority in front;
* an authority alone, as in `host:80`;
* an asterisk.

Main definitions:

* `Target.path?`         the path of a target, as written there; none if it is no target;
* `Target.isAuthority`   a host, with a user in front and a number behind it or without them.
-/

namespace WidgetBoard.Http.Target

/-! ## Paths -/

/-- printable, but for `<`, `>` and the grave accent; what is beyond ASCII may stand too -/
def isPathChar (c : Char) : Bool :=
  0x21 ≤ c.toNat && !"#<>?".contains c && c.toNat != 0x60

/-- printable, but for `"`, `<` and `>`; what is beyond ASCII may stand too -/
def isQueryChar (c : Char) : Bool :=
  0x21 ≤ c.toNat && !"\"#<>".contains c

def isPathEnd (c : Char) : Bool :=
  c == '?' || c == '#'

/-- the path in front of a query and a fragment; a fragment is not looked at -/
def pathBeforeQuery? (cs : List Char) : Option String :=
  let path := cs.takeWhile fun c => !isPathEnd c
  let query := (cs.dropWhile fun c => !isPathEnd c).takeWhile (· != '#')
  if path.all isPathChar && query.all isQueryChar then some (String.ofList path) else none

/-! ## Authorities -/

/-- what is remembered of the characters of an authority; the first two are forgotten at the end of a
user and of a host in brackets, where both may stand freely -/
structure Progress where
  colons : Nat := 0
  /-- a percent sign stands there -/
  escaped : Bool := false
  opened : Bool := false
  closed : Bool := false
  /-- the last character is the end of a user -/
  user : Bool := false
  deriving DecidableEq, Repr

/-- the characters without a meaning of their own in an authority -/
def isHostChar (c : Char) : Bool :=
  c.isAlphanum || "!$&'()*+,-.;=_~".contains c

/-- one character further; eight colons are enough for any host in brackets -/
def Progress.step? (p : Progress) (c : Char) : Option Progress :=
  let p := { p with user := false }
  match c with
  | ':' => if p.colons < 8 then some { p with colons := p.colons + 1 } else none
  | '[' => if p.escaped || p.opened then none else some { p with opened := true }
  | ']' =>
    if p.opened && !p.closed then some { p with colons := 0, escaped := false, closed := true }
    else none
  | '@' => some { p with colons := 0, escaped := false, user := true }
  | '%' => some { p with escaped := true }
  | c => if isHostChar c then some p else none

/-- the brackets are closed, and behind the user stands a host with at most one number -/
def Progress.isEnd (p : Progress) : Bool :=
  p.opened == p.closed && p.colons ≤ 1 && !p.escaped && !p.user

def isAuthority (cs : List Char) : Bool :=
  match cs.foldlM Progress.step? {} with
  | some p => !cs.isEmpty && p.isEnd
  | none => false

/-! ## Targets -/

def isSchemeChar (c : Char) : Bool :=
  c.isAlphanum || "+-.~".contains c

/-- what stands behind the scheme of an address -/
def afterScheme? (cs : List Char) : Option (List Char) :=
  match cs.dropWhile isSchemeChar with
  | ':' :: '/' :: '/' :: rest => if (cs.takeWhile isSchemeChar).length ≤ 64 then some rest else none
  | _ => none

/-- the path of an address, from behind its scheme; an empty one is a slash -/
def addressPath? (cs : List Char) : Option String :=
  let isEnd (c : Char) : Bool := c == '/' || isPathEnd c
  if isAuthority (cs.takeWhile fun c => !isEnd c) then
    (pathBeforeQuery? (cs.dropWhile fun c => !isEnd c)).map fun p => if p.isEmpty then "/" else p
  else none

/-- in bytes -/
def maxLength : Nat := 65534

/-- an authority alone has an empty path, and the path of an asterisk is an asterisk -/
def path? (target : String) : Option String :=
  if maxLength < target.utf8ByteSize then none
  else match target.toList with
    | ['*'] => some "*"
    | '/' :: cs => pathBeforeQuery? ('/' :: cs)
    | cs => match afterScheme? cs with
      | some rest => addressPath? rest
      | none => if isAuthority cs then some "" else none

end WidgetBoard.Http.Target
