import WidgetBoard.Decimal.Shortest
import WidgetBoard.Json.Basic

/-!
# Writing JSON text

Values are written without blanks.  A string is quoted, with an escape for the quote, the backslash
and the characters below a space; a double is written with the fewest digits that read back, and a
double that is not finite as `null`.
-/

namespace WidgetBoard

/-- positional up to sixteen digits in front of the point and four zeros behind it -/
def Number.layout : Decimal.Layout := ⟨16, 4⟩

def Number.render : Number → String
  | .int i => toString i
  | .real f => if f.isFinite then Number.layout.render f else "null"

namespace Json

def hexDigit (n : Nat) : Char :=
  Char.ofNat (if n < 10 then 48 + n else 87 + n)

def escapeChar (c : Char) : List Char :=
  if c = '"' then ['\\', '"']
  else if c = '\\' then ['\\', '\\']
  else if c = '\x08' then ['\\', 'b']
  else if c = '\t' then ['\\', 't']
  else if c = '\n' then ['\\', 'n']
  else if c = '\x0c' then ['\\', 'f']
  else if c = '\r' then ['\\', 'r']
  else if c.toNat < 0x20 then
    ['\\', 'u', '0', '0', hexDigit (c.toNat / 16), hexDigit (c.toNat % 16)]
  else [c]

def quote (s : String) : List Char :=
  '"' :: s.toList.flatMap escapeChar ++ ['"']

/-- puts a comma between pieces -/
def joinCommas : List (List Char) → List Char
  | [] => []
  | [p] => p
  | p :: q :: ps => p ++ ',' :: joinCommas (q :: ps)

mutual

def print : Json → List Char
  | .null => ['n', 'u', 'l', 'l']
  | .bool true => ['t', 'r', 'u', 'e']
  | .bool false => ['f', 'a', 'l', 's', 'e']
  | .num n => n.render.toList
  | .str s => quote s
  | .arr xs => '[' :: joinCommas (printItems xs) ++ [']']
  | .obj ms => '\x7b' :: joinCommas (printMembers ms) ++ ['\x7d']
  | .broken _ | .keyless _ => []

def printItems : List Json → List (List Char)
  | [] => []
  | x :: xs => print x :: printItems xs

def printMembers : List (String × Json) → List (List Char)
  | [] => []
  | (k, x) :: ms => (quote k ++ ':' :: print x) :: printMembers ms

end

def render (j : Json) : String :=
  String.ofList (print j)

end Json

end WidgetBoard
