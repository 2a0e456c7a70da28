import WidgetBoard.Decimal.Reading
import WidgetBoard.Json.Basic

/-!
# Reading JSON text

A reader takes characters from the front of the text and gives the value with the characters that
are left.  Where the text breaks, the value so far is closed and the broken place is marked in it:
a reader of the value meets the same things in the same order as one that goes through the text.

* `lexString?`     the characters of a string, its escapes as UTF-16 units;
* `joinUnits?`     the units joined into characters, if all surrogates are paired;
* `lexNumber?`     the digits of a number;
* `Numeral.value?` the number meant;
* `Json.ofText`    the value at the front of a text;
* `Json.ofWholeText`  the same, where only blanks may follow.
-/

namespace WidgetBoard.Json

/-- the blanks of JSON: space, tab, line feed, carriage return -/
def isJsonBlank (c : Char) : Bool :=
  c == ' ' || c == '\t' || c == '\n' || c == '\r'

def skipBlanks (cs : List Char) : List Char :=
  cs.dropWhile isJsonBlank

/-! ## Strings -/

/-- a piece of a string: a character that stands for itself, or a unit given by number -/
inductive Piece where
  | char (c : Char)
  | unit (n : Nat)

def hexValue? (c : Char) : Option Nat :=
  if '0' ≤ c ∧ c ≤ '9' then some (c.toNat - 48)
  else if 'A' ≤ c ∧ c ≤ 'F' then some (c.toNat - 55)
  else if 'a' ≤ c ∧ c ≤ 'f' then some (c.toNat - 87)
  else none

/-- the character of a one-letter escape -/
def escape? : Char → Option Char
  | '"' => some '"'
  | '\\' => some '\\'
  | '/' => some '/'
  | 'b' => some '\x08'
  | 'f' => some '\x0c'
  | 'n' => some '\n'
  | 'r' => some '\r'
  | 't' => some '\t'
  | _ => none

/-- the pieces up to the closing quote, which is left out, and the rest -/
def lexString? : List Char → Option (List Piece × List Char)
  | [] => none
  | '"' :: rest => some ([], rest)
  | '\\' :: 'u' :: a :: b :: c :: d :: rest => do
    let n := 4096 * (← hexValue? a) + 256 * (← hexValue? b) + 16 * (← hexValue? c) + (← hexValue? d)
    let (ps, rest) ← lexString? rest
    pure (.unit n :: ps, rest)
  | '\\' :: c :: rest => do
    let e ← escape? c
    let (ps, rest) ← lexString? rest
    pure (.char e :: ps, rest)
  | c :: rest =>
    if c.toNat < 0x20 then none
    else do
      let (ps, rest) ← lexString? rest
      pure (.char c :: ps, rest)

def isHighSurrogate (n : Nat) : Bool := 0xD800 ≤ n && n < 0xDC00

def isLowSurrogate (n : Nat) : Bool := 0xDC00 ≤ n && n < 0xE000

def joinUnits? : List Piece → Option (List Char)
  | [] => some []
  | .char c :: ps => (joinUnits? ps).map (c :: ·)
  | .unit n :: ps =>
    if isHighSurrogate n then
      match ps with
      | .unit m :: qs =>
        if isLowSurrogate m then
          (joinUnits? qs).map
            (Char.ofNat (0x10000 + 1024 * (n - 0xD800) + (m - 0xDC00)) :: ·)
        else none
      | _ => none
    else if isLowSurrogate n then none
    else (joinUnits? ps).map (Char.ofNat n :: ·)

/-! ## Numbers -/

/-- a number as written: `frac` is empty when there is no point -/
structure Numeral where
  negative : Bool
  whole : List Char
  frac : List Char
  exponent : Option Int

def digitValue (c : Char) : Nat :=
  c.toNat - 48

def digitsValue (ds : List Char) : Nat :=
  ds.foldl (fun n d => 10 * n + digitValue d) 0

def takeDigits (cs : List Char) : List Char × List Char :=
  (cs.takeWhile Char.isDigit, cs.dropWhile Char.isDigit)

/-- the exponent of a number, from behind its `e` -/
def lexExponent? (cs : List Char) : Option (Int × List Char) :=
  let (negative, cs) := match cs with
    | '+' :: r => (false, r)
    | '-' :: r => (true, r)
    | _ => (false, cs)
  match takeDigits cs with
  | ([], _) => none
  | (ds, rest) =>
    let n := Int.ofNat (digitsValue ds)
    some (if negative then -n else n, rest)

/-- a number at the front of the text: no needless zero in front, a digit on both sides of a
point, a digit in an exponent -/
def lexNumber? (cs : List Char) : Option (Numeral × List Char) := do
  let (negative, cs) := match cs with
    | '-' :: r => (true, r)
    | _ => (false, cs)
  let (whole, cs) := takeDigits cs
  if whole.isEmpty || (whole.head? == some '0' && whole.length > 1) then none
  let (frac, cs) ← match cs with
    | '.' :: r =>
      match takeDigits r with
      | ([], _) => none
      | p => some p
    | _ => some ([], cs)
  let (exponent, cs) ← match cs with
    | 'e' :: r | 'E' :: r => (lexExponent? r).map fun p => (some p.1, p.2)
    | _ => some (none, cs)
  pure (⟨negative, whole, frac, exponent⟩, cs)

/-- the greatest significand that is kept in full: 64 bits -/
def maxSignificand : Nat := Nat.pow 2 64 - 1

/-- appends digits to a significand while it fits, and counts the digits used -/
def growSignificand (m : Nat) : List Char → Nat × Nat
  | [] => (m, 0)
  | d :: ds =>
    let n := 10 * m + digitValue d
    if n ≤ maxSignificand then
      let (m, used) := growSignificand n ds
      (m, used + 1)
    else (m, 0)

/-- the number meant: an integer without point and exponent stays one when 64 bits hold it; a
double is refused when it is not finite -/
def Numeral.value? (x : Numeral) : Option Number :=
  let (m, used) := growSignificand 0 x.whole
  let dropped := x.whole.length - used
  let (m', used') := growSignificand m x.frac
  let real (m : Nat) (e : Int) : Option Number :=
    (Decimal.scale? m e).map fun f => .real (if x.negative then -f else f)
  if x.frac.isEmpty && x.exponent.isNone then
    if dropped > 0 then real m dropped
    else if !x.negative then some (.int m)
    else if 0 < m && m ≤ Nat.pow 2 63 then some (.int (-m))
    else real m 0
  else real m' (Int.ofNat dropped - used' + x.exponent.getD 0)

/-! ## Values -/

/-- so many brackets may stand open at once -/
def maxDepth : Nat := 127

/-- a bracketed value with `depth` brackets open around it; where they are too many it can only be
passed over, if nothing in it is malformed -/
def limitDepth (depth : Nat) (j : Json) : Json :=
  if depth < maxDepth then j else .broken j.intact

/-- in the place of the members from a key on that is no string -/
def noKey : List (String × Json) :=
  [("", .keyless (.broken false))]

/-- a member whose key has these characters, if they could be read -/
def keyed (key : Option (List Char)) (value : Json) : String × Json :=
  match key with
  | some cs => (String.ofList cs, value)
  | none => ("", .keyless value)

def readString (cs : List Char) : Json × Option (List Char) :=
  match lexString? cs with
  | none => (.broken false, none)
  | some (ps, rest) =>
    match joinUnits? ps with
    | some chars => (.str (String.ofList chars), some rest)
    | none => (.broken true, some rest)

def readNumber (cs : List Char) : Json × Option (List Char) :=
  match lexNumber? cs with
  | none => (.broken false, none)
  | some (x, rest) =>
    match x.value? with
    | some n => (.num n, some rest)
    | none => (.broken true, some rest)

mutual

/-- the value at the front of the text, and what is left of the text unless it broke -/
def readValue : Nat → Nat → List Char → Json × Option (List Char)
  | 0, _, _ => (.broken false, none)
  | fuel + 1, depth, cs =>
    match skipBlanks cs with
    | 'n' :: 'u' :: 'l' :: 'l' :: rest => (.null, some rest)
    | 't' :: 'r' :: 'u' :: 'e' :: rest => (.bool true, some rest)
    | 'f' :: 'a' :: 'l' :: 's' :: 'e' :: rest => (.bool false, some rest)
    | '"' :: rest => readString rest
    | '[' :: rest =>
      match skipBlanks rest with
      | ']' :: rest => (limitDepth depth (.arr []), some rest)
      | rest =>
        let (xs, rest) := readItems fuel (depth + 1) rest
        (limitDepth depth (.arr xs), rest)
    | '\x7b' :: rest =>
      match skipBlanks rest with
      | '\x7d' :: rest => (limitDepth depth (.obj []), some rest)
      | rest =>
        let (ms, rest) := readMembers fuel (depth + 1) rest
        (limitDepth depth (.obj ms), rest)
    | rest => readNumber rest

/-- one item and those behind it, up to the closing bracket -/
def readItems : Nat → Nat → List Char → List Json × Option (List Char)
  | 0, _, _ => ([.broken false], none)
  | fuel + 1, depth, cs =>
    match readValue fuel depth cs with
    | (x, none) => ([x], none)
    | (x, some rest) =>
      match skipBlanks rest with
      | ']' :: rest => ([x], some rest)
      | ',' :: rest =>
        let (xs, rest) := readItems fuel depth rest
        (x :: xs, rest)
      | _ => ([x, .broken false], none)

/-- one member and those behind it, up to the closing brace -/
def readMembers : Nat → Nat → List Char → List (String × Json) × Option (List Char)
  | 0, _, _ => (noKey, none)
  | fuel + 1, depth, cs =>
    match skipBlanks cs with
    | '"' :: rest =>
      match lexString? rest with
      | none => (noKey, none)
      | some (ps, rest) =>
        let member := keyed (joinUnits? ps)
        match skipBlanks rest with
        | ':' :: rest =>
          match readValue fuel depth rest with
          | (x, none) => ([member x], none)
          | (x, some rest) =>
            match skipBlanks rest with
            | '\x7d' :: rest => ([member x], some rest)
            | ',' :: rest =>
              let (ms, rest) := readMembers fuel depth rest
              (member x :: ms, rest)
            | _ => (member x :: noKey, none)
        | _ => ([member (.broken false)], none)
    | _ => (noKey, none)

end

/-- the value at the front of a text, and what is left of the text unless it broke -/
def read (s : String) : Json × Option (List Char) :=
  let cs := s.toList
  readValue (2 * cs.length + 2) 0 cs

/-- the value at the front of a text, whatever follows it -/
def ofText (s : String) : Json :=
  (read s).1

/-- the value of a text that holds nothing else -/
def ofWholeText (s : String) : Json :=
  match read s with
  | (j, some rest) => if (skipBlanks rest).isEmpty then j else .broken false
  | (j, none) => j

end WidgetBoard.Json
