import WidgetBoard.Json.Basic

/-!
# Reading typed values out of JSON

A reader takes a value apart from left to right and stops at the first fault: either the text is
malformed there, or what stands there is not what is wanted.

What is wanted of a record is a list of members.  They may stand as the members of an object, in any
order, or as the items of an array, in the order in which they are listed.

* `Reader α`             a function to `α` or the first `Fault`;
* `Reader.string`, `.bool`, `.natural`, `.below`, `.float`, `.named`, `.value`  single values;
* `Reader.list`, `.option`, `.dictionary`   values made of others;
* `Members α`            what is wanted of a record, member by member;
* `Members.ofObject`     an object that has those members, each at most once, among any others;
* `Members.ofArray`      an array of their values, without those at the end that may be missing;
* `Members.reader`       either of them; `Members.objectReader` takes objects alone.
-/

namespace WidgetBoard

inductive Fault where
  /-- the text is no JSON here -/
  | malformed
  /-- a wrong type, an unknown name, a number out of range, a missing or repeated member -/
  | mismatch
  deriving DecidableEq, Repr

abbrev Reader (α : Type) := Json → Except Fault α

namespace Reader

variable {α β : Type}

/-- the fault of a value of the wrong type -/
def wrongType : Json → Fault
  | .broken _ | .keyless _ => .malformed
  | _ => .mismatch

/-! ## Single values -/

def string : Reader String
  | .str s => .ok s
  | j => .error (wrongType j)

def bool : Reader Bool
  | .bool b => .ok b
  | j => .error (wrongType j)

/-- an integer that is not negative -/
def natural : Reader Nat
  | .num (.int i) => if 0 ≤ i then .ok i.toNat else .error .mismatch
  | j => .error (wrongType j)

/-- an integer from zero up to, not including, a bound -/
def below (bound : Nat) : Reader Nat := fun j => do
  let n ← natural j
  if n < bound then .ok n else .error .mismatch

def uint8 : Reader UInt8 := fun j => (below 256 j).map UInt8.ofNat

def uint16 : Reader UInt16 := fun j => (below 65536 j).map UInt16.ofNat

def uint32 : Reader UInt32 := fun j => (below 4294967296 j).map UInt32.ofNat

/-- any number, as a double -/
def float : Reader Float
  | .num n => .ok n.toFloat
  | j => .error (wrongType j)

/-- the value named by a text, or by an object whose one member has that key and is null; a value of
any other type is malformed, and so is a key that could not be read -/
def named (table : List (String × α)) : Reader α
  | .str s => match table.lookup s with
    | some a => .ok a
    | none => .error .mismatch
  | .obj ((_, .keyless _) :: _) => .error .malformed
  | .obj ((k, j) :: ms) => match table.lookup k, j with
    | none, _ => .error .mismatch
    | some a, .null => if ms.isEmpty then .ok a else .error .malformed
    | some _, j => .error (wrongType j)
  | _ => .error .malformed

/-- any value, settled -/
def value : Reader Json := fun j =>
  match j.settle? with
  | some v => .ok v
  | none => .error .malformed

/-- any value, which is thrown away -/
def skip : Reader Unit := fun j =>
  if j.intact then .ok () else .error .malformed

/-! ## Values made of others -/

/-- null is nothing -/
def option (r : Reader α) : Reader (Option α)
  | .null => .ok none
  | j => (r j).map some

def all (r : Reader α) : List Json → Except Fault (List α)
  | [] => .ok []
  | j :: js => do
    let a ← r j
    let as ← all r js
    .ok (a :: as)

def list (r : Reader α) : Reader (List α)
  | .arr js => all r js
  | j => .error (wrongType j)

def entries (r : Reader α) : List (String × Json) → Except Fault (List (String × α))
  | [] => .ok []
  | (k, j) :: ms => do
    let a ← r j
    let as ← entries r ms
    .ok ((k, a) :: as)

/-- an object as a dictionary: the last of a repeated key wins -/
def dictionary (r : Reader α) : Reader (Dictionary α)
  | .obj ms => (entries r ms).map Dictionary.ofList
  | j => .error (wrongType j)

end Reader

/-! ## Records -/

/-- what is wanted of a record: the members it knows, in order, each with a check of its value, and
the result made from a look-up of them -/
structure Members (α : Type) where
  known : List (String × Reader Unit)
  build : (String → Option Json) → Except Fault α

namespace Members

variable {α β : Type}

/-- nothing wanted -/
def of (a : α) : Members α where
  known := []
  build := fun _ => .ok a

def check (r : Reader α) : Reader Unit := fun j => (r j).map fun _ => ()

/-- one member more, with a value for when it is missing -/
def member (m : Members (α → β)) (k : String) (r : Reader α) (missing : Except Fault α) :
    Members β where
  known := m.known ++ [(k, check r)]
  build := fun find => do
    let f ← m.build find
    let a ← match find k with
      | some j => r j
      | none => missing
    .ok (f a)

/-- a member that must be there -/
def required (m : Members (α → β)) (k : String) (r : Reader α) : Members β :=
  m.member k r (.error .mismatch)

/-- a member that stands for `a` when it is missing -/
def withDefault (m : Members (α → β)) (k : String) (a : α) (r : Reader α) : Members β :=
  m.member k r (.ok a)

/-- a member that may be missing or null -/
def optional (m : Members (Option α → β)) (k : String) (r : Reader α) : Members β :=
  m.member k (Reader.option r) (.ok none)

/-! ### Objects -/

/-- goes through the members of an object from left to right: a known one stands at most once and
passes its check, any other is skipped -/
def scan (known : List (String × Reader Unit)) (seen : List String) :
    List (String × Json) → Except Fault Unit
  | [] => .ok ()
  | (_, .keyless _) :: _ => .error .malformed
  | (k, j) :: ms => match known.lookup k with
    | some r =>
      if k ∈ seen then .error .mismatch
      else do
        r j
        scan known (k :: seen) ms
    | none => do
      Reader.skip j
      scan known seen ms

def ofObject (m : Members α) (ms : List (String × Json)) : Except Fault α := do
  scan m.known [] ms
  m.build fun k => ms.lookup k

/-! ### Arrays -/

/-- goes through the items of an array from left to right: each passes the check of its member, and
there are no more items than members -/
def scanItems : List (String × Reader Unit) → List Json → Except Fault Unit
  | _, [] => .ok ()
  | [], _ :: _ => .error .malformed
  | (_, r) :: known, j :: js => do
    r j
    scanItems known js

/-- the items with the keys of their members -/
def label (known : List (String × Reader Unit)) (js : List Json) : List (String × Json) :=
  (known.map fun k => k.1).zip js

def ofArray (m : Members α) (js : List Json) : Except Fault α := do
  scanItems m.known js
  m.build fun k => (label m.known js).lookup k

/-! ### Readers -/

def objectReader (m : Members α) : Reader α
  | .obj ms => m.ofObject ms
  | j => .error (Reader.wrongType j)

def reader (m : Members α) : Reader α
  | .obj ms => m.ofObject ms
  | .arr js => m.ofArray js
  | j => .error (Reader.wrongType j)

end Members

end WidgetBoard
