import WidgetBoard.Dictionary

/-!
# JSON values

* `Number`        an integer, or a double when the text has a fraction, an exponent or too many
                  digits for 64 bits;
* `Json`          a value as it stands in a text: members keep their order and may repeat a key, and
                  a place that cannot be read is marked, so that what comes before it still can;
* `Json.intact`   nothing in a value keeps a reader from going on behind it;
* `Json.settle?`  the value meant: the members of every object sorted by key, the last of a repeated
                  key kept.

Main statement: `Json.eq_of_beq` (equality of values is decidable).
-/

namespace WidgetBoard

instance decidableEqFloat : DecidableEq Float := fun a b =>
  decidable_of_iff (a.toBits = b.toBits) ⟨fun h => by
    obtain ⟨⟨x, hx⟩⟩ := a
    obtain ⟨⟨y, hy⟩⟩ := b
    obtain rfl : x = y := h
    rfl, fun h => h ▸ rfl⟩

inductive Number where
  | int (i : Int)
  | real (f : Float)
  deriving DecidableEq, Repr

/-- the double nearest to a number -/
def Number.toFloat : Number → Float
  | .int i => Float.ofInt i
  | .real f => f

inductive Json where
  | null
  | bool (b : Bool)
  | num (n : Number)
  | str (s : String)
  | arr (items : List Json)
  | obj (members : List (String × Json))
  /-- no value: the text ends or is malformed here, or (`passable`) what stands here is well formed
  but means no value, such as a number beyond the doubles -/
  | broken (passable : Bool)
  /-- in the place of a member whose key cannot be read, with the value of that member -/
  | keyless (value : Json)
  deriving Repr, Inhabited

namespace Json

/-! ## Equality -/

mutual

def beq : Json → Json → Bool
  | .null, .null => true
  | .bool a, .bool b => a == b
  | .num a, .num b => a == b
  | .str a, .str b => a == b
  | .arr xs, .arr ys => beqItems xs ys
  | .obj ms, .obj ns => beqMembers ms ns
  | .broken a, .broken b => a == b
  | .keyless a, .keyless b => beq a b
  | _, _ => false

def beqItems : List Json → List Json → Bool
  | [], [] => true
  | x :: xs, y :: ys => beq x y && beqItems xs ys
  | _, _ => false

def beqMembers : List (String × Json) → List (String × Json) → Bool
  | [], [] => true
  | (k, x) :: ms, (l, y) :: ns => k == l && beq x y && beqMembers ms ns
  | _, _ => false

end

mutual

theorem beq_self : (a : Json) → beq a a = true
  | .null => rfl
  | .bool _ | .num _ | .str _ | .broken _ => by simp [beq]
  | .arr xs => by rw [beq, beqItems_self xs]
  | .obj ms => by rw [beq, beqMembers_self ms]
  | .keyless a => by rw [beq, beq_self a]

theorem beqItems_self : (xs : List Json) → beqItems xs xs = true
  | [] => rfl
  | x :: xs => by rw [beqItems, beq_self x, beqItems_self xs]; rfl

theorem beqMembers_self : (ms : List (String × Json)) → beqMembers ms ms = true
  | [] => rfl
  | (k, x) :: ms => by simp [beqMembers, beq_self x, beqMembers_self ms]

end

mutual

theorem eq_of_beq : (a b : Json) → beq a b = true → a = b
  | .null, b, h => by cases b <;> simp_all [beq]
  | .bool _, b, h => by cases b <;> simp_all [beq]
  | .num _, b, h => by cases b <;> simp_all [beq]
  | .str _, b, h => by cases b <;> simp_all [beq]
  | .broken _, b, h => by cases b <;> simp_all [beq]
  | .arr xs, b, h => by
    cases b with
    | arr ys => rw [eq_of_beqItems xs ys (by simpa [beq] using h)]
    | _ => simp [beq] at h
  | .obj ms, b, h => by
    cases b with
    | obj ns => rw [eq_of_beqMembers ms ns (by simpa [beq] using h)]
    | _ => simp [beq] at h
  | .keyless a, b, h => by
    cases b with
    | keyless c => rw [eq_of_beq a c (by simpa [beq] using h)]
    | _ => simp [beq] at h

theorem eq_of_beqItems : (xs ys : List Json) → beqItems xs ys = true → xs = ys
  | [], ys, h => by cases ys <;> simp_all [beqItems]
  | x :: xs, ys, h => by
    cases ys with
    | nil => simp [beqItems] at h
    | cons y ys =>
      simp only [beqItems, Bool.and_eq_true] at h
      rw [eq_of_beq x y h.1, eq_of_beqItems xs ys h.2]

theorem eq_of_beqMembers :
    (ms ns : List (String × Json)) → beqMembers ms ns = true → ms = ns
  | [], ns, h => by cases ns <;> simp_all [beqMembers]
  | (k, x) :: ms, ns, h => by
    cases ns with
    | nil => simp [beqMembers] at h
    | cons n ns =>
      obtain ⟨l, y⟩ := n
      simp only [beqMembers, Bool.and_eq_true, beq_iff_eq] at h
      rw [h.1.1, eq_of_beq x y h.1.2, eq_of_beqMembers ms ns h.2]

end

instance : DecidableEq Json := fun a b =>
  decidable_of_iff (beq a b = true) ⟨eq_of_beq a b, fun h => h ▸ beq_self a⟩

/-! ## Places that cannot be read -/

mutual

/-- nothing in it keeps a reader from going on behind it -/
def intact : Json → Bool
  | .arr xs => itemsIntact xs
  | .obj ms => membersIntact ms
  | .broken passable => passable
  | .keyless value => intact value
  | _ => true

def itemsIntact : List Json → Bool
  | [] => true
  | x :: xs => intact x && itemsIntact xs

def membersIntact : List (String × Json) → Bool
  | [] => true
  | (_, x) :: ms => intact x && membersIntact ms

end

/-! ## The value meant -/

mutual

/-- the value with sorted members, the last of a repeated key kept; none if a place cannot be
read -/
def settle? : Json → Option Json
  | .arr xs => (settleItems? xs).map .arr
  | .obj ms => (settleMembers? [] ms).map .obj
  | .broken _ | .keyless _ => none
  | j => some j

def settleItems? : List Json → Option (List Json)
  | [] => some []
  | x :: xs => do
    let y ← settle? x
    let ys ← settleItems? xs
    pure (y :: ys)

def settleMembers? (sorted : List (String × Json)) :
    List (String × Json) → Option (List (String × Json))
  | [] => some sorted
  | (k, x) :: ms => do
    let y ← settle? x
    settleMembers? (insertEntry k y sorted) ms

end

/-! ## Records -/

/-- an object without the members that have no value -/
def record (fields : List (String × Option Json)) : Json :=
  .obj (fields.filterMap fun f => f.2.map fun j => (f.1, j))

def ofNat (n : Nat) : Json := .num (.int n)

/-- the member of an object; null when it is missing -/
def member (j : Json) (k : String) : Json :=
  match j with
  | .obj ms => (ms.lookup k).getD .null
  | _ => .null

end Json

end WidgetBoard
