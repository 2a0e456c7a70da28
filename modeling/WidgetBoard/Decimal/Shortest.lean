/-!
# The shortest decimal that reads back

A finite positive double is `m · 2^q` with natural `m`.  The reals that round to it form an interval
around it, half a unit wide on each side (a quarter below a power of two), whose ends belong to it
exactly when `m` is even.  Of the decimals in that interval the ones with the fewest digits are
taken, and of those the nearest to the double.

* `Binary`     a positive double as `m · 2^q`, with the interval in quarter units of `2^q`;
* `shortest`   the digits and the power of ten of the shortest decimal;
* `Layout`     where positional notation ends; `render` writes a double in it.

All arithmetic is exact, on natural numbers.
-/

namespace WidgetBoard.Decimal

/-! ## A double as a fraction -/

/-- `m · 2^q`, where `narrow` says that the doubles below lie twice as close -/
structure Binary where
  m : Nat
  q : Int
  narrow : Bool
  deriving Repr, DecidableEq

/-- the magnitude of a finite double -/
def Binary.ofBits (bits : UInt64) : Binary :=
  let fraction := bits.toNat % Nat.pow 2 52
  let exponent := bits.toNat / Nat.pow 2 52 % Nat.pow 2 11
  if exponent = 0 then ⟨fraction, -1074, false⟩
  else ⟨Nat.pow 2 52 + fraction, Int.ofNat exponent - 1075, fraction = 0 && exponent ≠ 1⟩

/-- `n · 2^k`, as numerator and denominator -/
def binaryFraction (n : Nat) (k : Int) : Nat × Nat :=
  if 0 ≤ k then (n * Nat.pow 2 k.toNat, 1) else (n, Nat.pow 2 (-k).toNat)

/-- the unit `10^g`, as numerator and denominator -/
def tenthPower (g : Int) : Nat × Nat :=
  if 0 ≤ g then (Nat.pow 10 g.toNat, 1) else (1, Nat.pow 10 (-g).toNat)

/-- does `d · 10^g` round to the double? -/
def Binary.holds (b : Binary) (d : Nat) (g : Int) : Bool :=
  let (tn, td) := tenthPower g
  let (lo, scale) := binaryFraction (4 * b.m - (if b.narrow then 1 else 2)) (b.q - 2)
  let (hi, _) := binaryFraction (4 * b.m + 2) (b.q - 2)
  let x := d * tn * scale
  if b.m % 2 = 0 then lo * td ≤ x && x ≤ hi * td else lo * td < x && x < hi * td

/-- the distance of `d · 10^g` from the double, in a unit that depends on `g` alone -/
def Binary.distance (b : Binary) (d : Nat) (g : Int) : Nat :=
  let (tn, td) := tenthPower g
  let (n, scale) := binaryFraction b.m b.q
  let x := d * tn * scale
  let v := n * td
  if x ≤ v then v - x else x - v

/-- the greatest multiple of `10^g` that is not above the double -/
def Binary.below (b : Binary) (g : Int) : Nat :=
  let (tn, td) := tenthPower g
  let (n, scale) := binaryFraction b.m b.q
  n * td / (tn * scale)

/-- the nearer of the two multiples of `10^g` around the double, among those that round to it; at
equal distance the even one -/
def Binary.nearest? (b : Binary) (g : Int) : Option Nat :=
  let d := b.below g
  match b.holds d g, b.holds (d + 1) g with
  | false, false => none
  | true, false => some d
  | false, true => some (d + 1)
  | true, true =>
    let lo := b.distance d g
    let hi := b.distance (d + 1) g
    if lo < hi || (lo == hi && d % 2 == 0) then some d else some (d + 1)

/-! ## Fewest digits -/

/-- the number of decimal digits of `n` -/
def digitCount (n : Nat) : Nat :=
  (toString n).length

/-- the number `g` with `10^g ≤ m · 2^q < 10^(g+1)` -/
def Binary.magnitude (b : Binary) : Int :=
  let (n, d) := binaryFraction b.m b.q
  if d ≤ n then (digitCount (n / d) : Int) - 1
  else
    let k := digitCount d - digitCount n
    if d ≤ n * Nat.pow 10 k then -(k : Int) else -(k : Int) - 1

/-- tries `10^g`, then units ten times finer, at most `fuel` times -/
def Binary.search (b : Binary) : Nat → Int → Nat × Int
  | 0, g => (b.below g, g)
  | fuel + 1, g =>
    match b.nearest? g with
    | some d => (d, g)
    | none => b.search fuel (g - 1)

/-- drops trailing zeros of the digits into the power of ten -/
def dropZeros : Nat → Nat × Int → Nat × Int
  | 0, p => p
  | fuel + 1, (d, g) => if d % 10 = 0 ∧ d ≠ 0 then dropZeros fuel (d / 10, g + 1) else (d, g)

/-- `(d, g)` with `d · 10^g` the shortest decimal that reads back; seventeen digits always do -/
def Binary.shortest (b : Binary) : Nat × Int :=
  dropZeros 20 (b.search 17 b.magnitude)

/-! ## Writing -/

/-- where positional notation ends: the point lies after at most `whole` digits, and at most
`leading` zeros follow a point in front -/
structure Layout where
  whole : Int
  leading : Int

def zeroDigits (n : Int) : String :=
  String.ofList (List.replicate n.toNat '0')

/-- writes `d · 10^g`; a whole number keeps one zero after the point -/
def Layout.write (l : Layout) (d : Nat) (g : Int) : String :=
  let s := toString d
  let cs := s.toList
  let point := cs.length + g
  if 0 ≤ g ∧ point ≤ l.whole then s ++ zeroDigits g ++ ".0"
  else if 0 < point ∧ point ≤ l.whole then
    String.ofList (cs.take point.toNat) ++ "." ++ String.ofList (cs.drop point.toNat)
  else if -l.leading ≤ point ∧ point ≤ 0 then "0." ++ zeroDigits (-point) ++ s
  else
    let mantissa := match cs with
      | c :: r@(_ :: _) => String.ofList (c :: '.' :: r)
      | _ => s
    mantissa ++ "e" ++ toString (point - 1)

/-- a finite double; zero keeps its sign -/
def Layout.render (l : Layout) (f : Float) : String :=
  let bits := f.toBits
  let magnitude :=
    if bits.toNat % Nat.pow 2 63 = 0 then "0.0"
    else
      let (d, g) := (Binary.ofBits bits).shortest
      l.write d g
  if bits.toNat / Nat.pow 2 63 = 1 then "-" ++ magnitude else magnitude

end WidgetBoard.Decimal
