/-!
# Reading a decimal number as a double

A decimal `m · 10^e` is read in one rounding step when it is short: the double nearest to `m` is
multiplied or divided by the double nearest to the power of ten.  A result beyond the finite doubles
is refused; one below them is zero.

* `power`   the doubles `10^0, …, 10^308`;
* `scale?`  the double read for `m · 10^e`.
-/

namespace WidgetBoard.Decimal

/-- the largest power of ten that is a finite double -/
def maxPower : Nat := 308

/-- the double nearest to `10^n` -/
def power (n : Nat) : Float :=
  Float.ofScientific 1 false n

/-- divides by `10^n`, in steps of at most `10^308` -/
def shrink (f : Float) (n : Nat) : Float :=
  if n ≤ maxPower then f / power n
  else if f == 0 then f
  else shrink (f / power maxPower) (n - maxPower)
termination_by n
decreasing_by
  simp_all only [maxPower]
  omega

/-- the double read for `m · 10^e`, if it is finite -/
def scale? (m : Nat) (e : Int) : Option Float :=
  if e < 0 then some (shrink (Float.ofNat m) (-e).toNat)
  else if e ≤ maxPower then
    let f := Float.ofNat m * power e.toNat
    if f.isInf then none else some f
  else if m = 0 then some 0 else none

end WidgetBoard.Decimal
