/-!
# Percent encoding of path segments

A segment of a path is written byte by byte (UTF-8).  Letters, digits and `-` `.` `_` `~` stand for
themselves; every other byte is `%` with two upper-case hexadecimal digits, so a written segment
holds no `/`, `?`, `#` or `%` of its own.

* `encode`       a segment as it is written;
* `decodeBytes`  the bytes meant by a written segment: `%` with two hexadecimal digits (of either
  case) is one byte, and a `%` without them stands for itself;
* `decode?`      the same as a text, if the bytes are UTF-8.

Main statement: `decodeBytes_encodeBytes`.
-/

namespace WidgetBoard.Text.Percent

/-- letters, digits, `-`, `.`, `_`, `~` -/
def isUnreserved (b : UInt8) : Bool :=
  let n := b.toNat
  (65 ≤ n && n ≤ 90) || (97 ≤ n && n ≤ 122) || (48 ≤ n && n ≤ 57)
    || n == 45 || n == 46 || n == 95 || n == 126

/-- the byte of an upper-case hexadecimal digit -/
def hexDigit (n : Nat) : UInt8 :=
  UInt8.ofNat (if n < 10 then 48 + n else 55 + n)

def hexValue? (b : UInt8) : Option Nat :=
  let n := b.toNat
  if 48 ≤ n ∧ n ≤ 57 then some (n - 48)
  else if 65 ≤ n ∧ n ≤ 70 then some (n - 55)
  else if 97 ≤ n ∧ n ≤ 102 then some (n - 87)
  else none

/-- the byte of `%` -/
def percent : UInt8 := 37

def encodeByte (b : UInt8) : List UInt8 :=
  if isUnreserved b then [b] else [percent, hexDigit (b.toNat / 16), hexDigit (b.toNat % 16)]

def encodeBytes (bs : List UInt8) : List UInt8 :=
  bs.flatMap encodeByte

def decodeBytes : List UInt8 → List UInt8
  | b :: hi :: lo :: rest =>
    if b = percent then
      match hexValue? hi, hexValue? lo with
      | some h, some l => UInt8.ofNat (16 * h + l) :: decodeBytes rest
      | _, _ => b :: decodeBytes (hi :: lo :: rest)
    else b :: decodeBytes (hi :: lo :: rest)
  | bs => bs

/-! ## Texts -/

def bytes (s : String) : List UInt8 :=
  s.toUTF8.data.toList

def encode (s : String) : String :=
  String.ofList ((encodeBytes (bytes s)).map fun b => Char.ofNat b.toNat)

def decode? (s : String) : Option String :=
  String.fromUTF8? ⟨(decodeBytes (bytes s)).toArray⟩

/-! ## Reading back what was written -/

theorem hexValue?_hexDigit {n : Nat} (h : n < 16) : hexValue? (hexDigit n) = some n := by
  have : ∀ n : Fin 16, hexValue? (hexDigit n.val) = some n.val := by decide
  exact this ⟨n, h⟩

theorem not_percent_of_isUnreserved {b : UInt8} (h : isUnreserved b = true) : b ≠ percent := by
  rintro rfl
  exact absurd h (by decide)

theorem decodeBytes_cons_of_ne {b : UInt8} (h : b ≠ percent) (bs : List UInt8) :
    decodeBytes (b :: bs) = b :: decodeBytes bs := by
  match bs with
  | [] => rfl
  | [_] => rfl
  | _ :: _ :: _ => rw [decodeBytes, if_neg h]

theorem decodeBytes_encodeByte_append (b : UInt8) (bs : List UInt8) :
    decodeBytes (encodeByte b ++ bs) = b :: decodeBytes bs := by
  unfold encodeByte
  split
  · next h => exact decodeBytes_cons_of_ne (not_percent_of_isUnreserved h) bs
  · have hb := b.toNat_lt
    simp only [List.cons_append, List.nil_append, decodeBytes, if_true]
    rw [hexValue?_hexDigit (by omega), hexValue?_hexDigit (by omega)]
    simp [Nat.div_add_mod]

theorem decodeBytes_encodeBytes (bs : List UInt8) : decodeBytes (encodeBytes bs) = bs := by
  unfold encodeBytes
  induction bs with
  | nil => rfl
  | cons b bs ih => rw [List.flatMap_cons, decodeBytes_encodeByte_append, ih]

end WidgetBoard.Text.Percent
