import Rolebook.Text.Decimal

/-!
Written JSON numbers, and whether they are finite in double precision. A number is worked out in three
roundings: its significand, which is as many of its first digits as fit a word of 64 bits, is rounded,
then the power of ten, then their product. Next to the greatest finite number the outcome may differ
from that of one rounding of the exact number.
-/

namespace Rolebook.Json

/-- A written number, without its sign: the digits before and behind its point, and its exponent. -/
structure Numeral where
  whole : List Nat
  fraction : List Nat
  exponent : Int
  deriving DecidableEq

namespace Numeral

def digits? (written : List Char) : Option (List Nat × List Char) :=
  match (written.takeWhile fun character => (Text.digitValue? character).isSome).filterMap
      Text.digitValue? with
  | [] => none
  | digits => some (digits, written.drop digits.length)

def fraction? : List Char → Option (List Nat × List Char)
  | '.' :: rest => digits? rest
  | written => some ([], written)

def exponent? : List Char → Option (Int × List Char)
  | 'e' :: rest | 'E' :: rest => do
      let (negative, unsigned) :=
        match rest with
        | '-' :: unsigned => (true, unsigned)
        | '+' :: unsigned => (false, unsigned)
        | unsigned => (false, unsigned)
      let (digits, after) ← digits? unsigned
      let size : Nat := digits.foldl (fun number digit => number * 10 + digit) 0
      return (if negative then -size else size, after)
  | written => some (0, written)

/-- The number at the front of a text, and what follows. A zero is not followed by a digit. -/
def read? (written : List Char) : Option (Numeral × List Char) := do
  let unsigned :=
    match written with
    | '-' :: unsigned => unsigned
    | unsigned => unsigned
  let (whole, afterWhole) ← digits? unsigned
  if whole.head? = some 0 ∧ whole.length ≠ 1 then none
  let (fraction, afterFraction) ← fraction? afterWhole
  let (exponent, rest) ← exponent? afterFraction
  return (⟨whole, fraction, exponent⟩, rest)

/-- Appends digits to a significand up to the first one with which it would leave 64 bits, and tells how
many were left out. -/
def extend (significand : Nat) : List Nat → Nat × Nat
  | [] => (significand, 0)
  | digit :: rest =>
      if significand * 10 + digit < UInt64.size then extend (significand * 10 + digit) rest
      else (significand, rest.length + 1)

/-- The significand and its power of ten. A digit that is left out before the point adds a power, and one
that is taken behind the point takes a power away. -/
def scaled (numeral : Numeral) : Nat × Int :=
  let (front, omitted) := extend 0 numeral.whole
  let (significand, ignored) := extend front numeral.fraction
  (significand, omitted + ignored - numeral.fraction.length + numeral.exponent)

/-- The nearest number of 53 significant bits, or of two such numbers the one whose last bit is zero. -/
def nearest (number : Nat) : Nat :=
  let unit := Nat.pow 2 (number.log2 + 1 - 53)
  let kept := number / unit
  let lost := number % unit
  if 2 * lost < unit ∨ 2 * lost = unit ∧ kept % 2 = 0 then kept * unit else (kept + 1) * unit

/-- Whether the number is finite in double precision. Powers above the 308th are not worked out. -/
def isFinite (numeral : Numeral) : Bool :=
  let (significand, power) := numeral.scaled
  if significand = 0 ∨ power < 0 then true
  else if 308 < power then false
  else decide (nearest (nearest significand * nearest (Nat.pow 10 power.toNat)) < Nat.pow 2 1024)

end Numeral

end Rolebook.Json
