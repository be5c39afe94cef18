namespace SchemaWriter

/-- A double: a finite one is a sign and a count of units of `2 ^ -1074`. -/
inductive Binary64 where
  | nan
  | infinite (negative : Bool)
  | finite (negative : Bool) (units : Nat)
  deriving DecidableEq, Repr

namespace Binary64

def one : Nat := Nat.pow 2 1074

def limit : Nat := Nat.pow 2 2098

def gap (units : Nat) : Nat :=
  Nat.pow 2 (units.log2 - 52)

def roundDiv (num den : Nat) : Nat :=
  let q := num / den
  let r := num % den
  if den < 2 * r || (2 * r == den && q % 2 == 1) then q + 1 else q

def roundUnits (num den : Nat) : Nat :=
  let g := gap (num / den)
  roundDiv num (den * g) * g

def ofUnits (negative : Bool) (num den : Nat) : Binary64 :=
  let units := roundUnits num den
  if units < limit then .finite negative units else .infinite negative

def ofRatio (negative : Bool) (num den : Nat) : Binary64 :=
  ofUnits negative (num * one) den

inductive Tie where
  | up
  | even
  deriving DecidableEq, Repr

structure Decimal where
  digits : Nat
  exponent : Int
  deriving DecidableEq, Repr

/-- The numbers that round to a double, in quarters of a unit. The ends belong to them if the last
bit of the double is even; below a power of two the next double is half as far away. -/
structure Interval where
  low : Nat
  middle : Nat
  high : Nat
  closed : Bool
  deriving DecidableEq, Repr

def Interval.around (units : Nat) : Interval :=
  let g := gap units
  let below := if units = Nat.pow 2 units.log2 && 1 < g then g else 2 * g
  ⟨4 * units - below, 4 * units, 4 * units + 2 * g, units / g % 2 == 0⟩

def Interval.holds (i : Interval) (scale point : Nat) : Bool :=
  if i.closed then i.low * scale ≤ point && point ≤ i.high * scale
  else i.low * scale < point && point < i.high * scale

def Interval.gridPoint? (i : Interval) (tie : Tie) (exponent : Int) : Option Nat :=
  let scale := Nat.pow 10 (-exponent).toNat
  let step := 4 * one * Nat.pow 10 exponent.toNat
  let middle := i.middle * scale
  let below := middle / step
  let distance := middle - below * step
  let takeAbove :=
    step < 2 * distance ||
      (2 * distance == step && (tie == .up || below % 2 == 1))
  let first := if takeAbove then below + 1 else below
  let second := if takeAbove then below else below + 1
  if first ≠ 0 && i.holds scale (first * step) then some first
  else if second ≠ 0 && i.holds scale (second * step) then some second
  else none

def Interval.search (i : Interval) (tie : Tie) : Nat → Option Decimal
  | 0 => none
  | bound + 1 =>
    let exponent := (bound : Int) - 342
    match i.gridPoint? tie exponent with
    | some digits => some ⟨digits, exponent⟩
    | none => i.search tie bound

-- No power of ten above the bound lies near a count of units.
def decimalBound (units : Nat) : Nat :=
  (units.log2 + 1) * 30103 / 100000 + 22

def shortest (tie : Tie) (units : Nat) : Decimal :=
  ((Interval.around units).search tie (decimalBound units)).getD ⟨0, 0⟩

/-- The choices of a decimal format. Without `positional` every number is written without an
exponent, with it those whose first digit has an exponent in the half-open range. -/
structure Format where
  tie : Tie
  positional : Option (Int × Int)
  wholeFraction : Bool
  deriving DecidableEq, Repr

def Format.code : Format := ⟨.up, none, false⟩

def Format.json : Format := ⟨.even, some (-5, 16), true⟩

def digitText (n : Nat) : List Char :=
  Nat.toDigits 10 n

def pointed (digits : List Char) (places : Nat) : List Char :=
  if digits.length ≤ places then
    '0' :: '.' :: List.replicate (places - digits.length) '0' ++ digits
  else digits.take (digits.length - places) ++ '.' :: digits.drop (digits.length - places)

def Format.positionalText (format : Format) (d : Decimal) : List Char :=
  let digits := digitText d.digits
  if 0 ≤ d.exponent then
    digits ++ List.replicate d.exponent.toNat '0' ++ (if format.wholeFraction then ['.', '0'] else [])
  else pointed digits (-d.exponent).toNat

def exponentText (d : Decimal) (first : Int) : List Char :=
  let sign := if first < 0 then '-' else '+'
  let mantissa := match digitText d.digits with
    | [] => []
    | [c] => [c]
    | c :: cs => c :: '.' :: cs
  mantissa ++ 'e' :: sign :: digitText first.natAbs

def Format.magnitude (format : Format) (units : Nat) : List Char :=
  if units = 0 then (if format.wholeFraction then ['0', '.', '0'] else ['0'])
  else
    let d := shortest format.tie units
    let first := d.exponent + (digitText d.digits).length - 1
    match format.positional with
    | none => format.positionalText d
    | some (least, past) =>
      if least ≤ first && first < past then format.positionalText d else exponentText d first

def render (format : Format) : Binary64 → String
  | .nan => "NaN"
  | .infinite negative => if negative then "-inf" else "inf"
  | .finite negative units =>
    String.ofList ((if negative then ['-'] else []) ++ format.magnitude units)

end Binary64

end SchemaWriter
