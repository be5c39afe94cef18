import SchemaWriter.Json.Basic

namespace SchemaWriter.Json

structure Numeral where
  negative : Bool
  whole : List Nat
  fraction : List Nat
  exponent : Option Int
  deriving DecidableEq, Repr

namespace Numeral

def extend (significand : Nat) : List Nat → Nat × List Nat
  | [] => (significand, [])
  | d :: ds =>
    if 10 * significand + d < Nat.pow 2 64 then extend (10 * significand + d) ds
    else (significand, d :: ds)

def powerUnits (exponent : Nat) : Nat :=
  Binary64.roundUnits (Nat.pow 10 exponent * Binary64.one) 1

def timesPower (units exponent : Nat) : Nat :=
  Binary64.roundUnits (units * powerUnits exponent) Binary64.one

def overPower (units exponent : Nat) : Nat :=
  Binary64.roundUnits (units * Binary64.one) (powerUnits exponent)

/-- The significand as a double, times or over a power of ten, each step rounded; powers of ten end
at `10 ^ 308`. There is no value if it would be infinite. -/
def scaled? (significand : Nat) (exponent : Int) : Option Nat :=
  let units := Binary64.roundUnits (significand * Binary64.one) 1
  if 0 ≤ exponent then
    if exponent ≤ 308 then
      let product := timesPower units exponent.toNat
      if product < Binary64.limit then some product else none
    else if significand = 0 then some 0
    else none
  else
    let places := (-exponent).toNat
    if places ≤ 308 then some (overPower units places)
    else if places ≤ 616 then some (overPower (overPower units 308) (places - 308))
    else some 0

def float? (n : Numeral) : Option Number :=
  let (whole, dropped) := extend 0 n.whole
  let (significand, unread) := extend whole n.fraction
  let places : Int := n.fraction.length - unread.length
  (scaled? significand (dropped.length - places + n.exponent.getD 0)).map fun units =>
    .float (.finite n.negative units)

def value? (n : Numeral) : Option Number :=
  if n.fraction.isEmpty && n.exponent.isNone then
    match extend 0 n.whole with
    | (whole, []) =>
      if !n.negative then some (.integer whole)
      -- Minus zero is a double.
      else if 0 < whole && whole ≤ Nat.pow 2 63 then some (.integer (-whole))
      else n.float?
    | _ => n.float?
  else n.float?

end Numeral

end SchemaWriter.Json
