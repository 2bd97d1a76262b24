/-!
The shortest decimal that reads back as a given binary floating-point number: of all decimals that
round to it, one with the fewest digits, and of those the nearest, the larger one of two equally
near. The numbers that round to it form an interval around it, whose ends belong to it when its
significand is even.
-/
namespace GuestBridge.Decimal

/-- The widths of the stored fields of a binary format. -/
structure BinaryFormat where
  significandBits : Nat
  exponentBits : Nat

def single : BinaryFormat := ⟨23, 8⟩

def double : BinaryFormat := ⟨52, 11⟩

/-- A finite positive number, `significand * 2 ^ exponent`. With `lowerIsClose` the next number
below is half as far as the next one above. -/
structure Binary where
  significand : Nat
  exponent : Int
  lowerIsClose : Bool

inductive Decoded where
  | notANumber
  | infinite (negative : Bool)
  | zero (negative : Bool)
  | finite (negative : Bool) (magnitude : Binary)

def BinaryFormat.decode (format : BinaryFormat) (bits : Nat) : Decoded :=
  let stored := bits % Nat.pow 2 format.significandBits
  let exponent := bits / Nat.pow 2 format.significandBits % Nat.pow 2 format.exponentBits
  let negative := bits / Nat.pow 2 (format.significandBits + format.exponentBits) % 2 == 1
  let bias : Int := Nat.pow 2 (format.exponentBits - 1) - 1
  if exponent = Nat.pow 2 format.exponentBits - 1 then
    if stored = 0 then .infinite negative else .notANumber
  else if exponent = 0 then
    if stored = 0 then .zero negative
    else .finite negative ⟨stored, 1 - bias - format.significandBits, false⟩
  else
    .finite negative
      ⟨Nat.pow 2 format.significandBits + stored, exponent - bias - format.significandBits,
        stored == 0 && exponent != 1⟩

/-- The decimal `digits * 10 ^ exponent`. -/
structure Scaled where
  digits : Nat
  exponent : Int

/-- The best multiple of this power of ten that rounds to the number, if there is one. The number
and the ends of its interval are taken in quarters of its last binary place. -/
def multiple? (number : Binary) (exponent : Int) : Option Scaled :=
  let tens := Nat.pow 10 exponent.toNat
  let tenths := Nat.pow 10 (-exponent).toNat
  let twos := Nat.pow 2 (number.exponent - 2).toNat
  let halves := Nat.pow 2 (2 - number.exponent).toNat
  let scale := twos * tenths
  let unit := tens * halves
  let value := 4 * number.significand * scale
  let low := (4 * number.significand - (if number.lowerIsClose then 1 else 2)) * scale
  let high := (4 * number.significand + 2) * scale
  let inside (candidate : Nat) : Bool :=
    let point := candidate * unit
    if number.significand % 2 = 0 then low ≤ point && point ≤ high
    else low < point && point < high
  let below := value / unit
  let above := below + 1
  let aboveIsNearer :=
    let up := above * unit - value
    let down := value - below * unit
    up ≤ down
  if inside below && inside above then some ⟨if aboveIsNearer then above else below, exponent⟩
  else if inside below then some ⟨below, exponent⟩
  else if inside above then some ⟨above, exponent⟩
  else none

/-- Powers of ten from above every finite number down to below the last place of each. -/
def exponents : List Int := (List.range 800).map fun step : Nat => 400 - (step : Int)

def shortest (number : Binary) : Scaled :=
  (exponents.findSome? (multiple? number)).getD ⟨number.significand, 0⟩

end GuestBridge.Decimal
