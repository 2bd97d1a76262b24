import GuestBridge.Decimal.Shortest

/-!
The text of a floating-point number: its shortest decimal, positional in the middle range with at
least one digit after the point, and with an exponent outside of it.
-/
namespace GuestBridge.Decimal

/-- Positional notation is used from ten to the first power up to below ten to the second. -/
structure PositionalRange where
  lowest : Int := -4
  limit : Int := 16

def zeros (count : Nat) : String := String.ofList (List.replicate count '0')

/-- The number of digits before the point; negative for leading zeros after it. -/
def Scaled.pointPosition (number : Scaled) : Int :=
  (toString number.digits).length + number.exponent

def Scaled.positional (number : Scaled) : String :=
  let digits := toString number.digits
  let point := number.pointPosition
  if point ≤ 0 then "0." ++ zeros (-point).toNat ++ digits
  else if digits.length ≤ point.toNat then digits ++ zeros (point.toNat - digits.length) ++ ".0"
  else
    let letters := digits.toList
    String.ofList (letters.take point.toNat) ++ "." ++ String.ofList (letters.drop point.toNat)

def Scaled.scientific (number : Scaled) : String :=
  let letters := (toString number.digits).toList
  let fraction := if letters.length ≤ 1 then "" else "." ++ String.ofList (letters.drop 1)
  String.ofList (letters.take 1) ++ fraction ++ "e" ++ toString (number.pointPosition - 1)

def Scaled.render (range : PositionalRange) (number : Scaled) : String :=
  if range.lowest < number.pointPosition ∧ number.pointPosition ≤ range.limit then
    number.positional
  else number.scientific

def BinaryFormat.render (format : BinaryFormat) (bits : Nat) : String :=
  match format.decode bits with
  | .notANumber => "NaN"
  | .infinite negative => (if negative then "-" else "") ++ "inf"
  | .zero negative => (if negative then "-" else "") ++ "0.0"
  | .finite negative magnitude =>
    (if negative then "-" else "") ++ (shortest magnitude).render {}

end GuestBridge.Decimal
