/-!
Numbers and bytes in base 16, in lower case. Reading accepts both cases. A byte takes two digits,
the higher one first.
-/
namespace GuestBridge.Text

/-- The digits of a number, without a leading zero. -/
def hexDigits (number : Nat) : String := String.ofList (Nat.toDigits 16 number)

/-- The digits of a number, filled up to a width with zeros. -/
def hexPadded (width number : Nat) : String :=
  let digits := Nat.toDigits 16 number
  String.ofList (List.replicate (width - digits.length) '0' ++ digits)

def hexOfBytes (bytes : List UInt8) : String :=
  String.ofList (bytes.flatMap fun byte =>
    [Nat.digitChar (byte.toNat / 16), Nat.digitChar (byte.toNat % 16)])

def hexDigitValue? (letter : Char) : Option Nat :=
  if letter.isDigit then some (letter.toNat - '0'.toNat)
  else if 'a' ≤ letter ∧ letter ≤ 'f' then some (letter.toNat - 'a'.toNat + 10)
  else if 'A' ≤ letter ∧ letter ≤ 'F' then some (letter.toNat - 'A'.toNat + 10)
  else none

def hexNumber? (digits : String) : Option Nat :=
  digits.toList.foldlM (fun known letter => (hexDigitValue? letter).map (16 * known + ·)) 0

/-- The bytes that pairs of digits stand for. -/
def hexPairs? : List Char → Option (List UInt8)
  | [] => some []
  | high :: low :: rest => do
    let first ← hexDigitValue? high
    let second ← hexDigitValue? low
    return UInt8.ofNat (16 * first + second) :: (← hexPairs? rest)
  | [_] => none

def hexBytes? (digits : String) : Option (List UInt8) := hexPairs? digits.toList

end GuestBridge.Text
