import GuestBridge.Text.Encoded
import GuestBridge.Text.Hexadecimal
import GuestBridge.Text.Visible

/-!
Quoted text: a string between double quotes on one line. Quotes and backslashes get a backslash,
the common controls have letters, and other characters that would not show are written by their
code point in base 16.
-/
namespace GuestBridge.Text

def escape (character : Char) : String :=
  match character with
  | '"' => "\\\""
  | '\\' => "\\\\"
  | '\n' => "\\n"
  | '\r' => "\\r"
  | '\t' => "\\t"
  | '\x00' => "\\0"
  | other =>
    if isVisible other then other.toString else "\\u\x7b" ++ hexDigits other.toNat ++ "\x7d"

def quoted (text : String) : String :=
  "\"" ++ String.join (text.toList.map escape) ++ "\""

def upperByte (byte : UInt8) : String :=
  String.ofList ([byte.toNat / 16, byte.toNat % 16].map fun digit => (Nat.digitChar digit).toUpper)

/-- A file name as quoted text. Names are bytes: what decodes is written as text, and each other
byte in base 16. -/
def quotedName (bytes : List UInt8) : String :=
  "\"" ++ String.join (pieces bytes.length bytes) ++ "\""
where
  pieces : Nat → List UInt8 → List String
    | 0, _ => []
    | _, [] => []
    | fuel + 1, first :: rest =>
      match firstCharacter? first rest with
      | some (character, size) => escape character :: pieces fuel (rest.drop (size - 1))
      | none => ("\\x" ++ upperByte first) :: pieces fuel rest

end GuestBridge.Text
