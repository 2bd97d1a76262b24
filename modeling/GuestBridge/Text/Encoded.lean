/-!
Texts in bytes. Not every sequence of bytes is a text: what is not decoded is left to the reader, or
shows as one character that stands for it.
-/
namespace GuestBridge.Text

def firstCharacter? (first : UInt8) (rest : List UInt8) : Option (Char × Nat) :=
  let candidates := [1, 2, 3, 4].map fun size => (first :: rest).take size
  candidates.findSome? fun candidate =>
    match String.fromUTF8? ⟨candidate.toArray⟩ with
    | some text =>
      match text.toList with
      | [character] => some (character, candidate.length)
      | _ => none
    | none => none

/-- How many bytes at the start are one spoilt character: a first byte with those behind it that go
on with it. -/
def spoiltSize (first : UInt8) (rest : List UInt8) : Nat :=
  let goesOn (byte low high : UInt8) : Bool := low ≤ byte && byte ≤ high
  let low : UInt8 := if first = 0xe0 then 0xa0 else if first = 0xf0 then 0x90 else 0x80
  let high : UInt8 := if first = 0xed then 0x9f else if first = 0xf4 then 0x8f else 0xbf
  match rest with
  | second :: third :: _ =>
    if 0xe0 ≤ first && first ≤ 0xf4 && goesOn second low high then
      if 0xf0 ≤ first && goesOn third 0x80 0xbf then 3 else 2
    else 1
  | [second] => if 0xe0 ≤ first && first ≤ 0xf4 && goesOn second low high then 2 else 1
  | [] => 1

def decoded (bytes : List UInt8) : String := String.ofList (characters bytes.length bytes)
where
  characters : Nat → List UInt8 → List Char
    | 0, _ => []
    | _, [] => []
    | fuel + 1, first :: rest =>
      match firstCharacter? first rest with
      | some (character, size) => character :: characters fuel (rest.drop (size - 1))
      | none => '\ufffd' :: characters fuel (rest.drop (spoiltSize first rest - 1))

end GuestBridge.Text
