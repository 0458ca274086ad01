import WastePickup.Json.Reader

/-!
# Encodings of JSON text

A JSON text arrives as bytes. It begins with ASCII characters, so the zero bytes among its first
four tell in which encoding of Unicode it is: none in UTF-8, every second byte in UTF-16, three of
four in UTF-32. A byte order mark of UTF-8 is dropped; the wider encodings are read without one.

The wider encodings can hold half of a pair of code units by itself, which is no character; so a
text is brought to code points.
-/

namespace WastePickup.Json

/-- How characters are laid out in bytes. -/
inductive Encoding where
  | utf8
  /-- Two bytes to a unit, the more significant one first or last. -/
  | utf16 (bigEndian : Bool)
  /-- Four bytes to a character, the most significant one first or last. -/
  | utf32 (bigEndian : Bool)
  deriving DecidableEq

namespace Encoding

/-- The encoding that the first bytes of a text give away. -/
def ofNats : List Nat → Encoding
  | a :: b :: c :: d :: _ =>
    if a = 0 then (if b = 0 then .utf32 true else .utf16 true)
    else if b = 0 then (if c = 0 ∧ d = 0 then .utf32 false else .utf16 false)
    else .utf8
  | [a, b] => if a = 0 then .utf16 true else if b = 0 then .utf16 false else .utf8
  | _ => .utf8

/-- The units of bytes, two to a unit; none if a byte is left over. -/
def units16 (bigEndian : Bool) : List Nat → Option (List Nat)
  | [] => some []
  | [_] => none
  | a :: b :: rest =>
    (units16 bigEndian rest).map ((if bigEndian then 0x100 * a + b else a + 0x100 * b) :: ·)

/-- The code points of units. Half of a pair that stands alone is kept. -/
def codes16 : List Nat → List Nat
  | high :: low :: rest =>
    if 0xD800 ≤ high ∧ high < 0xDC00 ∧ 0xDC00 ≤ low ∧ low < 0xE000 then
      joined high low :: codes16 rest
    else high :: codes16 (low :: rest)
  | units => units

/-- The code points of bytes, four to each; none if bytes are left over or a number is beyond the
last code point. -/
def codes32 (bigEndian : Bool) : List Nat → Option (List Nat)
  | [] => some []
  | a :: b :: c :: d :: rest =>
    let code := if bigEndian then 0x1000000 * a + 0x10000 * b + 0x100 * c + d
      else a + 0x100 * b + 0x10000 * c + 0x1000000 * d
    if 0x110000 ≤ code then none else (codes32 bigEndian rest).map (code :: ·)
  | _ => none

end Encoding

/-- The code points of the bytes of a text, which are the UTF-8 form of `text` unless their zeros
say otherwise. -/
def codesOf? (text : String) : Option (List Nat) :=
  let bytes := text.toUTF8.toList.map UInt8.toNat
  match Encoding.ofNats bytes with
  | .utf8 =>
    match text.toList with
    | '\uFEFF' :: rest => some (rest.map Char.toNat)
    | cs => some (cs.map Char.toNat)
  | .utf16 bigEndian => (Encoding.units16 bigEndian bytes).map Encoding.codes16
  | .utf32 bigEndian => Encoding.codes32 bigEndian bytes

/-- Read the body of a message, in whichever encoding it is. -/
def ofBody (text : String) : Except Failure Json :=
  match codesOf? text with
  | none => .error .undecodable
  | some codes => ofCodes codes

end WastePickup.Json
