import WastePickup.Json
import WastePickup.Number.Digits
import WastePickup.Text.Printable

/-!
# Quoted values

How a value is shown inside a message. A text stands in single quotes, or in double quotes if it
holds a single quote and no double quote; the backslash and the quote in use are escaped, line
break, return and tab have letters of their own, and every other unprintable character is written
by its code point, and so is half of a pair of code units. Other values are shown as `None`, `True`,
`False`, numbers, `[…]` and `{…}`.
-/

namespace WastePickup.Text

/-- A number in lower-case hexadecimal, filled with zeros on the left to a width. -/
def hex (width n : Nat) : List Char :=
  let digits := Nat.toDigits 16 n
  List.replicate (width - digits.length) '0' ++ digits

/-- One character inside quotes. -/
def quotedChar (quote c : Char) : List Char :=
  if c = quote ∨ c = '\\' then ['\\', c]
  else if c = '\n' then ['\\', 'n']
  else if c = '\r' then ['\\', 'r']
  else if c = '\t' then ['\\', 't']
  else if isPrintable c then [c]
  else if c.toNat < 0x100 then '\\' :: 'x' :: hex 2 c.toNat
  else if c.toNat < 0x10000 then '\\' :: 'u' :: hex 4 c.toNat
  else '\\' :: 'U' :: hex 8 c.toNat

/-- One code point inside quotes. -/
def quotedCode (quote : Char) (code : Nat) : List Char :=
  if Json.isHalf code then '\\' :: 'u' :: hex 4 code else quotedChar quote (Char.ofNat code)

/-- The quote that a text is put in. -/
def quoteFor (codes : List Nat) : Char :=
  if codes.contains '\x27'.toNat && !codes.contains '\x22'.toNat then '\x22' else '\x27'

/-- A text in quotes. -/
def quoted (t : Json.Text) : String :=
  let quote := quoteFor t.codes
  String.ofList (quote :: (t.codes.flatMap (quotedCode quote) ++ [quote]))

end WastePickup.Text

namespace WastePickup.Json

mutual

/-- A value as it is shown inside a message. -/
def shown : Json → String
  | null => "None"
  | bool b => if b then "True" else "False"
  | int n => toString n
  | float x => Number.shortestText x
  | str t => Text.quoted t
  | arr items => "[" ++ ", ".intercalate (shownItems items) ++ "]"
  | obj members => "\x7b" ++ ", ".intercalate (shownMembers members) ++ "\x7d"

/-- The items of a list as they are shown. -/
def shownItems : List Json → List String
  | [] => []
  | item :: rest => shown item :: shownItems rest

/-- The members of an object as they are shown. -/
def shownMembers : List (Text × Json) → List String
  | [] => []
  | (name, value) :: rest => (Text.quoted name ++ ": " ++ shown value) :: shownMembers rest

end

end WastePickup.Json
