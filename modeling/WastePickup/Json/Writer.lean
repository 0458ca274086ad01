import WastePickup.Json
import WastePickup.Number.Digits
import WastePickup.Text.Quoted

/-!
# Writing JSON text

The compact form: no blanks, members in the order in which they stand in the object. Controls and
the three characters that some readers take for a line end are escaped, so a written value never
spans two lines; half of a pair of code units is escaped too. JSON has no infinities, so a float
that is not finite is written as `null`.
-/

namespace WastePickup.Json

namespace Writer

/-- One character inside a text. -/
def escaped (c : Char) : List Char :=
  if c = '\x22' ∨ c = '\\' then ['\\', c]
  else if c = '\n' then ['\\', 'n']
  else if c.toNat < 0x20 ∨ c.toNat = 0x85 ∨ c.toNat = 0x2028 ∨ c.toNat = 0x2029 then
    '\\' :: 'u' :: Text.hex 4 c.toNat
  else [c]

/-- One code point inside a text. -/
def escapedCode (code : Nat) : List Char :=
  if isHalf code then '\\' :: 'u' :: Text.hex 4 code else escaped (Char.ofNat code)

/-- A text in quotes. -/
def text (t : Text) : String :=
  String.ofList ('\x22' :: (t.codes.flatMap escapedCode ++ ['\x22']))

/-- A number; one that is not finite is `null`. -/
def number (x : Float) : String :=
  if x.isFinite then Number.shortestText x else "null"

end Writer

mutual

/-- A value as text. -/
def render : Json → String
  | null => "null"
  | bool b => if b then "true" else "false"
  | int n => toString n
  | float x => Writer.number x
  | str t => Writer.text t
  | arr items => "[" ++ ",".intercalate (renderItems items) ++ "]"
  | obj members => "\x7b" ++ ",".intercalate (renderMembers members) ++ "\x7d"

/-- The items of a list as text. -/
def renderItems : List Json → List String
  | [] => []
  | item :: rest => render item :: renderItems rest

/-- The members of an object as text. -/
def renderMembers : List (Text × Json) → List String
  | [] => []
  | (name, value) :: rest => (Writer.text name ++ ":" ++ render value) :: renderMembers rest

end

end WastePickup.Json
