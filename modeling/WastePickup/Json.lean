/-!
# JSON values

Requests arrive as JSON and answers leave as JSON. The value type keeps whole numbers apart from
numbers with a fraction or an exponent, because a request form reads `1` and `1.0` differently
from `1.5`. An object is a list of members in the order of their first appearance.

A text in JSON is not always a string: an escape may name one half of a pair of code units by
itself, and no character is that half. `Json.Text` keeps such a text by its code points.

Reading and writing the text form are in `Json.Reader` and `Json.Writer`.
-/

namespace WastePickup

namespace Json

/-- Whether a code point is one half of a pair of code units. -/
def isHalf (code : Nat) : Bool :=
  0xD800 ≤ code && code < 0xE000

/-- The code point of a pair of code units. -/
def joined (high low : Nat) : Nat :=
  0x10000 + (high - 0xD800) * 0x400 + (low - 0xDC00)

/-- A text as it may stand in JSON. -/
inductive Text where
  /-- A text that is a string. -/
  | proper (s : String)
  /-- A text with a half pair in it, by its code points. -/
  | broken (codes : List Nat)
  deriving DecidableEq

instance : Coe String Text where
  coe := .proper

/-- The text of a list of code points. -/
def Text.ofCodes (codes : List Nat) : Text :=
  if codes.any isHalf then .broken codes else .proper (String.ofList (codes.map Char.ofNat))

/-- The string that a text is, if it is one. -/
def Text.string? : Text → Option String
  | proper s => some s
  | broken _ => none

/-- The code points of a text. -/
def Text.codes : Text → List Nat
  | proper s => s.toList.map Char.toNat
  | broken codes => codes

end Json

/-- A JSON value. -/
inductive Json where
  | null
  | bool (b : Bool)
  | int (n : Int)
  | float (x : Float)
  | str (t : Json.Text)
  | arr (items : List Json)
  | obj (members : List (Json.Text × Json))

namespace Json

/-- The members of an object. -/
abbrev Object := List (Text × Json)

namespace Object

/-- The member of a given name. -/
def get? (members : Object) (name : Text) : Option Json :=
  match members with
  | [] => none
  | (key, value) :: rest => if key = name then some value else get? rest name

/-- Set a member: in place if the name is there already, at the end otherwise. -/
def put (members : Object) (name : Text) (value : Json) : Object :=
  match members with
  | [] => [(name, value)]
  | (key, old) :: rest =>
    if key = name then (key, value) :: rest else (key, old) :: put rest name value

/-- The object of a list of members; the last of several members of one name is kept. -/
def ofMembers (members : List (Text × Json)) : Object :=
  members.foldl (fun acc m => acc.put m.1 m.2) []

end Object

/-- A text or nothing. -/
def ofText? (text : Option String) : Json :=
  text.elim null fun s => str s

/-- A whole number or nothing. -/
def ofInt? (n : Option Int) : Json :=
  n.elim null int

/-- A number as an answer holds it; in place of one that is not finite stands nothing. -/
def ofFinite (x : Float) : Json :=
  if x.isFinite then float x else null

/-- A number of an answer or nothing. -/
def ofFinite? (x : Option Float) : Json :=
  x.elim null ofFinite

end Json

end WastePickup
