import WastePickup.Form.Check
import WastePickup.Form.GivenDate
import WastePickup.Named
import WastePickup.Number.Given

/-!
# Kinds of field values

A kind reads one JSON value and writes one. Reading is forgiving where nothing is lost: a number
may be given as a text or as a truth value, a whole number with a point and zeros, a date as a
midnight or a timestamp. Writing gives the plain form, and the plain form reads back as the same
value.

Bounds are checked after the conversion, the upper before the lower. A text with half a pair of code
units in it reads as nothing, whatever it should have been, unless any text will do.
-/

namespace WastePickup

/-- How values of a type are read from JSON and written to it. -/
structure Kind (α : Type) where
  read : Json → Checked α
  write : α → Json

namespace Kind

/-! ## Numbers -/

/-- Whole numbers given with a point lie below this limit in size. -/
def wholeLimit : Float := 9223372036854775808.0

/-- Whether a float is a whole number below the limit. -/
def isWhole (x : Float) : Bool :=
  x.floor == x && -wholeLimit < x && x < wholeLimit

/-- A whole number. -/
def readWhole : Json → Checked Int
  | .int n => .ok n
  | .bool b => .ok (if b then 1 else 0)
  | .float x =>
    if !x.isFinite then .fault .finiteNumber
    else if x.floor != x then .fault .intFromFloat
    else if isWhole x then .ok x.toInt64.toInt
    else .fault .intParsingSize
  | .str (.broken _) => .fault .stringUnicode
  | .str (.proper s) =>
    match NumberText.whole s with
    | .ok n => .ok n
    | .error .malformed => .fault .intParsing
    | .error .tooLong => .fault .intParsingSize
  | _ => .fault .intType

/-- A whole number within bounds. -/
def boundWhole (least greatest : Option Int) (n : Int) : Checked Int :=
  if greatest.any (· < n) then .fault .lessThanEqual
  else if least.any (n < ·) then .fault .greaterThanEqual
  else .ok n

/-- Whole numbers, possibly bounded. -/
def whole (least greatest : Option Int) : Kind Int where
  read j := (readWhole j).andThen (boundWhole least greatest)
  write := .int

/-- A decimal number; a whole number that is too large for a float is none. -/
def readDecimal : Json → Checked Float
  | .float x => .ok x
  | .int n =>
    let x := Number.ofWhole n
    if x.isFinite then .ok x else .fault .floatType
  | .bool b => .ok (if b then 1.0 else 0.0)
  | .str (.broken _) => .fault .stringUnicode
  | .str (.proper s) =>
    match NumberText.decimal? s with
    | some x => .ok x
    | none => .fault .floatParsing
  | _ => .fault .floatType

/-- A decimal number within bounds. What is not a number is within none. -/
def boundDecimal (least greatest : Option Float) (x : Float) : Checked Float :=
  if greatest.any fun g => !(x ≤ g : Bool) then .fault .lessThanEqual
  else if least.any fun l => !(l ≤ x : Bool) then .fault .greaterThanEqual
  else .ok x

/-- Decimal numbers, possibly bounded. -/
def decimal (least greatest : Option Float) : Kind Float where
  read j := (readDecimal j).andThen (boundDecimal least greatest)
  write := .float

/-! ## Texts, truth values, dates, names -/

/-- A text of a bounded length, counted in characters. -/
def readText (least : Nat) (greatest : Option Nat) : Json → Checked String
  | .str (.broken _) => .fault .stringUnicode
  | .str (.proper s) =>
    if s.length < least then .fault .stringTooShort
    else if greatest.any (· < s.length) then .fault .stringTooLong
    else .ok s
  | _ => .fault .stringType

/-- Texts of a bounded length. -/
def text (least : Nat) (greatest : Option Nat) : Kind String where
  read := readText least greatest
  write s := .str s

/-- A text of any length, which need not be a string. -/
def readAnyText : Json → Checked Json.Text
  | .str t => .ok t
  | _ => .fault .stringType

/-- Texts of any length. -/
def anyText : Kind Json.Text where
  read := readAnyText
  write := .str

/-- The words that stand for a truth value, in any case. -/
def flagWord? (s : String) : Option Bool :=
  let word := s.map Char.toLower
  if ["true", "t", "yes", "y", "on", "1"].contains word then some true
  else if ["false", "f", "no", "n", "off", "0"].contains word then some false
  else none

/-- A truth value. A whole number that is none of the two is told apart from what is no number of 64
bits at all. -/
def readFlag : Json → Checked Bool
  | .bool b => .ok b
  | .int n =>
    if n = 1 then .ok true
    else if n = 0 then .ok false
    else if Number.fits64 n then .fault .boolParsing
    else .fault .boolType
  | .float x =>
    if x == 1.0 then .ok true
    else if x == 0.0 then .ok false
    else if isWhole x then .fault .boolParsing
    else .fault .boolType
  | .str (.broken _) => .fault .stringUnicode
  | .str (.proper s) =>
    match flagWord? s with
    | some b => .ok b
    | none => .fault .boolParsing
  | _ => .fault .boolType

/-- Truth values. -/
def flag : Kind Bool where
  read := readFlag
  write := .bool

/-- A date that has been looked for. -/
def foundDate : Option Date → Checked Date
  | some d => .ok d
  | none => .fault .dateParsing

/-- A date, given as a text or as a timestamp. A whole number of more than 64 bits is taken as a
float; one that is too large for a float is no timestamp. -/
def readDate : Json → Checked Date
  | .int n =>
    if Number.fits64 n then foundDate (Timestamp.ofWhole? n)
    else
      let x := Number.ofWhole n
      if x.isFinite then foundDate (Timestamp.ofFloat? x) else .fault .dateType
  | .float x => foundDate (Timestamp.ofFloat? x)
  | .str (.broken _) => .fault .stringUnicode
  | .str (.proper s) => foundDate (DateText.date? s)
  | _ => .fault .dateType

/-- Dates. -/
def date : Kind Date where
  read := readDate
  write d := .str d.text

/-- A name out of a closed list. -/
def readName {α : Type} [Named α] : Json → Checked α
  | .str (.broken _) => .fault .stringUnicode
  | .str (.proper s) =>
    match Named.ofName? s with
    | some a => .ok a
    | none => .fault .notInList
  | _ => .fault .notInList

/-- Names out of a closed list. -/
def choice (α : Type) [Named α] : Kind α where
  read := readName
  write a := .str (Named.name a)

/-! ## Combinations -/

/-- A value or `null`. -/
def optional {α : Type} (kind : Kind α) : Kind (Option α) where
  read
    | .null => .ok none
    | j => (kind.read j).map some
  write v := v.elim .null kind.write

/-- The items of a list, each placed at its index. -/
def readItems {α : Type} (kind : Kind α) : Nat → List Json → Checked (List α)
  | _, [] => .ok []
  | n, j :: rest =>
    (((kind.read j).under (.index n)).map List.cons).seq (readItems kind (n + 1) rest)

/-- Lists that are not empty. -/
def listOf {α : Type} (kind : Kind α) : Kind (List α) where
  read
    | .arr [] => .fault .tooShort
    | .arr items => readItems kind 0 items
    | _ => .fault .listType
  write items := .arr (items.map kind.write)

end Kind

/-- A named member of a form, with the value it has where it is absent; a field without one is
required. -/
structure Field (α : Type) where
  name : String
  kind : Kind α
  absent : Option α

namespace Field

variable {α : Type}

/-- A field that has to be there. -/
def required (name : String) (kind : Kind α) : Field α :=
  ⟨name, kind, none⟩

/-- A field that may be absent or `null`. -/
def optional (name : String) (kind : Kind α) : Field (Option α) :=
  ⟨name, kind.optional, some none⟩

/-- Check one field of an object. -/
def read (field : Field α) (members : Json.Object) : Checked α :=
  (match members.get? field.name, field.absent with
    | some j, _ => field.kind.read j
    | none, some a => .ok a
    | none, none => .fault .missing).under (.field field.name)

/-- The member that a value of the field is written as. -/
def member (field : Field α) (a : α) : Json.Text × Json :=
  (field.name, field.kind.write a)

end Field

end WastePickup
