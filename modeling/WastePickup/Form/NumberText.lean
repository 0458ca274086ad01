import WastePickup.Number.Given
import WastePickup.Text.Blank

/-!
# Numbers given as text

A request may give a number as a text. Only ASCII digits count.

A whole number may have spaces around it. It is an optional sign and decimal digits, single
underscores allowed between digits, possibly followed by a point and zeros. Behind the sign, zeros
and underscores in front of the first other digit are dropped first, as many as there are, and a
minus may follow them: `0__1` is 1, `-0_1` is -1 and `0-4` is -4. At most 4300 digits may be left. A
text that begins with more than that, without anything to drop, is told apart as too long; what
follows them does not matter then.

A decimal number has the usual point and exponent, or is one of the words `inf`, `infinity` and
`nan` in any case. It may have spaces around it, or single underscores between its other characters,
but not both.
-/

namespace WastePickup.NumberText

/-- The number that digits stand for. -/
def digitsValue (ds : List Char) : Nat :=
  ds.foldl (fun n c => 10 * n + (c.toNat - 48)) 0

/-- A sign in front: whether it is a minus, and what follows. -/
def sign (cs : List Char) : Bool × List Char :=
  match cs with
  | '-' :: rest => (true, rest)
  | '+' :: rest => (false, rest)
  | rest => (false, rest)

/-- Whether an underscore stands next to another one. -/
def hasDoubleUnderscore : List Char → Bool
  | '_' :: '_' :: _ => true
  | _ :: rest => hasDoubleUnderscore rest
  | [] => false

/-- Drop single underscores; none if one is doubled or stands at an end. -/
def dropUnderscores (cs : List Char) : Option (List Char) :=
  if cs.head? = some '_' ∨ cs.getLast? = some '_' ∨ hasDoubleUnderscore cs then none
  else some (cs.filter (· ≠ '_'))

/-! ## Whole numbers -/

/-- Why a text is no whole number. -/
inductive WholeFault where
  | malformed
  | tooLong
  deriving DecidableEq

/-- How many digits a whole number may have. -/
def mostDigits : Nat := 4300

/-- Drop a plus in front; none if a minus follows it. -/
def dropPlus (cs : List Char) : Option (List Char) :=
  match cs with
  | '+' :: '-' :: _ => none
  | '+' :: rest => some rest
  | rest => some rest

/-- Whether a character is a digit that says something in front: any but zero. -/
def isLeading (c : Char) : Bool :=
  c.isDigit && c ≠ '0'

/-- What is left behind a zero once further zeros and underscores are dropped; `last` is the one
just dropped, which stays in front of a point or where nothing follows. -/
def behindZero (last : Char) : List Char → Option (List Char)
  | [] => some [last]
  | c :: rest =>
    if c = '0' ∨ c = '_' then behindZero c rest
    else if isLeading c ∨ c = '-' then some (c :: rest)
    else if c = '.' then some (last :: c :: rest)
    else none

/-- Drop the zeros in front that say nothing; none if no digit stands in front. -/
def dropZeros (cs : List Char) : Option (List Char) :=
  match cs with
  | [] => none
  | c :: rest =>
    if c = '0' then behindZero c rest
    else if isLeading c then some (c :: rest)
    else none

/-- Drop the zeros behind a minus, or in front if there is none. -/
def dropZerosBehindMinus (cs : List Char) : Option (List Char) :=
  match cs with
  | '-' :: rest => (dropZeros rest).map ('-' :: ·)
  | rest => dropZeros rest

/-- Drop a point with nothing but zeros behind it, one at least. -/
def dropPoint (cs : List Char) : List Char :=
  let kept := cs.reverse.dropWhile (· = '0')
  match kept with
  | '.' :: before => if kept.length < cs.length then before.reverse else cs
  | _ => cs

/-- A whole number in its plain form: digits with no zero too many in front, perhaps a minus. -/
def plainWhole (cs : List Char) : Except WholeFault Int :=
  let (negative, body) := match cs with
    | '-' :: rest => (true, rest)
    | rest => (false, rest)
  let digits := body.takeWhile Char.isDigit
  if digits.isEmpty ∨ (digits.head? = some '0' ∧ 1 < digits.length) then .error .malformed
  else if mostDigits < digits.length then .error .tooLong
  else if digits.length < body.length then .error .malformed
  else .ok (if negative then -(digitsValue digits : Int) else digitsValue digits)

/-- Bring a text in the plain form of a whole number, if it has one. -/
def plainForm? (s : String) : Option (List Char) := do
  let cs ← dropPlus (Text.trim Text.isSpace s).toList
  dropUnderscores (dropPoint (← dropZerosBehindMinus cs))

/-- The whole number that a text stands for: as it is written, or else in its plain form. Only as it
is written it can be too long. -/
def whole (s : String) : Except WholeFault Int :=
  match plainWhole s.toList with
  | .error .malformed =>
    match (plainForm? s).map plainWhole with
    | some (.ok n) => .ok n
    | _ => .error .malformed
  | answer => answer

/-! ## Decimal numbers -/

/-- The value of an exponent with nothing behind it. -/
def exponent? (cs : List Char) : Option Int :=
  match cs with
  | [] => some 0
  | e :: rest =>
    if e = 'e' ∨ e = 'E' then
      let (negative, digits) := sign rest
      if digits.isEmpty || !digits.all Char.isDigit then none
      else some (if negative then -(digitsValue digits : Int) else digitsValue digits)
    else none

/-- The magnitude of a decimal number: digits with a point on either side of which something may
be missing, but not both, and an optional exponent. -/
def magnitude? (cs : List Char) : Option (Nat × Int) := do
  let before := cs.takeWhile Char.isDigit
  let rest := cs.dropWhile Char.isDigit
  let (after, rest) := match rest with
    | '.' :: more => (more.takeWhile Char.isDigit, more.dropWhile Char.isDigit)
    | _ => ([], rest)
  if before.isEmpty && after.isEmpty then none
  else
    let exp ← exponent? rest
    some (digitsValue (before ++ after), exp - after.length)

/-- The decimal number that characters stand for, with nothing between or around them. -/
def plainDecimal? (cs : List Char) : Option Float :=
  let (negative, body) := sign cs
  let word := body.map Char.toLower
  if word = ['i', 'n', 'f'] ∨ word = ['i', 'n', 'f', 'i', 'n', 'i', 't', 'y'] then
    some (if negative then -(1.0 / 0.0) else 1.0 / 0.0)
  else if word = ['n', 'a', 'n'] then some (0.0 / 0.0)
  else (magnitude? body).map fun (digits, exp) => Number.ofSignedDecimal negative digits exp

/-- The decimal number that a text stands for: without the spaces around it, or else without its
underscores. -/
def decimal? (s : String) : Option Float :=
  match plainDecimal? (Text.trim Text.isSpace s).toList with
  | some x => some x
  | none => (dropUnderscores s.toList).bind plainDecimal?

end WastePickup.NumberText
