import WastePickup.Json
import WastePickup.Number.Given

/-!
# Reading JSON text

The grammar of RFC 8259, with two widenings: the words `NaN`, `Infinity` and `-Infinity` are
numbers, and a number too large for a float is an infinity. Of several members of one name the last
is kept. Blanks are the four of the grammar.

Two things that the grammar allows are not taken: a whole number of more than 4300 digits, and
brackets nested deeper than `Reader.deepest`. Reading stops at the first thing that is wrong, so a
text that breaks the grammar only behind such a number fails for the number.

A text is read as code points and not as characters, because half of a pair of code units may stand
in it by itself. Two halves are joined only where both are written as escapes.

The reader recurses on a bound that the length of the text always covers, since every second call
consumes a code point.
-/

namespace WastePickup.Json

/-- Why a text gives no value. -/
inductive Failure where
  /-- The text is not JSON. -/
  | malformed
  /-- A whole number has too many digits, or brackets are nested too deep. -/
  | tooLarge
  /-- The bytes of the text are no characters in their encoding. -/
  | undecodable
  deriving DecidableEq

namespace Reader

/-- What has been read, and the code points that follow it. -/
abbrev Read (α : Type) := Except Failure (α × List Nat)

/-- How deep brackets may be nested. -/
def deepest : Nat := 950

/-- How many digits a whole number may have. -/
def mostDigits : Nat := 4300

/-- The blanks that may stand between tokens. -/
def isGap (c : Nat) : Bool :=
  c = ' '.toNat || c = '\t'.toNat || c = '\n'.toNat || c = '\r'.toNat

/-- Drop the blanks in front. -/
def skip (cs : List Nat) : List Nat :=
  cs.dropWhile isGap

/-- What follows a word, if the word stands in front. -/
def dropWord : List Char → List Nat → Option (List Nat)
  | [], cs => some cs
  | _ :: _, [] => none
  | w :: word, c :: cs => if c = w.toNat then dropWord word cs else none

/-- The values that are words. -/
def words : List (List Char × Json) :=
  [("null".toList, .null), ("true".toList, .bool true), ("false".toList, .bool false),
    ("NaN".toList, .float (0.0 / 0.0)), ("Infinity".toList, .float (1.0 / 0.0)),
    ("-Infinity".toList, .float (-(1.0 / 0.0)))]

/-- The value of a word in front. -/
def word? (cs : List Nat) : Option (Json × List Nat) :=
  words.findSome? fun (word, j) => (dropWord word cs).map fun rest => (j, rest)

/-! ## Texts -/

/-- A hexadecimal digit. -/
def hexDigit? (c : Nat) : Option Nat :=
  if '0'.toNat ≤ c ∧ c ≤ '9'.toNat then some (c - '0'.toNat)
  else if 'a'.toNat ≤ c ∧ c ≤ 'f'.toNat then some (c - 'a'.toNat + 10)
  else if 'A'.toNat ≤ c ∧ c ≤ 'F'.toNat then some (c - 'A'.toNat + 10)
  else none

/-- Four hexadecimal digits as a number, and what follows. -/
def hex4 : List Nat → Option (Nat × List Nat)
  | a :: b :: c :: d :: rest => do
    let digits ← [a, b, c, d].mapM hexDigit?
    return (digits.foldl (fun n k => 16 * n + k) 0, rest)
  | _ => none

/-- What the letters behind a backslash stand for. -/
def escapes : List (Nat × Nat) :=
  [('\x22'.toNat, 0x22), ('\\'.toNat, 0x5C), ('/'.toNat, 0x2F), ('b'.toNat, 0x08),
    ('f'.toNat, 0x0C), ('n'.toNat, 0x0A), ('r'.toNat, 0x0D), ('t'.toNat, 0x09)]

/-- The second half of a pair, if `high` is a first half and the escape of a second one follows. -/
def secondHalf? (high : Nat) (cs : List Nat) : Option (Nat × List Nat) :=
  if 0xD800 ≤ high ∧ high < 0xDC00 then
    match (dropWord ['\\', 'u'] cs).bind hex4 with
    | some (low, rest) => if 0xDC00 ≤ low ∧ low < 0xE000 then some (low, rest) else none
    | none => none
  else none

/-- The code point of an escape by number, and what follows it. -/
def numbered? (cs : List Nat) : Option (Nat × List Nat) := do
  let (unit, rest) ← hex4 cs
  match secondHalf? unit rest with
  | some (low, after) => some (joined unit low, after)
  | none => some (unit, rest)

/-- The code point of an escape after its backslash, and what follows it. -/
def escape? (cs : List Nat) : Option (Nat × List Nat) :=
  match cs with
  | [] => none
  | c :: rest =>
    if c = 'u'.toNat then numbered? rest else (escapes.lookup c).map fun code => (code, rest)

/-- The code points of a text after its opening quote, in reverse, and what follows its closing
quote. -/
def textBody : Nat → List Nat → List Nat → Option (List Nat × List Nat)
  | 0, _, _ => none
  | _ + 1, [], _ => none
  | fuel + 1, c :: rest, acc =>
    if c = '\x22'.toNat then some (acc, rest)
    else if c < 0x20 then none
    else if c = '\\'.toNat then
      match escape? rest with
      | some (code, after) => textBody fuel after (code :: acc)
      | none => none
    else textBody fuel rest (c :: acc)

/-- A text after its opening quote. -/
def text (fuel : Nat) (cs : List Nat) : Read Text :=
  match textBody fuel cs [] with
  | some (codes, rest) => .ok (.ofCodes codes.reverse, rest)
  | none => .error .malformed

/-! ## Numbers -/

/-- Whether a code point is a digit. -/
def isDigit (c : Nat) : Bool :=
  '0'.toNat ≤ c && c ≤ '9'.toNat

/-- The number that a list of digits stands for. -/
def digitsValue (ds : List Nat) : Nat :=
  ds.foldl (fun n c => 10 * n + (c - '0'.toNat)) 0

/-- The digits in front. -/
def spanDigits (cs : List Nat) : List Nat × List Nat :=
  (cs.takeWhile isDigit, cs.dropWhile isDigit)

/-- A minus in front: whether there is one, and what follows. -/
def minus (cs : List Nat) : Bool × List Nat :=
  match dropWord ['-'] cs with
  | some rest => (true, rest)
  | none => (false, cs)

/-- A point with at least one digit behind it: those digits and the rest. -/
def fraction? (cs : List Nat) : Option (List Nat × List Nat) := do
  let (ds, after) := spanDigits (← dropWord ['.'] cs)
  if ds.isEmpty then none else some (ds, after)

/-- An exponent: its value and the rest. -/
def exponent? (cs : List Nat) : Option (Int × List Nat) := do
  let rest ← dropWord ['e'] cs <|> dropWord ['E'] cs
  let (negative, digits) := match dropWord ['+'] rest with
    | some more => (false, more)
    | none => minus rest
  let (ds, after) := spanDigits digits
  if ds.isEmpty then none
  else some ((if negative then -(digitsValue ds : Int) else digitsValue ds), after)

/-- A number whose sign and whole digits have been read. -/
def numberFrom (negative : Bool) (whole rest : List Nat) : Read Json :=
  let (frac, afterFrac, hasFrac) := match fraction? rest with
    | some (ds, after) => (ds, after, true)
    | none => ([], rest, false)
  let (exp, after, hasExp) := match exponent? afterFrac with
    | some (e, after) => (e, after, true)
    | none => (0, afterFrac, false)
  if hasFrac || hasExp then
    .ok (.float
      (Number.ofSignedDecimal negative (digitsValue (whole ++ frac)) (exp - frac.length)), after)
  else if mostDigits < whole.length then .error .tooLarge
  else .ok (.int (if negative then -(digitsValue whole : Int) else digitsValue whole), after)

/-- A number. A zero in front stands alone. -/
def number (cs : List Nat) : Read Json :=
  let (negative, body) := minus cs
  match dropWord ['0'] body with
  | some rest => numberFrom negative ['0'.toNat] rest
  | none =>
    let (ds, rest) := spanDigits body
    if ds.isEmpty then .error .malformed else numberFrom negative ds rest

/-! ## Values -/

/-- A value that is no text, list or object: a word or a number. -/
def scalar (cs : List Nat) : Read Json :=
  match word? cs with
  | some found => .ok found
  | none => number cs

mutual

/-- A value after any blanks; the second number says how many brackets may still be opened inside
each other. -/
def value : Nat → Nat → List Nat → Read Json
  | 0, _, _ => .error .malformed
  | fuel + 1, room, cs =>
    match skip cs with
    | [] => .error .malformed
    | c :: rest =>
      if c = '\x22'.toNat then (text fuel rest).map fun (t, after) => (.str t, after)
      else if c = '['.toNat then
        match room with
        | 0 => .error .tooLarge
        | room + 1 =>
          match dropWord [']'] (skip rest) with
          | some after => .ok (.arr [], after)
          | none => items fuel room rest []
      else if c = '\x7b'.toNat then
        match room with
        | 0 => .error .tooLarge
        | room + 1 =>
          match dropWord ['\x7d'] (skip rest) with
          | some after => .ok (.obj [], after)
          | none => members fuel room rest []
      else scalar (c :: rest)

/-- The items of a list up to its closing bracket; `acc` holds those already read, in reverse. -/
def items : Nat → Nat → List Nat → List Json → Read Json
  | 0, _, _, _ => .error .malformed
  | fuel + 1, room, cs, acc =>
    match value fuel room cs with
    | .error failure => .error failure
    | .ok (item, rest) =>
      match skip rest with
      | [] => .error .malformed
      | c :: after =>
        if c = ','.toNat then items fuel room after (item :: acc)
        else if c = ']'.toNat then .ok (.arr (item :: acc).reverse, after)
        else .error .malformed

/-- The members of an object up to its closing brace; `acc` holds those already read, in
reverse. -/
def members : Nat → Nat → List Nat → List (Text × Json) → Read Json
  | 0, _, _, _ => .error .malformed
  | fuel + 1, room, cs, acc =>
    match dropWord ['\x22'] (skip cs) with
    | none => .error .malformed
    | some quoted =>
      match text fuel quoted with
      | .error failure => .error failure
      | .ok (name, afterName) =>
        match dropWord [':'] (skip afterName) with
        | none => .error .malformed
        | some rest =>
          match value fuel room rest with
          | .error failure => .error failure
          | .ok (item, afterItem) =>
            match skip afterItem with
            | [] => .error .malformed
            | c :: after =>
              if c = ','.toNat then members fuel room after ((name, item) :: acc)
              else if c = '\x7d'.toNat then
                .ok (.obj (Object.ofMembers ((name, item) :: acc).reverse), after)
              else .error .malformed

end

end Reader

/-- The value that code points stand for, if they are JSON and nothing else. -/
def ofCodes (cs : List Nat) : Except Failure Json :=
  match Reader.value (2 * cs.length + 2) Reader.deepest cs with
  | .ok (j, rest) => if (Reader.skip rest).isEmpty then .ok j else .error .malformed
  | .error failure => .error failure

/-- The value that a text stands for, if there is one. -/
def parse? (source : String) : Option Json :=
  (ofCodes (source.toList.map Char.toNat)).toOption

end WastePickup.Json
