import WastePickup.Json

/-!
# Request targets

A request target is a path, perhaps with a query. Dot segments are resolved before anything is
decoded; then a percent sign with two hexadecimal digits stands for a byte, and the bytes are read
as UTF-8, a byte that belongs to no character becoming U+FFFD. In a query `+` is a blank, and the
last of several parameters of one name counts.
-/

namespace WastePickup

namespace Target

/-! ## Percent encoding -/

/-- The value of a hexadecimal digit. -/
def hexDigit (b : Nat) : Option Nat :=
  if 0x30 ≤ b ∧ b ≤ 0x39 then some (b - 0x30)
  else if 0x41 ≤ b ∧ b ≤ 0x46 then some (b - 0x37)
  else if 0x61 ≤ b ∧ b ≤ 0x66 then some (b - 0x57)
  else none

/-- Replace every percent sequence by the byte it stands for. -/
def unescape : List Nat → List Nat
  | 0x25 :: high :: low :: rest =>
    match hexDigit high, hexDigit low with
    | some h, some l => (16 * h + l) :: unescape rest
    | _, _ => 0x25 :: unescape (high :: low :: rest)
  | b :: rest => b :: unescape rest
  | [] => []
termination_by bytes => bytes.length

/-- A byte that continues a character. -/
def isContinuation (b : Nat) : Bool :=
  0x80 ≤ b && b < 0xC0

/-- The code point in front of a list of bytes, and how many bytes it takes. -/
def codePoint? (bytes : List Nat) : Option (Nat × Nat) :=
  match bytes with
  | [] => none
  | a :: rest =>
    if a < 0x80 then some (a, 1)
    else
      match rest with
      | b :: more =>
        if !isContinuation b then none
        else if 0xC2 ≤ a ∧ a < 0xE0 then some ((a - 0xC0) * 0x40 + (b - 0x80), 2)
        else
          match more with
          | c :: last =>
            if !isContinuation c then none
            else if 0xE0 ≤ a ∧ a < 0xF0 then
              let n := (a - 0xE0) * 0x1000 + (b - 0x80) * 0x40 + (c - 0x80)
              if n < 0x800 ∨ (0xD800 ≤ n ∧ n < 0xE000) then none else some (n, 3)
            else
              match last with
              | d :: _ =>
                let n := (a - 0xF0) * 0x40000 + (b - 0x80) * 0x1000 + (c - 0x80) * 0x40 + (d - 0x80)
                if a < 0xF0 ∨ 0xF5 ≤ a ∨ !isContinuation d ∨ n < 0x10000 ∨ 0x110000 ≤ n then none
                else some (n, 4)
              | [] => none
          | [] => none
      | [] => none

/-- The characters of bytes in UTF-8; the number bounds the bytes still to be read. -/
def utf8 : Nat → List Nat → List Char
  | 0, _ => []
  | _, [] => []
  | fuel + 1, b :: rest =>
    match codePoint? (b :: rest) with
    | some (n, size) => Char.ofNat n :: utf8 fuel (rest.drop (size - 1))
    | none => Char.ofNat 0xFFFD :: utf8 fuel rest

/-- The text that percent-encoded characters stand for. -/
def decode (cs : List Char) : String :=
  let bytes := unescape ((String.ofList cs).toUTF8.toList.map UInt8.toNat)
  String.ofList (utf8 bytes.length bytes)

/-! ## Splitting -/

/-- The parts of a list between the occurrences of a character. -/
def splitOn (mark : Char) : List Char → List (List Char)
  | [] => [[]]
  | c :: rest =>
    match splitOn mark rest with
    | [] => [[c]]
    | part :: parts => if c = mark then [] :: part :: parts else (c :: part) :: parts

/-- Resolve the segments `.` and `..`; the resolved segments so far are in reverse. -/
def resolveDots : List (List Char) → List (List Char) → List (List Char)
  | [], done => done.reverse
  | ['.'] :: rest, done => resolveDots rest done
  | ['.', '.'] :: rest, done =>
    match done with
    | [] | [[]] => resolveDots rest done
    | _ :: before => resolveDots rest before
  | segment :: rest, done => resolveDots rest (segment :: done)

/-- One parameter of a query. -/
def parameter (cs : List Char) : Json.Text × Json :=
  let blank (c : Char) : Char := if c = '+' then ' ' else c
  let name := cs.takeWhile (· ≠ '=')
  let value := (cs.dropWhile (· ≠ '=')).drop 1
  (decode (name.map blank), .str (decode (value.map blank)))

/-- The parameters of a query. -/
def parameters (cs : List Char) : Json.Object :=
  Json.Object.ofMembers (((splitOn '&' cs).filter fun part => !part.isEmpty).map parameter)

end Target

/-- A request target that has been taken apart. -/
structure Target where
  path : String
  query : Json.Object

/-- Take a request target apart. A fragment does not belong to it. -/
def Target.ofText (text : String) : Target :=
  let cs := text.toList.takeWhile (· ≠ '#')
  let segments := Target.splitOn '/' (cs.takeWhile (· ≠ '?'))
  let path := ['/'].intercalate (Target.resolveDots segments [])
  ⟨Target.decode path, Target.parameters ((cs.dropWhile (· ≠ '?')).drop 1)⟩

/-- The segments of a decoded path. -/
def Target.segments (target : Target) : List String :=
  (Target.splitOn '/' target.path.toList).map String.ofList

end WastePickup
