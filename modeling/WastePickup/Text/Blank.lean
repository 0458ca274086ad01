/-!
# Blanks

Two sets of blank characters are in use. `isSpace` is the Unicode property `White_Space`; numbers
in requests may be surrounded by it. `isBlank` adds the four information separators `U+001C` to
`U+001F`; reasons given for a cancellation lose it at both ends.

* `length_trim_le`: trimming never makes a text longer.
-/

namespace WastePickup.Text

/-- The Unicode property `White_Space`. -/
def isSpace (c : Char) : Bool :=
  let n := c.toNat
  (0x09 ≤ n && n ≤ 0x0D) || n == 0x20 || n == 0x85 || n == 0xA0 || n == 0x1680 ||
    (0x2000 ≤ n && n ≤ 0x200A) || n == 0x2028 || n == 0x2029 || n == 0x202F || n == 0x205F ||
    n == 0x3000

/-- A space or one of the four information separators. -/
def isBlank (c : Char) : Bool :=
  isSpace c || (0x1C ≤ c.toNat && c.toNat ≤ 0x1F)

/-- Drop the characters of a class from both ends of a list. -/
def trimChars (drop : Char → Bool) (cs : List Char) : List Char :=
  ((cs.dropWhile drop).reverse.dropWhile drop).reverse

/-- Drop the characters of a class from both ends of a text. -/
def trim (drop : Char → Bool) (s : String) : String :=
  String.ofList (trimChars drop s.toList)

/-- Dropping characters at both ends never makes a list longer. -/
theorem length_trimChars_le (drop : Char → Bool) (cs : List Char) :
    (trimChars drop cs).length ≤ cs.length := by
  unfold trimChars
  rw [List.length_reverse]
  refine Nat.le_trans (List.dropWhile_suffix _).length_le ?_
  rw [List.length_reverse]
  exact (List.dropWhile_suffix _).length_le

/-- Trimming never makes a text longer. -/
theorem length_trim_le (drop : Char → Bool) (s : String) : (trim drop s).length ≤ s.length := by
  have h := length_trimChars_le drop s.toList
  rwa [String.length_toList, ← String.length_ofList] at h

end WastePickup.Text
