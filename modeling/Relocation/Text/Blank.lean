/-!
# Blank characters

The characters with the Unicode property `White_Space`, and texts without the blanks
at their ends.
-/

namespace Relocation.Blank

/-- The code points with the property `White_Space`, as ranges with both ends included. -/
def ranges : List (Nat × Nat) :=
  [(0x9, 0xD), (0x20, 0x20), (0x85, 0x85), (0xA0, 0xA0), (0x1680, 0x1680), (0x2000, 0x200A),
    (0x2028, 0x2029), (0x202F, 0x202F), (0x205F, 0x205F), (0x3000, 0x3000)]

/-- Whether a character is blank. -/
def isBlank (c : Char) : Bool :=
  ranges.any fun (low, high) => decide (low ≤ c.toNat ∧ c.toNat ≤ high)

/-- A text without the blanks at its start and at its end. -/
def trim (text : List Char) : List Char :=
  ((text.dropWhile isBlank).reverse.dropWhile isBlank).reverse

end Relocation.Blank
