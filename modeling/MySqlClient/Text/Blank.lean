/-!
# White space

The Unicode property White_Space, and trimming by it.
-/

namespace MySqlClient.Text

/-- The code points with the Unicode property White_Space, as ranges with both ends included. -/
def blankRanges : List (Nat × Nat) :=
  [(0x09, 0x0D), (0x20, 0x20), (0x85, 0x85), (0xA0, 0xA0), (0x1680, 0x1680), (0x2000, 0x200A),
    (0x2028, 0x2029), (0x202F, 0x202F), (0x205F, 0x205F), (0x3000, 0x3000)]

/-- Whether a character is white space. -/
def isBlank (c : Char) : Bool :=
  blankRanges.any fun (low, high) => low ≤ c.toNat && c.toNat ≤ high

/-- Drop from the end what satisfies the test. -/
def dropTrailing (test : Char → Bool) (text : List Char) : List Char :=
  (text.reverse.dropWhile test).reverse

/-- Drop white space at both ends. -/
def trim (text : List Char) : List Char :=
  dropTrailing isBlank (text.dropWhile isBlank)

end MySqlClient.Text
