/-!
# White space

The characters of the Unicode property `White_Space`, and the two operations that use
it: cutting a text at both ends and counting its words.
-/

namespace ProcessorHost.Text

/-- The Unicode property `White_Space`. -/
def isBlank (c : Char) : Bool :=
  let n := c.toNat
  (9 ≤ n && n ≤ 13) || n == 0x20 || n == 0x85 || n == 0xa0 || n == 0x1680 ||
    (0x2000 ≤ n && n ≤ 0x200a) || n == 0x2028 || n == 0x2029 || n == 0x202f ||
    n == 0x205f || n == 0x3000

/-- The text without the white space at its ends. -/
def trimChars (cs : List Char) : List Char :=
  ((cs.dropWhile isBlank).reverse.dropWhile isBlank).reverse

def trim (s : String) : String := String.ofList (trimChars s.toList)

/-- The number of maximal runs of characters that are not white space, where `inside`
says whether the characters before belong to such a run. -/
def countRuns (inside : Bool) : List Char → Nat → Nat
  | [], n => n
  | c :: rest, n =>
    if isBlank c then countRuns false rest n
    else countRuns true rest (if inside then n else n + 1)

/-- The number of words of a text. -/
def wordCount (s : String) : Nat := countRuns false s.toList 0

end ProcessorHost.Text
