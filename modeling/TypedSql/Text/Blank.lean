/-!
# Blank characters and trimming

Blanks are the characters of the Unicode property `White_Space`.  Trimming
removes them from both ends of a text and leaves every other character,
including the invisible ones that are not blanks, where it is.
-/

namespace TypedSql
namespace Text

/-- A character of the Unicode property `White_Space`. -/
def isBlank (c : Char) : Bool :=
  (0x09 ≤ c.toNat && c.toNat ≤ 0x0D) ||
  c.toNat == 0x20 ||
  c.toNat == 0x85 ||
  c.toNat == 0xA0 ||
  c.toNat == 0x1680 ||
  (0x2000 ≤ c.toNat && c.toNat ≤ 0x200A) ||
  c.toNat == 0x2028 ||
  c.toNat == 0x2029 ||
  c.toNat == 0x202F ||
  c.toNat == 0x205F ||
  c.toNat == 0x3000

/-- The characters from the first that is not blank on. -/
def trimStart (text : List Char) : List Char :=
  text.dropWhile isBlank

/-- The characters up to the last that is not blank. -/
def trimEnd (text : List Char) : List Char :=
  (text.reverse.dropWhile isBlank).reverse

/-- A text without the blanks at its two ends. -/
def trim (text : String) : String :=
  String.ofList (trimEnd (trimStart text.toList))

/-- A text of blanks only; the empty text is one. -/
def isBlankText (text : String) : Bool :=
  text.toList.all isBlank

end Text
end TypedSql
