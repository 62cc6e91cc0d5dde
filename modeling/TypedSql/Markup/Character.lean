import TypedSql.Text.CodePoint

/-!
# Characters of markup

Which characters a document may hold, which separate the parts of a tag, and
which make up names.  The classes are those of XML 1.0.
-/

namespace TypedSql
namespace Markup

/-- A character that separates the parts of a tag. -/
def isSpace (c : Char) : Bool :=
  c == ' ' || c == '\t' || c == '\n' || c == '\r'

/-- A character that a document may hold. -/
def isAllowed (c : Char) : Bool :=
  if c.toNat < 0x20 then
    isSpace c
  else
    c.toNat ≠ 0xFFFE && c.toNat ≠ 0xFFFF

/-- The code points at which a name may start, the colon apart. -/
def nameStartRanges : List (Nat × Nat) :=
  [(0x41, 0x5A), (0x5F, 0x5F), (0x61, 0x7A), (0xC0, 0xD6), (0xD8, 0xF6),
    (0xF8, 0x2FF), (0x370, 0x37D), (0x37F, 0x1FFF), (0x200C, 0x200D),
    (0x2070, 0x218F), (0x2C00, 0x2FEF), (0x3001, 0xD7FF), (0xF900, 0xFDCF),
    (0xFDF0, 0xFFFD), (0x10000, 0xEFFFF)]

/-- The code points that a name may only go on with. -/
def nameOnlyRanges : List (Nat × Nat) :=
  [(0x2D, 0x2E), (0x30, 0x39), (0xB7, 0xB7), (0x300, 0x36F),
    (0x203F, 0x2040)]

/-- A character at which a name may start, the colon apart. -/
def isNameStart (c : Char) : Bool :=
  Text.inRanges nameStartRanges c.toNat

/-- A character of a name, the colon apart. -/
def isNameChar (c : Char) : Bool :=
  isNameStart c || Text.inRanges nameOnlyRanges c.toNat

end Markup
end TypedSql
