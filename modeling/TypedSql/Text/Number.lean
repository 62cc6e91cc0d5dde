/-!
# Reading numbers

Numbers of a fixed width in decimal digits: ASCII digits only, at least one of
them, an optional plus sign, and a minus sign only where negative numbers
exist.  A number outside of the range is refused.
-/

namespace TypedSql
namespace Text

/-- The value of a decimal digit. -/
def decimalDigit (c : Char) : Option Nat :=
  if c.isDigit then some (c.toNat - '0'.toNat) else none

/-- The value of a hexadecimal digit. -/
def hexDigit (c : Char) : Option Nat :=
  if c.isDigit then some (c.toNat - '0'.toNat)
  else if 'a' ≤ c ∧ c ≤ 'f' then some (c.toNat - 'a'.toNat + 10)
  else if 'A' ≤ c ∧ c ≤ 'F' then some (c.toNat - 'A'.toNat + 10)
  else none

/-- The value of digits in a base, of which there must be one. -/
def digitsValue
    (base : Nat)
    (digit : Char → Option Nat)
    (digits : List Char) :
    Option Nat :=
  if digits.isEmpty then
    none
  else
    digits.foldlM (fun value c => (value * base + ·) <$> digit c) 0

/-- The value of decimal digits. -/
def readDecimal (digits : List Char) : Option Nat :=
  digitsValue 10 decimalDigit digits

/-- How many numbers a width in bits can tell apart. -/
def valueCount (width : Nat) : Nat :=
  Nat.pow 2 width

/-- Read an unsigned number of at most `width` bits. -/
def readUnsigned (width : Nat) (text : String) : Option Nat :=
  let digits :=
    match text.toList with
    | '+' :: rest => rest
    | whole => whole
  (readDecimal digits).filter (· < valueCount width)

/-- Read a number in two's complement of `width` bits. -/
def readSigned (width : Nat) (text : String) : Option Int :=
  match text.toList with
  | '-' :: rest =>
    (readDecimal rest).bind fun n =>
      if n ≤ valueCount (width - 1) then some (-n) else none
  | '+' :: rest => nonnegative rest
  | whole => nonnegative whole
where
  nonnegative (digits : List Char) : Option Int :=
    (readDecimal digits).bind fun n =>
      if n < valueCount (width - 1) then some n else none

/-- Read one of the two truth values. -/
def readBool (text : String) : Option Bool :=
  if text = "true" then some true
  else if text = "false" then some false
  else none

end Text
end TypedSql
