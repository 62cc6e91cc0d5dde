import TypedSql.Json.Basic

/-!
# Writing JSON

Two written forms of a value: a compact one without any blanks, and one for
readers, which gives every item and every field a line of its own, two spaces
further in than what holds it.  Only quotes, backslashes and control
characters are escaped.
-/

namespace TypedSql
namespace Json

/-- The last two digits of a control character's escape. -/
def controlDigits (c : Char) : List Char :=
  [Nat.digitChar (c.toNat / 16), Nat.digitChar (c.toNat % 16)]

/-- The written form of one character of a text. -/
def escapedChar (c : Char) : List Char :=
  match c with
  | '"' => ['\\', '"']
  | '\\' => ['\\', '\\']
  | '\n' => ['\\', 'n']
  | '\r' => ['\\', 'r']
  | '\t' => ['\\', 't']
  | '\x08' => ['\\', 'b']
  | '\x0c' => ['\\', 'f']
  | c => if c.toNat < 0x20 then "\\u00".toList ++ controlDigits c else [c]

/-- The written form of a text. -/
def writtenText (text : String) : String :=
  String.ofList ('"' :: text.toList.flatMap escapedChar ++ ['"'])

mutual

/-- The written form without blanks. -/
def compact : Json → String
  | .null => "null"
  | .bool true => "true"
  | .bool false => "false"
  | .number literal => literal
  | .text value => writtenText value
  | .list items => "[" ++ compactItems items ++ "]"
  | .object fields => "\x7b" ++ compactFields fields ++ "\x7d"

/-- The items of a list without blanks. -/
def compactItems : List Json → String
  | [] => ""
  | [item] => item.compact
  | item :: rest => item.compact ++ "," ++ compactItems rest

/-- The fields of an object without blanks. -/
def compactFields : List (String × Json) → String
  | [] => ""
  | [(name, value)] => writtenText name ++ ":" ++ value.compact
  | (name, value) :: rest =>
    writtenText name ++ ":" ++ value.compact ++ "," ++ compactFields rest

end

/-- The blanks at the start of a line. -/
def margin (depth : Nat) : String :=
  String.ofList (List.replicate (2 * depth) ' ')

mutual

/-- The written form for readers, from within `depth` enclosing values. -/
def prettyAt (depth : Nat) : Json → String
  | .list [] => "[]"
  | .list (item :: rest) =>
    "[\n" ++ prettyItems (depth + 1) (item :: rest) ++ "\n" ++
      margin depth ++ "]"
  | .object [] => "\x7b\x7d"
  | .object (field :: rest) =>
    "\x7b\n" ++ prettyFields (depth + 1) (field :: rest) ++ "\n" ++
      margin depth ++ "\x7d"
  | value => value.compact

/-- The items of a list, a line each. -/
def prettyItems (depth : Nat) : List Json → String
  | [] => ""
  | [item] => margin depth ++ item.prettyAt depth
  | item :: rest =>
    margin depth ++ item.prettyAt depth ++ ",\n" ++ prettyItems depth rest

/-- The fields of an object, a line each. -/
def prettyFields (depth : Nat) : List (String × Json) → String
  | [] => ""
  | [(name, value)] =>
    margin depth ++ writtenText name ++ ": " ++ value.prettyAt depth
  | (name, value) :: rest =>
    margin depth ++ writtenText name ++ ": " ++ value.prettyAt depth ++
      ",\n" ++ prettyFields depth rest

end

/-- The written form for readers. -/
def pretty (value : Json) : String :=
  value.prettyAt 0

end Json
end TypedSql
