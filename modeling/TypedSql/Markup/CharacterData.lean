import TypedSql.Markup.Character
import TypedSql.Markup.Error
import TypedSql.Text.Number
import TypedSql.Text.Search

/-!
# Character data

What the text and the attribute values of a document stand for.  References
are replaced by their characters.  In text every line break becomes a line
feed, but the one character right behind a reference is copied as it is, and
a carriage return that was copied becomes a line break only with the next
ordinary character.  In attribute values every line break and every tab
becomes a space, unless it is written as a reference.
-/

namespace TypedSql
namespace Markup

/-! ## References -/

/-- The character of a code of at most 32 bits.  A code that no character has
stands for the replacement character. -/
def characterOf (code : Nat) : Option Char :=
  if Text.valueCount 32 ≤ code then
    none
  else
    let c := if code.isValidChar then Char.ofNat code else '\ufffd'
    if isAllowed c then some c else none

/-- The character that is named between an ampersand and a semicolon. -/
def referencedCharacter : List Char → Option Char
  | ['l', 't'] => some '<'
  | ['g', 't'] => some '>'
  | ['a', 'm', 'p'] => some '&'
  | ['q', 'u', 'o', 't'] => some '"'
  | ['a', 'p', 'o', 's'] => some '\x27'
  | '#' :: 'x' :: digits =>
    (Text.digitsValue 16 Text.hexDigit digits).bind characterOf
  | '#' :: digits => (Text.readDecimal digits).bind characterOf
  | _ => none

/-- A character of the document, and whether a reference stands for it. -/
inductive Piece where
  | plain (c : Char)
  | referenced (c : Char)
  deriving DecidableEq, Repr

/-- Replace the references of a text. -/
def pieces (text : List Char) : Except Error (List Piece) :=
  match text with
  | [] => .ok []
  | '&' :: rest =>
    match cut : Text.cutAt [';'] rest with
    | none => .error .malformedReference
    | some (name, after) =>
      have := Text.length_lt_of_cutAt (by simp) cut
      match referencedCharacter name with
      | none => .error .malformedReference
      | some c => (.referenced c :: ·) <$> pieces after
  | c :: rest => (.plain c :: ·) <$> pieces rest
termination_by text.length
decreasing_by all_goals simp only [List.length_cons]; omega

/-! ## Line breaks -/

/-- Copy an ordinary character behind what was copied already, newest first.
A carriage return that was copied before becomes a line feed now. -/
def copyOrdinary (copied : List Char) (isLast : Bool) (c : Char) : List Char :=
  let c' := if isLast && c == '\r' then '\n' else c
  match copied with
  | '\r' :: before =>
    if c = '\n' then '\n' :: before else c' :: '\n' :: before
  | _ => c' :: copied

/-- Copy the pieces of a text behind what was copied already, newest first.
`verbatim` tells that a reference came right before. -/
def copyText (copied : List Char) (verbatim : Bool) : List Piece → List Char
  | [] => copied.reverse
  | .referenced c :: rest => copyText (c :: copied) true rest
  | .plain c :: rest =>
    if verbatim then
      copyText (c :: copied) false rest
    else
      copyText (copyOrdinary copied rest.isEmpty c) false rest

/-- What a text between tags stands for. -/
def textContent (text : List Char) : Except Error String :=
  (fun found => String.ofList (copyText [] false found)) <$> pieces text

/-- What a character data section stands for, which holds no references. -/
def sectionContent (text : List Char) : String :=
  String.ofList (copyText [] false (text.map .plain))

/-- Replace the blanks of an attribute value by spaces. -/
def copyValue : List Piece → List Char
  | [] => []
  | .plain '\r' :: .plain '\n' :: rest => ' ' :: copyValue rest
  | .plain c :: rest => (if isSpace c then ' ' else c) :: copyValue rest
  | .referenced c :: rest => c :: copyValue rest

/-- What an attribute value stands for. -/
def valueContent (text : List Char) : Except Error String :=
  (fun found => String.ofList (copyValue found)) <$> pieces text

end Markup
end TypedSql
