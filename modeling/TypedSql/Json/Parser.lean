import TypedSql.Json.Basic
import TypedSql.Text.Number

/-!
# Reading JSON

The strict grammar: no comments, no trailing commas, nothing after the value.
Texts must not hold raw control characters, and escaped surrogates have to
come in pairs.  The text is first cut into tokens, and the tokens are then
read as a value.  Every step leaves a shorter rest, so reading always ends.
-/

namespace TypedSql
namespace Json

/-! ## Texts -/

/-- The characters up to the quote that closes a text, and what follows it. -/
def splitText : List Char → Option (List Char × List Char)
  | [] => none
  | '"' :: rest => some ([], rest)
  | '\\' :: c :: rest =>
    (splitText rest).map fun (body, after) => ('\\' :: c :: body, after)
  | c :: rest => (splitText rest).map fun (body, after) => (c :: body, after)

theorem length_lt_of_splitText
    {text body after : List Char}
    (split : splitText text = some (body, after)) :
    after.length < text.length := by
  fun_induction splitText text generalizing body with
  | case1 => simp at split
  | case2 rest =>
      obtain ⟨_, rfl⟩ := Prod.mk.inj (Option.some.inj split)
      simp
  | case3 c rest inductionHypothesis =>
      obtain ⟨⟨inner, found⟩, innerSplit, parts⟩ :=
        Option.map_eq_some_iff.1 split
      obtain ⟨_, rfl⟩ := Prod.mk.inj parts
      have shorter := inductionHypothesis innerSplit
      simp only [List.length_cons]
      omega
  | case4 c rest _ _ inductionHypothesis =>
      obtain ⟨⟨inner, found⟩, innerSplit, parts⟩ :=
        Option.map_eq_some_iff.1 split
      obtain ⟨_, rfl⟩ := Prod.mk.inj parts
      have shorter := inductionHypothesis innerSplit
      simp only [List.length_cons]
      omega

/-- The character of a one-letter escape. -/
def shortEscape : Char → Option Char
  | '"' => some '"'
  | '\\' => some '\\'
  | '/' => some '/'
  | 'b' => some '\x08'
  | 'f' => some '\x0c'
  | 'n' => some '\n'
  | 'r' => some '\r'
  | 't' => some '\t'
  | _ => none

/-- The code points of a text, escaped surrogates still by themselves. -/
def codePoints : List Char → Option (List Nat)
  | [] => some []
  | '\\' :: 'u' :: a :: b :: c :: d :: rest => do
    let code ← Text.digitsValue 16 Text.hexDigit [a, b, c, d]
    let codes ← codePoints rest
    pure (code :: codes)
  | '\\' :: c :: rest => do
    let plain ← shortEscape c
    let codes ← codePoints rest
    pure (plain.toNat :: codes)
  | c :: rest =>
    if c = '\\' ∨ c.toNat < 0x20 then
      none
    else
      (codePoints rest).map (c.toNat :: ·)

/-- Whether a code is the first half of a pair of surrogates. -/
def isHighSurrogate (code : Nat) : Bool :=
  0xD800 ≤ code && code < 0xDC00

/-- Whether a code is the second half of a pair of surrogates. -/
def isLowSurrogate (code : Nat) : Bool :=
  0xDC00 ≤ code && code < 0xE000

/-- Join pairs of surrogates, which must not stand alone. -/
def joinSurrogates : List Nat → Option (List Char)
  | [] => some []
  | code :: rest =>
    if isHighSurrogate code then
      match rest with
      | low :: rest' =>
        if isLowSurrogate low then
          (joinSurrogates rest').map
            (Char.ofNat
              (0x10000 + (code - 0xD800) * 0x400 + (low - 0xDC00)) :: ·)
        else
          none
      | [] => none
    else if isLowSurrogate code then
      none
    else
      (joinSurrogates rest).map (Char.ofNat code :: ·)

/-- The text that is written between two quotes. -/
def readText (body : List Char) : Option String := do
  let codes ← codePoints body
  let chars ← joinSurrogates codes
  pure (String.ofList chars)

/-! ## Numbers -/

/-- The characters that a number may consist of. -/
def isNumberChar (c : Char) : Bool :=
  c.isDigit || c == '+' || c == '-' || c == '.' || c == 'e' || c == 'E'

/-- Drop digits, of which there has to be one. -/
def dropDigits : List Char → Option (List Char)
  | c :: rest => if c.isDigit then some (rest.dropWhile Char.isDigit) else none
  | [] => none

/-- Whether characters are an exponent or nothing. -/
def isExponent : List Char → Bool
  | [] => true
  | c :: rest =>
    (c == 'e' || c == 'E') &&
      match rest with
      | '+' :: digits | '-' :: digits => dropDigits digits == some []
      | digits => dropDigits digits == some []

/-- Whether characters are a number. -/
def isNumber (chars : List Char) : Bool :=
  let unsigned :=
    match chars with
    | '-' :: rest => rest
    | whole => whole
  let afterWhole :=
    match unsigned with
    | '0' :: rest => some rest
    | digits => dropDigits digits
  match afterWhole with
  | none => false
  | some ('.' :: fraction) => (dropDigits fraction).any isExponent
  | some rest => isExponent rest

/-! ## Tokens -/

/-- A piece of JSON text. -/
inductive Token where
  | openList
  | closeList
  | openObject
  | closeObject
  | comma
  | colon
  | scalar (value : Json)

/-- The blanks that may stand between tokens. -/
def isGap (c : Char) : Bool :=
  c == ' ' || c == '\n' || c == '\r' || c == '\t'

/-- Cut a text into tokens. -/
def tokens (text : List Char) : Option (List Token) :=
  match text with
  | [] => some []
  | '[' :: rest => (tokens rest).map (.openList :: ·)
  | ']' :: rest => (tokens rest).map (.closeList :: ·)
  | '\x7b' :: rest => (tokens rest).map (.openObject :: ·)
  | '\x7d' :: rest => (tokens rest).map (.closeObject :: ·)
  | ',' :: rest => (tokens rest).map (.comma :: ·)
  | ':' :: rest => (tokens rest).map (.colon :: ·)
  | 'n' :: 'u' :: 'l' :: 'l' :: rest =>
    (tokens rest).map (.scalar .null :: ·)
  | 't' :: 'r' :: 'u' :: 'e' :: rest =>
    (tokens rest).map (.scalar (.bool true) :: ·)
  | 'f' :: 'a' :: 'l' :: 's' :: 'e' :: rest =>
    (tokens rest).map (.scalar (.bool false) :: ·)
  | '"' :: rest =>
    match split : splitText rest with
    | none => none
    | some (body, after) =>
      have := length_lt_of_splitText split
      match readText body with
      | none => none
      | some value => (tokens after).map (.scalar (.text value) :: ·)
  | c :: rest =>
    if isGap c then
      tokens rest
    else
      let literal := c :: rest.takeWhile isNumberChar
      have := (List.dropWhile_sublist (l := rest) isNumberChar).length_le
      if isNumber literal then
        (tokens (rest.dropWhile isNumberChar)).map
          (.scalar (.number (String.ofList literal)) :: ·)
      else
        none
termination_by text.length
decreasing_by all_goals simp only [List.length_cons]; omega

/-! ## Values -/

/-- What was read and the tokens that follow it, which are fewer. -/
abbrev Reading (α : Type) (tokens : List Token) : Type :=
  Option (α × {rest : List Token // rest.length < tokens.length})

mutual

/-- Read one value. -/
def readValue (tokens : List Token) : Reading Json tokens :=
  match tokens with
  | .scalar value :: rest =>
    some (value, ⟨rest, by simp only [List.length_cons]; omega⟩)
  | .openList :: .closeList :: rest =>
    some (.list [], ⟨rest, by simp only [List.length_cons]; omega⟩)
  | .openList :: rest => do
    let (items, ⟨after, shorter⟩) ← readItems rest
    pure (.list items, ⟨after, by simp only [List.length_cons]; omega⟩)
  | .openObject :: .closeObject :: rest =>
    some (.object [], ⟨rest, by simp only [List.length_cons]; omega⟩)
  | .openObject :: rest => do
    let (fields, ⟨after, shorter⟩) ← readFields rest
    pure (.object fields, ⟨after, by simp only [List.length_cons]; omega⟩)
  | _ => none
termination_by (tokens.length, 0)

/-- Read the items of a list that is not empty, up to its end. -/
def readItems (tokens : List Token) : Reading (List Json) tokens := do
  let (item, ⟨rest, shorter⟩) ← readValue tokens
  match rest, shorter with
  | .closeList :: after, shorter =>
    pure ([item], ⟨after, by simp only [List.length_cons] at shorter; omega⟩)
  | .comma :: rest', shorter =>
    have : rest'.length < tokens.length := by
      simp only [List.length_cons] at shorter
      omega
    let (items, ⟨after, restShorter⟩) ← readItems rest'
    pure (item :: items, ⟨after, by omega⟩)
  | _, _ => none
termination_by (tokens.length, 1)

/-- Read the fields of an object that is not empty, up to its end. -/
def readFields (tokens : List Token) : Reading (List (String × Json)) tokens :=
  match tokens with
  | .scalar (.text name) :: .colon :: valueTokens => do
    let (value, ⟨rest, shorter⟩) ← readValue valueTokens
    match rest, shorter with
    | .closeObject :: after, shorter =>
      pure
        ([(name, value)],
          ⟨after, by simp only [List.length_cons] at shorter ⊢; omega⟩)
    | .comma :: rest', shorter =>
      have : rest'.length < valueTokens.length := by
        simp only [List.length_cons] at shorter
        omega
      let (fields, ⟨after, restShorter⟩) ← readFields rest'
      pure
        ((name, value) :: fields,
          ⟨after, by simp only [List.length_cons]; omega⟩)
    | _, _ => none
  | _ => none
termination_by (tokens.length, 1)

end

/-- Read a text that is one JSON value. -/
def parse (text : String) : Option Json := do
  let (value, ⟨rest, _⟩) ← readValue (← tokens text.toList)
  if rest.isEmpty then pure value else none

end Json
end TypedSql
