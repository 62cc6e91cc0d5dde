import TypedSql.Markup.Character
import TypedSql.Markup.Error
import TypedSql.Markup.Position
import TypedSql.Text.Search

/-!
# Markup tokens

The pieces that a document is cut into: tags, text, character data sections,
comments and processing instructions, each with the position at which it
starts.  References are left alone, and so is the way in which tags nest.

Every reader takes at least one character, so that cutting always ends.
-/

namespace TypedSql
namespace Markup

/-- A name with an optional qualifier, which is empty when there is none. -/
structure QName where
  qualifier : String
  localName : String
  deriving DecidableEq, Repr

/-- An attribute as it is written in a tag. -/
structure RawAttribute where
  name : QName
  /-- The characters between the quotes. -/
  value : List Char
  deriving DecidableEq, Repr

/-- A piece of a document. -/
inductive Token where
  | text (content : List Char)
  | section (content : List Char)
  | startTag (name : QName) (attributes : List RawAttribute)
  | emptyTag (name : QName) (attributes : List RawAttribute)
  | endTag (name : QName)
  | comment
  | instruction
  deriving DecidableEq, Repr

/-- What was read from a text, and the rest, which is shorter. -/
abbrev Reading (α : Type) (text : List Char) : Type :=
  Except Error (α × {rest : List Char // rest.length < text.length})

theorem length_dropWhile_le (p : Char → Bool) (text : List Char) :
    (text.dropWhile p).length ≤ text.length :=
  (List.dropWhile_sublist p).length_le

/-! ## Names -/

/-- Whether a name starts with a character that may start one. -/
def startsName : List Char → Bool
  | [] => false
  | c :: _ => isNameStart c

theorem length_dropWhile_lt_of_startsName
    {text : List Char}
    (starts : startsName (text.takeWhile isNameChar)) :
    (text.dropWhile isNameChar).length < text.length := by
  have parts := congrArg List.length
    (List.takeWhile_append_dropWhile (p := isNameChar) (l := text))
  have nonempty : text.takeWhile isNameChar ≠ [] := by
    intro empty
    simp [empty, startsName] at starts
  have positive := List.length_pos_iff.2 nonempty
  simp only [List.length_append] at parts
  omega

/-- Read a name, in which one colon may end the qualifier. -/
def readName (text : List Char) : Reading QName text :=
  let first := text.takeWhile isNameChar
  match split : text.dropWhile isNameChar with
  | ':' :: rest =>
    let second := rest.takeWhile isNameChar
    if (first.isEmpty || startsName first) && startsName second then
      .ok
        (⟨String.ofList first, String.ofList second⟩,
          ⟨rest.dropWhile isNameChar, by
            have whole := length_dropWhile_le isNameChar text
            have part := length_dropWhile_le isNameChar rest
            rw [split, List.length_cons] at whole
            omega⟩)
    else
      .error .malformedName
  | rest =>
    if starts : startsName first then
      .ok
        (⟨"", String.ofList first⟩,
          ⟨rest, by
            rw [← split]
            exact length_dropWhile_lt_of_startsName starts⟩)
    else
      .error .malformedName

/-! ## Tags -/

/-- Read an attribute: a name, an equals sign and a quoted value. -/
def readAttribute (text : List Char) : Reading RawAttribute text := do
  let (name, ⟨afterName, nameShorter⟩) ← readName text
  match equals : afterName.dropWhile isSpace with
  | '=' :: afterEquals =>
    match opening : afterEquals.dropWhile isSpace with
    | quote :: afterQuote =>
      if quote = '"' ∨ quote = '\x27' then
        match closing : Text.cutAt [quote] afterQuote with
        | some (value, rest) =>
          if value.contains '<' then
            .error .malformedTag
          else
            pure
              (⟨name, value⟩,
                ⟨rest, by
                  have first := length_dropWhile_le isSpace afterName
                  have second := length_dropWhile_le isSpace afterEquals
                  have third := Text.length_lt_of_cutAt (by simp) closing
                  rw [equals, List.length_cons] at first
                  rw [opening, List.length_cons] at second
                  omega⟩)
        | none => .error .malformedTag
      else
        .error .malformedTag
    | [] => .error .malformedTag
  | _ => .error .malformedTag

/-- What follows the name of a start tag. -/
structure TagRest where
  attributes : List RawAttribute
  /-- Whether the element has no content and no end tag. -/
  isEmpty : Bool

/-- Read the attributes and the end of a tag.  Space has to stand before every
attribute. -/
def readTagRest (text : List Char) : Reading TagRest text :=
  have notLonger := length_dropWhile_le isSpace text
  match split : text.dropWhile isSpace with
  | '>' :: rest =>
    .ok
      (⟨[], false⟩,
        ⟨rest, by
          rw [split, List.length_cons] at notLonger
          omega⟩)
  | '/' :: '>' :: rest =>
    .ok
      (⟨[], true⟩,
        ⟨rest, by
          rw [split, List.length_cons, List.length_cons] at notLonger
          omega⟩)
  | spaced =>
    if spaced.length = text.length then
      .error .malformedTag
    else
      match readAttribute spaced with
      | .error error => .error error
      | .ok (first, ⟨afterFirst, shorter⟩) =>
        have : afterFirst.length < text.length := by
          rw [split] at notLonger
          omega
        match readTagRest afterFirst with
        | .error error => .error error
        | .ok (tag, ⟨rest, restShorter⟩) =>
          .ok
            ({ tag with attributes := first :: tag.attributes },
              ⟨rest, by omega⟩)
termination_by text.length
decreasing_by assumption

/-- Read the name and the end of an end tag. -/
def readEndTag (text : List Char) : Reading Token text := do
  let (name, ⟨afterName, nameShorter⟩) ← readName text
  match closing : afterName.dropWhile isSpace with
  | '>' :: rest =>
    pure
      (.endTag name,
        ⟨rest, by
          have whole := length_dropWhile_le isSpace afterName
          rw [closing, List.length_cons] at whole
          omega⟩)
  | _ => .error .malformedTag

/-- Read the name and what follows it of a start tag or an empty tag. -/
def readStartTag (text : List Char) : Reading Token text := do
  let (name, ⟨afterName, nameShorter⟩) ← readName text
  let (tag, ⟨rest, restShorter⟩) ← readTagRest afterName
  pure
    (if tag.isEmpty then .emptyTag name tag.attributes
      else .startTag name tag.attributes,
      ⟨rest, by omega⟩)

/-! ## Other markup -/

/-- Read a comment behind its opening mark.  Two hyphens in a row are only
allowed at its end. -/
def readComment (text : List Char) : Reading Token text :=
  match closing : Text.cutAt "-->".toList text with
  | some (body, rest) =>
    if Text.occursIn "--".toList body || body.getLast? == some '-' then
      .error .malformedComment
    else
      .ok (.comment, ⟨rest, Text.length_lt_of_cutAt (by decide) closing⟩)
  | none => .error .malformedComment

/-- Read a character data section behind its opening mark. -/
def readSection (text : List Char) : Reading Token text :=
  match closing : Text.cutAt "]]>".toList text with
  | some (content, rest) =>
    .ok (.section content, ⟨rest, Text.length_lt_of_cutAt (by decide) closing⟩)
  | none => .error .unclosedSection

/-- Read a processing instruction behind its opening mark. -/
def readInstruction (text : List Char) : Reading Token text :=
  let target := text.takeWhile fun c => isNameChar c || c == ':'
  if target.head?.any fun c => isNameStart c || c == ':' then
    match closing : Text.cutAt "?>".toList (text.drop target.length) with
    | some (_, rest) =>
      .ok
        (.instruction,
          ⟨rest, by
            have shorter := Text.length_lt_of_cutAt (by decide) closing
            simp only [List.length_drop] at shorter
            omega⟩)
    | none => .error .malformedInstruction
  else
    .error .malformedInstruction

/-- Read the text up to the next mark, of which there is at least one
character. -/
def readText (c : Char) (text : List Char) : Reading Token (c :: text) :=
  let content := c :: text.takeWhile (· ≠ '<')
  if Text.occursIn "]]>".toList content then
    .error .sectionEndInText
  else
    .ok
      (.text content,
        ⟨text.dropWhile (· ≠ '<'), by
          have whole := length_dropWhile_le (· ≠ '<') text
          simp only [List.length_cons]
          omega⟩)

/-! ## Documents -/

/-- The mark of an XML declaration, which is allowed only at the very start of
a document. -/
def declarationMark : List Char :=
  "<?xml ".toList

/-- Read with a reader what follows a mark. -/
def readAfter
    {text rest : List Char}
    (shorter : rest.length < text.length)
    (reading : Reading Token rest) :
    Reading Token text :=
  reading.map fun (token, ⟨after, afterShorter⟩) => (token, ⟨after, by omega⟩)

/-- Read one token. -/
def readToken (c : Char) (text : List Char) : Reading Token (c :: text) :=
  match c, text with
  | '<', '!' :: '-' :: '-' :: rest =>
    readAfter (by simp only [List.length_cons]; omega) (readComment rest)
  | '<', '!' :: '[' :: 'C' :: 'D' :: 'A' :: 'T' :: 'A' :: '[' :: rest =>
    readAfter (by simp only [List.length_cons]; omega) (readSection rest)
  | '<', '!' :: _ => .error .unexpectedMark
  | '<', '?' :: rest =>
    if declarationMark.isPrefixOf ('<' :: '?' :: rest) then
      .error .malformedDeclaration
    else
      readAfter (by simp only [List.length_cons]; omega) (readInstruction rest)
  | '<', '/' :: rest =>
    readAfter (by simp only [List.length_cons]; omega) (readEndTag rest)
  | '<', rest =>
    readAfter (by simp only [List.length_cons]; omega) (readStartTag rest)
  | c, text => readText c text

/-- A token and the position at which it starts. -/
structure Located where
  position : Position
  token : Token
  deriving DecidableEq, Repr

/-- Cut a text that starts at a position into tokens. -/
def tokensAt (position : Position) (text : List Char) :
    Except Error (List Located) :=
  match text with
  | [] => .ok []
  | c :: text' => do
    let (token, ⟨rest, _shorter⟩) ← readToken c text'
    let read := (c :: text').take ((c :: text').length - rest.length)
    let tokens ← tokensAt (position.advance read) rest
    pure (⟨position, token⟩ :: tokens)
termination_by text.length
decreasing_by exact _shorter

/-- What follows an attribute of an XML declaration that has to start with a
certain word, and the space behind it. -/
def declaredAttribute (word text : List Char) : Except Error (List Char) :=
  if word.isPrefixOf text then do
    let (_, ⟨rest, _⟩) ← readAttribute text
    pure rest
  else
    .error .malformedDeclaration

/-- Skip the space that has to stand before anything but the end of an XML
declaration. -/
def declarationSpace (text : List Char) : Except Error (List Char) :=
  if (text.head?.any isSpace) || "?>".toList.isPrefixOf text then
    .ok (text.dropWhile isSpace)
  else
    .error .malformedDeclaration

/-- What follows an XML declaration, behind its mark: a version, and then
optionally an encoding and a statement on whether the document stands alone.
The values do not matter. -/
def skipDeclaration (text : List Char) : Except Error (List Char) := do
  let version := text.dropWhile isSpace
  let afterVersion ←
    declarationSpace (← declaredAttribute "version".toList version)
  let afterEncoding ←
    if "encoding".toList.isPrefixOf afterVersion then
      declarationSpace (← declaredAttribute "encoding".toList afterVersion)
    else
      pure afterVersion
  let afterStandalone ←
    if "standalone".toList.isPrefixOf afterEncoding then
      declaredAttribute "standalone".toList afterEncoding
    else
      pure afterEncoding
  match Text.dropStart "?>".toList (afterStandalone.dropWhile isSpace) with
  | some rest => pure rest
  | none => .error .malformedDeclaration

/-- The mark that may stand at the start of a text to tell its encoding. -/
def byteOrderMark : Char := '\ufeff'

/-- Cut a document into tokens.  The XML declaration is not one of them. -/
def tokens (text : String) : Except Error (List Located) := do
  let whole := text.toList
  if whole.all isAllowed then
    let body :=
      match whole with
      | c :: rest => if c = byteOrderMark then rest else whole
      | [] => []
    let content ←
      match Text.dropStart declarationMark body with
      | some declaration => skipDeclaration declaration
      | none => pure body
    let skipped := whole.take (whole.length - content.length)
    tokensAt (Position.start.advance skipped) content
  else
    .error .forbiddenCharacter

end Markup
end TypedSql
