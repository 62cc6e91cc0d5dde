/-!
# Markup errors

Why a text is not a well-formed document.
-/

namespace TypedSql
namespace Markup

/-- A defect of a document. -/
inductive Error where
  | forbiddenCharacter
  | malformedDeclaration
  | malformedName
  | malformedTag
  | malformedComment
  | malformedInstruction
  | malformedReference
  | unclosedSection
  | unexpectedMark
  | sectionEndInText
  | mismatchedEndTag
  | unclosedElement
  | noSingleRoot
  | reservedNamespace
  | repeatedNamespace
  | unknownNamespace
  | repeatedAttribute
  deriving DecidableEq, Repr

/-- The defect in words. -/
def Error.message : Error → String
  | forbiddenCharacter => "a character that no document may hold"
  | malformedDeclaration => "a malformed XML declaration"
  | malformedName => "a malformed name"
  | malformedTag => "a malformed tag"
  | malformedComment => "a malformed comment"
  | malformedInstruction => "a malformed processing instruction"
  | malformedReference => "a malformed or unknown reference"
  | unclosedSection => "a character data section without an end"
  | unexpectedMark => "markup that is not supported here"
  | sectionEndInText => "the end of a section outside of any section"
  | mismatchedEndTag => "an end tag that does not match its start tag"
  | unclosedElement => "an element without an end tag"
  | noSingleRoot => "the document needs exactly one root element"
  | reservedNamespace => "a reserved namespace is bound anew"
  | repeatedNamespace => "a namespace is declared twice in one tag"
  | unknownNamespace => "an undeclared namespace"
  | repeatedAttribute => "an attribute is given twice in one tag"

end Markup
end TypedSql
