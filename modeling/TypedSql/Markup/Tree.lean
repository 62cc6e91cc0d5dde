import TypedSql.Markup.Namespace

/-!
# Document trees

The elements of a document with their attributes and content.  Comments and
processing instructions are kept as nodes without content, because they
separate the text before them from the text behind them; text and character
data sections that follow each other directly are one text node.
-/

namespace TypedSql
namespace Markup

/-- A node of a document. -/
inductive Tree where
  | text (content : String) (position : Position)
  | comment
  | instruction
  | element
      (name : String)
      (attributes : List Attribute)
      (children : List Tree)
      (position : Position)
  deriving Inhabited

/-- An element whose end tag has not been read yet. -/
structure OpenElement where
  name : QName
  attributes : List Attribute
  position : Position
  bindings : Bindings
  /-- The content so far, newest first. -/
  children : List Tree

namespace OpenElement

/-- The element with its content. -/
def close (element : OpenElement) : Tree :=
  .element element.name.localName element.attributes element.children.reverse
    element.position

/-- Add a node to the content. -/
def add (element : OpenElement) (child : Tree) : OpenElement :=
  { element with children := child :: element.children }

/-- Add text to the content, joined to text that comes right before it. -/
def addText
    (element : OpenElement)
    (content : String)
    (position : Position) :
    OpenElement :=
  match element.children with
  | .text before start :: older =>
    { element with children := .text (before ++ content) start :: older }
  | children =>
    { element with children := .text content position :: children }

end OpenElement

/-- Build the tree of a root element whose start tags read so far are `inner`
and, around it, `outer`.  Gives back the tokens behind the root. -/
def buildWithin
    (inner : OpenElement)
    (outer : List OpenElement) :
    List Located → Except Error (Tree × List Located)
  | [] => .error .unclosedElement
  | ⟨position, token⟩ :: rest =>
    match token with
    | .text raw => do
      let content ← textContent raw
      buildWithin (inner.addText content position) outer rest
    | .section raw =>
      buildWithin (inner.addText (sectionContent raw) position) outer rest
    | .comment => buildWithin (inner.add .comment) outer rest
    | .instruction => buildWithin (inner.add .instruction) outer rest
    | .startTag name written => do
      let (attributes, bindings) ← resolveTag inner.bindings name written
      buildWithin ⟨name, attributes, position, bindings, []⟩ (inner :: outer)
        rest
    | .emptyTag name written => do
      let (attributes, _) ← resolveTag inner.bindings name written
      buildWithin
        (inner.add (.element name.localName attributes [] position)) outer rest
    | .endTag name =>
      if name = inner.name then
        match outer with
        | [] => .ok (inner.close, rest)
        | parent :: outer => buildWithin (parent.add inner.close) outer rest
      else
        .error .mismatchedEndTag

/-- Whether a token may stand outside of the root element. -/
def isOutside (located : Located) : Bool :=
  match located.token with
  | .comment | .instruction => true
  | .text raw => raw.all isSpace
  | .section _ | .startTag _ _ | .emptyTag _ _ | .endTag _ => false

/-- The tree of the root element of a document. -/
def rootOfTokens (tokens : List Located) : Except Error Tree := do
  let (root, rest) ←
    match tokens.dropWhile isOutside with
    | ⟨position, .startTag name written⟩ :: rest => do
      let (attributes, bindings) ← resolveTag [] name written
      buildWithin ⟨name, attributes, position, bindings, []⟩ [] rest
    | ⟨position, .emptyTag name written⟩ :: rest => do
      let (attributes, _) ← resolveTag [] name written
      pure (.element name.localName attributes [] position, rest)
    | _ => .error .noSingleRoot
  if rest.all isOutside then pure root else .error .noSingleRoot

/-- Read a document as the tree of its root element. -/
def parse (text : String) : Except Error Tree := do
  rootOfTokens (← tokens text)

end Markup
end TypedSql
