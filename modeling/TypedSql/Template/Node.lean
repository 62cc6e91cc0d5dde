import Std.Data.TreeMap
import TypedSql.Markup.Tree

/-!
# Template nodes

The content of a statement: text, and elements that stand for directives.
Comments and processing instructions are dropped, and the text around them is
joined, so that no two text nodes follow each other.
-/

namespace TypedSql
namespace Template

/-- Attributes or hints by name. -/
abbrev Attributes : Type :=
  Std.TreeMap String String

/-- An element that stands for a directive; `Child` is what it contains. -/
structure Element (Child : Type) where
  tag : String
  attributes : Attributes
  children : List Child
  /-- Where the start tag begins. -/
  position : Markup.Position

/-- A piece of a statement. -/
inductive Node where
  | text (content : String)
  | element (element : Element Node)

namespace Element

/-- The value of an attribute. -/
def attribute? {Child : Type} (element : Element Child) (name : String) :
    Option String :=
  element.attributes[name]?

/-- The value of an attribute that is there and not empty. -/
def nonemptyAttribute?
    {Child : Type}
    (element : Element Child)
    (name : String) :
    Option String :=
  (element.attribute? name).filter (!·.isEmpty)

/-- The text before the first child element. -/
def leadingText (element : Element Node) : String :=
  match element.children with
  | .text content :: _ => content
  | _ => ""

end Element

/-- Collect attributes by their local names; of several with one name, the
last counts. -/
def collectAttributes (attributes : List Markup.Attribute) : Attributes :=
  attributes.foldl
    (fun found next => found.insert next.localName next.value) ∅

namespace Node

/-- Put text in front of nodes, joined to text that they start with. -/
def consText (content : String) : List Node → List Node
  | .text following :: rest => .text (content ++ following) :: rest
  | nodes => .text content :: nodes

mutual

/-- Put what a tree contributes in front of the nodes that follow it. -/
def consTree (following : List Node) : Markup.Tree → List Node
  | .text content _ => consText content following
  | .comment => following
  | .instruction => following
  | .element tag attributes children position =>
    .element
      { tag
        attributes := collectAttributes attributes
        children := ofTrees children
        position } ::
      following

/-- The nodes of some content. -/
def ofTrees : List Markup.Tree → List Node
  | [] => []
  | tree :: rest => consTree (ofTrees rest) tree

end

end Node
end Template
end TypedSql
