import Mathlib.Data.List.Chain
import TypedSql.Proofs.Result
import TypedSql.Template.Node

/-!
# Content of elements

What becomes of the content of an element.  Its elements are kept, in order,
with their tags, attributes and content; the text between two of them is all
the text that stands there, in one piece.  Only attributes whose names differ
in nothing but the namespace fall together, and the last of them is kept.
-/

namespace TypedSql

/-- The texts before, between and behind the elements of some content. -/
def textRuns
    {α : Type}
    (isElement : α → Bool)
    (text? : α → Option String)
    (items : List α) :
    List String :=
  (items.splitOnP isElement).map fun run => String.join (run.filterMap text?)

theorem textRuns_cons
    {α : Type}
    {isElement : α → Bool}
    {text? : α → Option String}
    (item : α)
    (rest : List α) :
    textRuns isElement text? (item :: rest) =
      if isElement item then
        "" :: textRuns isElement text? rest
      else
        match text? item with
        | none => textRuns isElement text? rest
        | some content =>
          (textRuns isElement text? rest).modifyHead (content ++ ·) := by
  unfold textRuns
  rw [List.splitOnP_cons_eq_if_modifyHead]
  split
  next => rfl
  next =>
    cases split : rest.splitOnP isElement with
    | nil => exact absurd split (List.splitOnP_ne_nil isElement rest)
    | cons run runs =>
        simp only [List.modifyHead_cons, List.map_cons, List.filterMap_cons]
        cases text? item with
        | none => rfl
        | some content => simp only [String.join_cons]

namespace Markup

/-- What a node contains directly. -/
def Tree.content : Tree → List Tree
  | .element _ _ children _ => children
  | .text _ _ | .comment | .instruction => []

/-- Whether a node is an element. -/
def Tree.isElement : Tree → Bool
  | .element _ _ _ _ => true
  | .text _ _ | .comment | .instruction => false

/-- The text that a node consists of. -/
def Tree.text? : Tree → Option String
  | .text content _ => some content
  | .comment | .instruction | .element _ _ _ _ => none

end Markup

namespace Template

open Markup (Attribute Position Tree)

/-! ## Attributes -/

/-- Of several attributes with one local name the last is kept. -/
theorem getElem?_collectAttributes
    (attributes : List Attribute)
    (name : String) :
    (collectAttributes attributes)[name]? =
      (attributes.reverse.find? (·.localName == name)).map (·.value) := by
  have found := Result.getElem?_foldl_insert Attribute.localName
    Attribute.value attributes ∅ name
  rwa [Std.TreeMap.getElem?_emptyc, Option.or_none] at found

/-- The last of some attributes that has a local name. -/
def LastNamed
    (attributes : List Attribute)
    (name : String)
    (found : Attribute) :
    Prop :=
  ∃ before after,
    attributes = before ++ found :: after ∧
      found.localName = name ∧ ∀ later ∈ after, later.localName ≠ name

/-- The last attribute of a name is the first one that is found from behind. -/
theorem lastNamed_iff
    {attributes : List Attribute}
    {name : String}
    {found : Attribute} :
    LastNamed attributes name found ↔
      attributes.reverse.find? (·.localName == name) = some found := by
  rw [List.find?_eq_some_iff_append]
  constructor
  · rintro ⟨before, after, rfl, named, others⟩
    refine ⟨by simpa using named, after.reverse, before.reverse, by simp, ?_⟩
    intro later member
    simpa using others later (List.mem_reverse.1 member)
  · rintro ⟨named, after, before, reversed, others⟩
    refine ⟨before.reverse, after.reverse, ?_, by simpa using named, ?_⟩
    · rw [← List.reverse_reverse attributes, reversed]
      simp
    · intro later member
      simpa using others later (List.mem_reverse.1 member)

/-! ## Nodes -/

namespace Node

/-- Whether a node is an element. -/
def isElement : Node → Bool
  | .text _ => false
  | .element _ => true

/-- The text that a node consists of. -/
def text? : Node → Option String
  | .text content => some content
  | .element _ => none

/-- The element that a node consists of. -/
def element? : Node → Option (Element Node)
  | .text _ => none
  | .element found => some found

/-- Nodes of which no two texts follow each other, at any depth. -/
inductive Coalesced : List Node → Prop where
  | intro
      {nodes : List Node}
      (apart :
        nodes.IsChain fun first second => first.isElement ∨ second.isElement)
      (inner :
        ∀ element, .element element ∈ nodes → Coalesced element.children) :
      Coalesced nodes

/-- What an element of a document is kept as. -/
inductive Keeps : Tree → Element Node → Prop where
  | element
      {tag : String}
      {attributes : List Attribute}
      {children : List Tree}
      {position : Position}
      {element : Element Node}
      (tag_eq : element.tag = tag)
      (attribute_iff :
        ∀ name value,
          element.attribute? name = some value ↔
            ∃ found, LastNamed attributes name found ∧ found.value = value)
      (all_attributes :
        (attributes.Pairwise fun first second =>
            first.localName ≠ second.localName) →
          ∀ found ∈ attributes,
            element.attribute? found.localName = some found.value)
      (children_eq : element.children = ofTrees children)
      (position_eq : element.position = position) :
      Keeps (.element tag attributes children position) element

/-- An element keeps its tag, its position and, of each name, the last
attribute. -/
theorem keeps_element
    (tag : String)
    (attributes : List Attribute)
    (children : List Tree)
    (position : Position) :
    Keeps (.element tag attributes children position)
      ⟨tag, collectAttributes attributes, ofTrees children, position⟩ := by
  have attribute_iff (name value : String) :
      (collectAttributes attributes)[name]? = some value ↔
        ∃ found, LastNamed attributes name found ∧ found.value = value := by
    simp only [getElem?_collectAttributes, Option.map_eq_some_iff,
      lastNamed_iff]
  refine .element rfl attribute_iff ?_ rfl rfl
  intro apart found member
  obtain ⟨before, after, rfl⟩ := List.append_of_mem member
  obtain ⟨-, behind, -⟩ := List.pairwise_append.1 apart
  refine (attribute_iff _ _).2 ⟨found, ⟨before, after, rfl, rfl, ?_⟩, rfl⟩
  intro later present
  exact ((List.pairwise_cons.1 behind).1 later present).symm

/-! ## Text in front of nodes -/

section ConsText

variable (content : String) (nodes : List Node)

/-- A text in front of some nodes belongs to their first run. -/
theorem textRuns_consText :
    textRuns isElement text? (consText content nodes) =
      (textRuns isElement text? nodes).modifyHead (content ++ ·) := by
  cases nodes with
  | nil => simp [consText, textRuns_cons, isElement, text?]
  | cons node rest =>
      cases node with
      | element element => simp [consText, textRuns_cons, isElement, text?]
      | text following =>
          simp only [consText, textRuns_cons, isElement, text?,
            Bool.false_eq_true, ↓reduceIte, List.modifyHead_modifyHead]
          congr 1
          funext behind
          exact String.append_assoc

theorem filterMap_element?_consText :
    (consText content nodes).filterMap element? =
      nodes.filterMap element? := by
  cases nodes with
  | nil => rfl
  | cons node rest =>
      cases node with
      | text following => rfl
      | element found => rfl

/-- A text in front is joined with one that follows, so texts stay apart. -/
theorem isChain_consText
    {nodes : List Node}
    (apart :
      nodes.IsChain fun first second => first.isElement ∨ second.isElement) :
    (consText content nodes).IsChain fun first second =>
      first.isElement ∨ second.isElement := by
  cases nodes with
  | nil => exact .singleton _
  | cons node rest =>
      cases node with
      | element element => exact .cons_cons (.inr rfl) apart
      | text following =>
          cases rest with
          | nil => exact .singleton _
          | cons next others =>
              obtain ⟨first, behind⟩ := List.isChain_cons_cons.1 apart
              exact .cons_cons first behind

end ConsText

/-! ## Conversion -/

/-- The elements are kept in order. -/
theorem keeps_ofTrees (trees : List Tree) :
    List.Forall₂ Keeps (trees.filter (·.isElement))
      ((ofTrees trees).filterMap element?) := by
  induction trees with
  | nil => exact .nil
  | cons tree rest inductionHypothesis =>
      cases tree with
      | comment | instruction => simpa [ofTrees, consTree, Tree.isElement]
      | text content position =>
          simpa [ofTrees, consTree, Tree.isElement, filterMap_element?_consText]
      | element tag attributes children position =>
          rw [ofTrees, consTree, List.filter_cons_of_pos rfl]
          exact .cons (keeps_element tag attributes children position)
            inductionHypothesis

/-- An element of a document that has two attributes of one local name. -/
def qualifiedTree : Tree :=
  .element "x" [⟨some "u", "k", "1"⟩, ⟨none, "k", "2"⟩] [] ⟨1, 16⟩

/-- The first of these attributes gets lost. -/
theorem loses_qualified_attribute :
    Markup.parse
        "<s><q name=\"A\"><x xmlns:p=\"u\" p:k=\"1\" k=\"2\"/></q></s>" =
      .ok
        (.element "s" []
          [.element "q" [⟨none, "name", "A"⟩] [qualifiedTree] ⟨1, 4⟩] ⟨1, 1⟩) ∧
      ∃ kept, ofTrees [qualifiedTree] = [.element kept] ∧
        ∀ name, kept.attribute? name ≠ some "1" := by
  refine ⟨by with_unfolding_all rfl, _, rfl, ?_⟩
  intro name given
  rw [Element.attribute?, getElem?_collectAttributes] at given
  by_cases same : "k" = name
  · simp [same] at given
  · simp [same] at given

/-- The text between two elements is kept, whatever pieces it came in. -/
theorem textRuns_ofTrees (trees : List Tree) :
    textRuns isElement text? (ofTrees trees) =
      textRuns Tree.isElement Tree.text? trees := by
  induction trees with
  | nil => rfl
  | cons tree rest inductionHypothesis =>
      rw [ofTrees, textRuns_cons]
      cases tree with
      | comment | instruction =>
          simp [consTree, Tree.isElement, Tree.text?, inductionHypothesis]
      | text content position =>
          simp [consTree, Tree.isElement, Tree.text?, textRuns_consText,
            inductionHypothesis]
      | element tag attributes children position =>
          simp [consTree, Tree.isElement, textRuns_cons, isElement,
            inductionHypothesis]

/-- No two texts stand side by side. -/
theorem isChain_ofTrees (trees : List Tree) :
    (ofTrees trees).IsChain fun first second =>
      first.isElement ∨ second.isElement := by
  induction trees with
  | nil => exact .nil
  | cons tree rest inductionHypothesis =>
      rw [ofTrees]
      cases tree with
      | comment | instruction => rwa [consTree]
      | text content position =>
          rw [consTree]
          exact isChain_consText content inductionHypothesis
      | element tag attributes children position =>
          rw [consTree]
          exact inductionHypothesis.cons fun _ _ => .inl rfl

/-- No two texts follow each other among the nodes of some content or of an
element in it. -/
theorem coalesced_ofTrees (trees : List Tree) : Coalesced (ofTrees trees) := by
  refine .intro (isChain_ofTrees trees) ?_
  intro element member
  have present : element ∈ (ofTrees trees).filterMap element? :=
    List.mem_filterMap.2 ⟨_, member, rfl⟩
  obtain ⟨tree, given, keeps⟩ :=
    Result.exists_of_mem_right (keeps_ofTrees trees) present
  have inside := (List.mem_filter.1 given).1
  cases keeps with
  | @element tag attributes children position _ _ _ _ children_eq _ =>
      rw [children_eq]
      exact coalesced_ofTrees children
termination_by sizeOf trees
decreasing_by
  have smaller := List.sizeOf_lt_of_mem inside
  simp only [Tree.element.sizeOf_spec] at smaller
  omega

end Node

end Template
end TypedSql
