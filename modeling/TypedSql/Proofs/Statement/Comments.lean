import Mathlib.Logic.Relation
import TypedSql.Proofs.Statement.Acceptance
import TypedSql.Proofs.Template.Comments

/-!
# Comments in statements

The built-in directives look at nodes for nothing but tags, attributes and
leading texts, and at positions only for their failures.  What becomes of a
statement is therefore the same, with the same final text, probe and arguments,
however many comments and processing instructions are put into its document or
taken out of it.
-/

namespace TypedSql

open Directive (LooksLike Scope)
open Markup (Annotated Tree)
open Relation (EqvGen)
open Template
  (Element Node unplacedResult unplacedResult_bind unplacedResult_ok)

/-! ## Elements and their texts -/

namespace Template

/-- The text of an element is not affected by the positions in it. -/
theorem Element.leadingText_unplaced (element : Element Node) :
    ({ element with children := Node.unplacedAll element.children } :
        Element Node).leadingText =
      element.leadingText := by
  obtain ⟨tag, attributes, children, position⟩ := element
  cases children with
  | nil => simp [leadingText]
  | cons node rest =>
      cases node with
      | text content => simp [leadingText]
      | element found => simp [leadingText]

theorem Element.leadingText_eq_of_unplaced
    {left right : Element Node}
    (same :
      Node.unplacedAll left.children = Node.unplacedAll right.children) :
    left.leadingText = right.leadingText := by
  rw [← left.leadingText_unplaced, ← right.leadingText_unplaced]
  simp only [leadingText, same]

/-- Elements that differ in positions look alike to the built-in directives. -/
theorem Element.looksLike_of_unplaced
    {left right : Element Node}
    (same : Node.unplaced (.element left) = Node.unplaced (.element right)) :
    LooksLike left right := by
  simp only [Node.unplaced_element, Node.element.injEq, Element.mk.injEq,
    and_true] at same
  obtain ⟨sameTag, sameAttributes, sameChildren⟩ := same
  exact
    { tag_eq := sameTag
      attribute_eq := fun name => by
        rw [nonemptyAttribute?, nonemptyAttribute?, attribute?, attribute?,
          sameAttributes]
      text_eq := leadingText_eq_of_unplaced sameChildren }

end Template

/-! ## Configuration -/

namespace Chain

/-- A chain without its position. -/
def unplaced (chain : Chain) : Chain :=
  { chain with position := .nowhere }

section Configuration

variable {scope : Scope} {arguments : List Argument}

/-- A node is configured in the same way wherever it stands.  Only the position
that is reported for an unknown tag differs. -/
theorem unplacedResult_configureNode
    {left right : Node}
    (same : left.unplaced = right.unplaced) :
    unplacedResult id (configureNode .builtin scope arguments left) =
      unplacedResult id (configureNode .builtin scope arguments right) := by
  cases left with
  | text content =>
      cases right with
      | text other =>
          obtain rfl : content = other := by simpa using same
          rfl
      | element found => simp at same
  | element left =>
      cases right with
      | text content => simp at same
      | element right =>
          have alike := Template.Element.looksLike_of_unplaced same
          cases known : Directive.Registry.builtin.kind? right.tag with
          | some kind =>
              rw [configureNode_of_kind (alike.tag_eq ▸ known),
                configureNode_of_kind known,
                Directive.configured_of_looksLike alike known]
          | none =>
              -- Only this failure tells where the element stands.
              rw [configureNode_of_unknown (alike.tag_eq ▸ known),
                configureNode_of_unknown known, alike.tag_eq]
              rfl

theorem unplacedResult_configureNodes
    {left right : List Node}
    (same : Node.unplacedAll left = Node.unplacedAll right) :
    unplacedResult id (configureNodes .builtin scope arguments left) =
      unplacedResult id (configureNodes .builtin scope arguments right) := by
  induction left generalizing right arguments with
  | nil =>
      cases right with
      | nil => rfl
      | cons node rest => simp at same
  | cons node rest inductionHypothesis =>
      cases right with
      | nil => simp at same
      | cons other others =>
          simp only [Node.unplacedAll_cons, List.cons.injEq] at same
          obtain ⟨sameNode, sameRest⟩ := same
          rw [configureNodes_cons, configureNodes_cons]
          refine unplacedResult_bind (unplacedResult_configureNode sameNode) ?_
          rintro first _ rfl
          refine unplacedResult_bind (inductionHypothesis sameRest) ?_
          rintro behind _ rfl
          rfl

end Configuration

section Building

variable {schema : Schema} {dialect : Dialect}

/-- What becomes of a statement does not depend on positions. -/
theorem unplacedResult_build
    {left right : Template.Statement}
    (same : left.unplaced = right.unplaced) :
    unplacedResult unplaced (build .builtin schema dialect left) =
      unplacedResult unplaced (build .builtin schema dialect right) := by
  obtain ⟨name, hints, nodes, position⟩ := left
  obtain ⟨otherName, otherHints, otherNodes, otherPosition⟩ := right
  simp only [Template.Statement.unplaced, Template.Statement.mk.injEq,
    and_true] at same
  obtain ⟨rfl, rfl, sameNodes⟩ := same
  rw [build_eq, build_eq]
  refine unplacedResult_bind (unplacedResult_configureNodes sameNodes) ?_
  rintro configured _ rfl
  rfl

theorem unplacedResult_mapM_build
    {left right : List Template.Statement}
    (same :
      left.map Template.Statement.unplaced =
        right.map Template.Statement.unplaced) :
    unplacedResult (List.map unplaced)
        (left.mapM (build .builtin schema dialect)) =
      unplacedResult (List.map unplaced)
        (right.mapM (build .builtin schema dialect)) := by
  induction left generalizing right with
  | nil =>
      obtain rfl := List.map_eq_nil_iff.1 same.symm
      rfl
  | cons statement rest inductionHypothesis =>
      obtain ⟨other, others, rfl, sameStatement, sameRest⟩ :=
        List.map_eq_cons_iff.1 same.symm
      rw [List.mapM_cons, List.mapM_cons]
      refine unplacedResult_bind (unplacedResult_build sameStatement.symm) ?_
      intro first second sameFirst
      refine unplacedResult_bind (inductionHypothesis sameRest.symm) ?_
      intro behind alsoBehind sameBehind
      apply unplacedResult_ok
      rw [List.map_cons, List.map_cons, sameFirst, sameBehind]

end Building

end Chain

/-! ## Content with and without comments -/

namespace Template

/-- Contents that are read as the same, but for positions. -/
structure ReadAlike (left right : List Tree) : Prop where
  nodes :
    Node.unplacedAll (Node.ofTrees left) = Node.unplacedAll (Node.ofTrees right)
  leadingText
      {leftElement rightElement : Element Node}
      (leftChildren : leftElement.children = Node.ofTrees left)
      (rightChildren : rightElement.children = Node.ofTrees right) :
    leftElement.leadingText = rightElement.leadingText
  /-- As the content of a statement they give the same directives, each with
  its final text and its probe, and the same arguments. -/
  chain (schema : Schema) (dialect : Dialect) (statement : Statement) :
    unplacedResult Chain.unplaced
        (Chain.build .builtin schema dialect
          { statement with nodes := Node.ofTrees left }) =
      unplacedResult Chain.unplaced
        (Chain.build .builtin schema dialect
          { statement with nodes := Node.ofTrees right })
  /-- As the content of the root of a document they give the same chains. -/
  document
      (schema : Schema)
      (dialect : Dialect)
      {leftText rightText : String}
      {leftRoot rightRoot : Tree}
      (leftParsed : Markup.parse leftText = .ok leftRoot)
      (rightParsed : Markup.parse rightText = .ok rightRoot)
      (leftContent : leftRoot.content = left)
      (rightContent : rightRoot.content = right) :
    unplacedResult (List.map Chain.unplaced)
        (Chain.buildDocument .builtin schema dialect leftText) =
      unplacedResult (List.map Chain.unplaced)
        (Chain.buildDocument .builtin schema dialect rightText)

/-- What every step keeps is kept by any number of steps and steps back. -/
theorem eq_of_eqvGen
    {α β : Type}
    {step : α → α → Prop}
    (value : α → β)
    (kept : ∀ left right, step left right → value left = value right)
    {left right : α}
    (related : EqvGen step left right) :
    value left = value right := by
  induction related with
  | rel _ _ made => exact kept _ _ made
  | refl => rfl
  | symm _ _ _ inductionHypothesis => exact inductionHypothesis.symm
  | trans _ _ _ _ _ first second => exact first.trans second

/-- Comments and processing instructions may be put in and taken out. -/
theorem readAlike_of_eqvGen
    {left right : List Tree}
    (related : EqvGen Annotated left right) :
    ReadAlike left right := by
  have nodes :
      Node.unplacedAll (Node.ofTrees left) =
        Node.unplacedAll (Node.ofTrees right) :=
    eq_of_eqvGen (Node.unplacedAll <| Node.ofTrees ·)
      (fun _ _ put => Node.unplacedAll_ofTrees_of_annotated put) related
  have statements :
      unplacedResult (List.map Statement.unplaced)
          (Statement.ofTrees [] left) =
        unplacedResult (List.map Statement.unplaced)
          (Statement.ofTrees [] right) :=
    eq_of_eqvGen
      (unplacedResult (List.map Statement.unplaced) <| Statement.ofTrees [] ·)
      (fun _ _ put => Statement.unplacedResult_ofTrees_of_annotated put [])
      related
  constructor
  · exact nodes
  · intro leftElement rightElement leftChildren rightChildren
    apply Element.leadingText_eq_of_unplaced
    rw [leftChildren, rightChildren, nodes]
  · intro schema dialect statement
    apply Chain.unplacedResult_build
    simp only [Statement.unplaced, nodes]
  · intro schema dialect leftText rightText leftRoot rightRoot leftParsed
      rightParsed leftContent rightContent
    have ofContent (root : Tree) :
        statementsOfTree root = Statement.ofTrees [] root.content := by
      cases root <;> rfl
    rw [Chain.buildDocument, Chain.buildDocument, parseDocument, parseDocument,
      leftParsed, rightParsed]
    dsimp only
    rw [ofContent, ofContent, leftContent, rightContent]
    apply unplacedResult_bind statements
    intro first second same
    exact Chain.unplacedResult_mapM_build same

/-- What is kept of some content; the content of its elements is treated in the
same way. -/
structure Conveys (trees : List Tree) : Prop where
  coalesced : Node.Coalesced (Node.ofTrees trees)
  elements :
    List.Forall₂ Node.Keeps (trees.filter (·.isElement))
      ((Node.ofTrees trees).filterMap Node.element?)
  texts :
    textRuns Node.isElement Node.text? (Node.ofTrees trees) =
      textRuns Tree.isElement Tree.text? trees

/-- Nothing of some content is lost but attributes that others of the same
local name follow, and it may as well have any comments and processing
instructions put into it or taken out of it. -/
theorem conveys_and_readAlike (trees : List Tree) :
    Conveys trees ∧
      ∀ others, EqvGen Annotated trees others → ReadAlike trees others :=
  ⟨{ coalesced := Node.coalesced_ofTrees trees
     elements := Node.keeps_ofTrees trees
     texts := Node.textRuns_ofTrees trees },
    fun _ related => readAlike_of_eqvGen related⟩

/-- A query with an argument. -/
def plainQuery : List Tree :=
  [.text ("SELECT " ++ "1, ") ⟨1, 14⟩,
    .element "arg" [⟨none, "name", "n"⟩] [.text ("4" ++ "2") ⟨1, 38⟩] ⟨1, 24⟩]

/-- The same query with comments and a processing instruction. -/
def annotatedQuery : List Tree :=
  [.comment,
    .text "SELECT " ⟨1, 21⟩,
    .instruction,
    .text "1, " ⟨1, 34⟩,
    .element "arg" [⟨none, "name", "n"⟩]
      [.text "4" ⟨1, 51⟩, .comment, .text "2" ⟨1, 59⟩]
      ⟨1, 37⟩]

/-- A query with comments and without them is read as the same statement. -/
theorem readAlike_annotatedQuery :
    EqvGen Annotated annotatedQuery plainQuery ∧
      Conveys annotatedQuery ∧ ReadAlike annotatedQuery plainQuery := by
  have put : Annotated plainQuery annotatedQuery := by
    have sample : Annotated [.text ("4" ++ "2") ⟨1, 38⟩]
        [.text "4" ⟨1, 51⟩, .comment, .text "2" ⟨1, 59⟩] :=
      .split ⟨1, 39⟩ (.comment (.text .nil))
    have behind : Annotated
        [.text "1, " ⟨1, 21⟩,
          .element "arg" [⟨none, "name", "n"⟩] [.text ("4" ++ "2") ⟨1, 38⟩]
            ⟨1, 24⟩]
        annotatedQuery.tail.tail :=
      .instruction (.text (.element sample .nil))
    exact .comment (.split ⟨1, 21⟩ behind)
  have related : EqvGen Annotated annotatedQuery plainQuery :=
    .symm _ _ (.rel _ _ put)
  obtain ⟨conveyed, alike⟩ := conveys_and_readAlike annotatedQuery
  exact ⟨related, conveyed, alike plainQuery related⟩

end Template
end TypedSql
