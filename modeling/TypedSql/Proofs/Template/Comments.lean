import TypedSql.Proofs.Template.Content
import TypedSql.Template.Document

/-!
# Comments in documents

Comments and processing instructions make no difference to what is read of a
document, wherever they stand and however deep, except for the positions of
what comes behind them.  Text that they split is one text again, and blank text
between statements stays blank when it is split.

Positions are compared away: results are the same if they are equal once all
positions in them are erased.
-/

namespace TypedSql

namespace Markup

/-- The position of what has none; lines and columns count from one. -/
def Position.nowhere : Position := ⟨0, 0⟩

/-- Some content, and what becomes of it when comments and processing
instructions are put into it, whatever this does to positions. -/
inductive Annotated : List Tree → List Tree → Prop where
  | nil : Annotated [] []
  | comment
      {plain annotated : List Tree}
      (rest : Annotated plain annotated) :
      Annotated plain (.comment :: annotated)
  | instruction
      {plain annotated : List Tree}
      (rest : Annotated plain annotated) :
      Annotated plain (.instruction :: annotated)
  | text
      {content : String}
      {before after : Position}
      {plain annotated : List Tree}
      (rest : Annotated plain annotated) :
      Annotated (.text content before :: plain)
        (.text content after :: annotated)
  /-- What is put into a text splits it. -/
  | split
      {first second : String}
      {before after : Position}
      {plain annotated : List Tree}
      (middle : Position)
      (rest : Annotated (.text second middle :: plain) annotated) :
      Annotated (.text (first ++ second) before :: plain)
        (.text first after :: annotated)
  | element
      {tag : String}
      {attributes : List Attribute}
      {before after : Position}
      {children annotatedChildren plain annotated : List Tree}
      (inner : Annotated children annotatedChildren)
      (rest : Annotated plain annotated) :
      Annotated (.element tag attributes children before :: plain)
        (.element tag attributes annotatedChildren after :: annotated)

end Markup

namespace Template

open Markup (Annotated Attribute Position Tree)

/-! ## Erasing positions -/

namespace Node

mutual

/-- A node without positions. -/
def unplaced : Node → Node
  | .text content => .text content
  | .element ⟨tag, attributes, children, _⟩ =>
    .element ⟨tag, attributes, unplacedAll children, .nowhere⟩

/-- Nodes without positions. -/
def unplacedAll : List Node → List Node
  | [] => []
  | node :: rest => node.unplaced :: unplacedAll rest

end

@[simp] theorem unplaced_text (content : String) :
    unplaced (.text content) = .text content := by
  rw [unplaced]

@[simp] theorem unplaced_element (found : Element Node) :
    unplaced (.element found) =
      .element
        { found with
          children := unplacedAll found.children
          position := .nowhere } := by
  rw [unplaced]

@[simp] theorem unplacedAll_nil : unplacedAll [] = [] := by
  rw [unplacedAll]

@[simp] theorem unplacedAll_cons (node : Node) (rest : List Node) :
    unplacedAll (node :: rest) = node.unplaced :: unplacedAll rest := by
  rw [unplacedAll]

/-- Text is joined to text, whether positions are erased or not. -/
theorem unplacedAll_consText (content : String) (nodes : List Node) :
    unplacedAll (consText content nodes) =
      consText content (unplacedAll nodes) := by
  cases nodes with
  | nil => simp [consText]
  | cons node rest =>
      cases node with
      | text following => simp [consText]
      | element found => simp [consText]

/-- Texts that follow each other are joined to one. -/
theorem consText_append (first second : String) (nodes : List Node) :
    consText (first ++ second) nodes =
      consText first (consText second nodes) := by
  cases nodes with
  | nil => rfl
  | cons node rest =>
      cases node with
      | text following => simp only [consText, String.append_assoc]
      | element found => rfl

/-- What is put into some content makes no difference to its nodes. -/
theorem unplacedAll_ofTrees_of_annotated
    {plain annotated : List Tree}
    (put : Annotated plain annotated) :
    unplacedAll (ofTrees plain) = unplacedAll (ofTrees annotated) := by
  induction put with
  | nil => rfl
  | comment _ inductionHypothesis | instruction _ inductionHypothesis =>
      simpa only [ofTrees, consTree] using inductionHypothesis
  | text _ inductionHypothesis =>
      simp only [ofTrees, consTree, unplacedAll_consText, inductionHypothesis]
  | split _ _ inductionHypothesis =>
      simp only [ofTrees, consTree, unplacedAll_consText] at inductionHypothesis
      simp only [ofTrees, consTree, unplacedAll_consText, consText_append,
        inductionHypothesis]
  | element _ _ innerHypothesis inductionHypothesis =>
      simp only [ofTrees, consTree, unplacedAll_cons, unplaced_element,
        innerHypothesis, inductionHypothesis]

end Node

/-- A failure without positions. -/
def Error.unplaced : Error → Error
  | .malformed (.strayText _) => .malformed (.strayText .nowhere)
  | .unknownDirective tag statement _ =>
    .unknownDirective tag statement .nowhere
  | .missingStatementName _ => .missingStatementName .nowhere
  | .duplicateStatementName name _ => .duplicateStatementName name .nowhere
  | other => other

/-- A statement without positions. -/
def Statement.unplaced (statement : Statement) : Statement :=
  { statement with
    nodes := Node.unplacedAll statement.nodes
    position := .nowhere }

/-- A result without positions, given how to erase those of a value. -/
def unplacedResult
    {α β : Type}
    (unplace : α → β)
    (result : Except Error α) :
    Except Error β :=
  (result.map unplace).mapError Error.unplaced

section Results

variable
  {α β γ δ : Type}
  {unplace : α → γ}
  {unplaceNext : β → δ}

/-- Steps that do not look at positions follow each other. -/
theorem unplacedResult_bind
    {left right : Except Error α}
    {leftNext rightNext : α → Except Error β}
    (first : unplacedResult unplace left = unplacedResult unplace right)
    (second :
      ∀ leftValue rightValue,
        unplace leftValue = unplace rightValue →
          unplacedResult unplaceNext (leftNext leftValue) =
            unplacedResult unplaceNext (rightNext rightValue)) :
    unplacedResult unplaceNext (left >>= leftNext) =
      unplacedResult unplaceNext (right >>= rightNext) := by
  cases left with
  | error leftFailure =>
      cases right with
      | error rightFailure =>
          exact congrArg Except.error (Except.error.inj first)
      | ok value => cases first
  | ok leftValue =>
      cases right with
      | error failure => cases first
      | ok rightValue => exact second _ _ (Except.ok.inj first)

theorem unplacedResult_ok
    {left right : α}
    (same : unplace left = unplace right) :
    unplacedResult unplace (.ok left) = unplacedResult unplace (.ok right) :=
  congrArg Except.ok same

end Results

/-! ## Statements -/

theorem isBlankText_append (first second : String) :
    Text.isBlankText (first ++ second) =
      (Text.isBlankText first && Text.isBlankText second) := by
  rw [Text.isBlankText, String.toList_append, List.all_append]
  rfl

/-- What is put between statements or into them makes no difference to what
they are read as. -/
theorem Statement.unplacedResult_ofTrees_of_annotated
    {plain annotated : List Tree}
    (put : Annotated plain annotated)
    (seen : List String) :
    unplacedResult (List.map Statement.unplaced) (ofTrees seen plain) =
      unplacedResult (List.map Statement.unplaced)
        (ofTrees seen annotated) := by
  induction put generalizing seen with
  | nil => rfl
  | comment _ inductionHypothesis | instruction _ inductionHypothesis =>
      simpa only [ofTrees] using inductionHypothesis seen
  | text _ inductionHypothesis =>
      simp only [ofTrees]
      split
      next => exact inductionHypothesis seen
      next => rfl
  | @split first second _ _ _ _ _ _ inductionHypothesis =>
      -- The first part that is not blank is what is refused.
      have behind := inductionHypothesis seen
      simp only [ofTrees, isBlankText_append] at behind ⊢
      by_cases blank : Text.isBlankText first = true
      · by_cases blankBehind : Text.isBlankText second = true
        · simpa [blank, blankBehind] using behind
        · simp only [blank, blankBehind] at behind ⊢
          exact behind
      · simp only [blank]
        rfl
  | @element _ attributes _ _ _ _ _ _ inner _ _ inductionHypothesis =>
      simp only [ofTrees]
      cases statementName? attributes with
      | none => rfl
      | some name =>
          dsimp only
          split
          next => rfl
          next =>
            refine unplacedResult_bind (inductionHypothesis (name :: seen)) ?_
            intro left right same
            apply unplacedResult_ok
            simp only [List.map_cons, Statement.unplaced, same,
              Node.unplacedAll_ofTrees_of_annotated inner]

end Template
end TypedSql
