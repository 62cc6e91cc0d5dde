import TypedSql.Proofs.Directive.Builtin
import TypedSql.Statement.Chain

/-!
# Empty attributes

An attribute of a directive that is set to the empty text has the same effect
as one that is left out, since the built-in directives look at the attributes
of an element only for values that are not empty.  The name of a statement is
treated in the same way.
-/

namespace TypedSql

open Markup (Attribute Tree)
open Template (Element Node)

namespace Markup

/-- Attributes of which the marked ones are set to the empty text. -/
def emptied (marked : Attribute → Bool) (attributes : List Attribute) :
    List Attribute :=
  attributes.map fun found =>
    if marked found then { found with value := "" } else found

/-- Attributes of which the marked ones are left out. -/
def dropped (marked : Attribute → Bool) (attributes : List Attribute) :
    List Attribute :=
  attributes.filter (!marked ·)

end Markup

open Markup (dropped emptied)

/-! ## Names of statements -/

namespace Template

/-- Whether an attribute of a statement is its name. -/
def namesStatement (found : Attribute) : Bool :=
  found.space.isNone && found.localName == nameAttribute

theorem statementName?_emptied (attributes : List Attribute) :
    statementName? (emptied namesStatement attributes) = none := by
  have empty (found : Attribute)
      (first :
        (emptied namesStatement attributes).find? namesStatement =
          some found) :
      found.value = "" := by
    obtain ⟨original, -, rfl⟩ :=
      List.mem_map.1 (List.mem_of_find?_eq_some first)
    have marked := List.find?_some first
    by_cases names : namesStatement original = true
    · rw [if_pos names]
    · rw [if_neg names] at marked
      exact absurd marked names
  change (((emptied namesStatement attributes).find? namesStatement).map
    (·.value)).filter _ = none
  cases first : (emptied namesStatement attributes).find? namesStatement with
  | none => rfl
  | some found => simp [empty found first]

theorem statementName?_dropped (attributes : List Attribute) :
    statementName? (dropped namesStatement attributes) = none := by
  have absent :
      (dropped namesStatement attributes).find? namesStatement = none := by
    rw [dropped, List.find?_filter, List.find?_eq_none]
    simp
  change (((dropped namesStatement attributes).find? namesStatement).map
    (·.value)).filter _ = none
  rw [absent]
  rfl

/-- A statement with an empty name is refused like one without a name, and
what stands around it makes no difference. -/
theorem ofTrees_emptied_name
    (seen : List String)
    (before : List Tree)
    (tag : String)
    (attributes : List Attribute)
    (children : List Tree)
    (position : Markup.Position)
    (after : List Tree) :
    Statement.ofTrees seen
        (before ++
          .element tag (emptied namesStatement attributes) children position ::
            after) =
      Statement.ofTrees seen
        (before ++
          .element tag (dropped namesStatement attributes) children position ::
            after) := by
  induction before generalizing seen with
  | nil =>
      simp only [List.nil_append, Statement.ofTrees, statementName?_emptied,
        statementName?_dropped]
  | cons tree rest inductionHypothesis =>
      cases tree <;>
        simp only [List.cons_append, Statement.ofTrees, inductionHypothesis]

/-! ## Attributes of elements -/

/-- Attributes that have the same values except for empty ones. -/
def AlikeAttributes (left right : Attributes) : Prop :=
  ∀ name value : String, value ≠ "" →
    (left[name]? = some value ↔ right[name]? = some value)

section Attributes

variable {left right : Attributes}

theorem AlikeAttributes.insert
    (alike : AlikeAttributes left right)
    (name value : String) :
    AlikeAttributes (left.insert name value) (right.insert name value) := by
  intro other given nonempty
  rw [Std.TreeMap.getElem?_insert, Std.TreeMap.getElem?_insert]
  split
  · exact Iff.rfl
  · exact alike other given nonempty

/-- An empty attribute that is added makes no difference where there was
none. -/
theorem AlikeAttributes.insert_empty
    (alike : AlikeAttributes left right)
    {name : String}
    (free : right[name]? = none) :
    AlikeAttributes (left.insert name "") right := by
  intro other given nonempty
  rw [Std.TreeMap.getElem?_insert]
  split
  next same =>
    obtain rfl := Std.compare_eq_iff_eq.1 same
    simp [free, nonempty.symm]
  next => exact alike other given nonempty

/-- Attributes are collected by their local names, so those of one name are
emptied or left out together. -/
theorem alikeAttributes_foldl
    {name : String}
    (attributes : List Attribute)
    (alike : AlikeAttributes left right)
    (free : right[name]? = none) :
    AlikeAttributes
      ((emptied (·.localName == name) attributes).foldl
        (fun found next => found.insert next.localName next.value) left)
      ((dropped (·.localName == name) attributes).foldl
        (fun found next => found.insert next.localName next.value) right) := by
  induction attributes generalizing left right with
  | nil => exact alike
  | cons first rest inductionHypothesis =>
      unfold emptied dropped
      rw [List.map_cons, List.foldl_cons]
      -- An attribute of the name only ever puts an empty value on the left.
      by_cases marked : first.localName = name
      · subst marked
        rw [List.filter_cons_of_neg (by simp), if_pos (beq_self_eq_true _)]
        exact inductionHypothesis (alike.insert_empty free) free
      · rw [List.filter_cons_of_pos (by simpa using marked), List.foldl_cons,
          if_neg (by simpa using marked)]
        apply inductionHypothesis (alike.insert _ _)
        rw [Std.TreeMap.getElem?_insert, if_neg, free]
        exact fun same => marked (Std.compare_eq_iff_eq.1 same)

end Attributes

/-- Elements that differ in nothing but attributes that are absent or empty. -/
structure Element.Alike (left right : Element Node) : Prop where
  tag_eq : left.tag = right.tag
  attributes : AlikeAttributes left.attributes right.attributes
  children_eq : left.children = right.children
  position_eq : left.position = right.position

/-- Elements that are alike up to empty attributes look alike to the built-in
directives. -/
theorem Element.Alike.looksLike
    {left right : Element Node}
    (alike : left.Alike right) :
    Directive.LooksLike left right where
  tag_eq := alike.tag_eq
  attribute_eq name := by
    ext value
    simp only [Directive.nonemptyAttribute?_eq_some_iff, and_congr_left_iff]
    exact alike.attributes name value
  text_eq := by
    rw [Element.leadingText, Element.leadingText, alike.children_eq]

/-- The same for nodes. -/
inductive Node.Alike : Node → Node → Prop where
  | refl (node : Node) : Alike node node
  | element
      {left right : Element Node}
      (alike : left.Alike right) :
      Alike (.element left) (.element right)

/-- What stands in front of alike nodes keeps them alike. -/
theorem Node.forall₂_alike_consTree
    {left right : List Node}
    (alike : List.Forall₂ Node.Alike left right)
    (tree : Tree) :
    List.Forall₂ Node.Alike (Node.consTree left tree)
      (Node.consTree right tree) := by
  cases tree with
  | comment => simpa only [Node.consTree] using alike
  | instruction => simpa only [Node.consTree] using alike
  | element tag attributes children position =>
      simp only [Node.consTree]
      exact .cons (.refl _) alike
  | text content position =>
      simp only [Node.consTree]
      cases alike with
      | nil => exact .cons (.refl _) .nil
      | @cons node other _ _ first rest =>
          cases first with
          | element elements =>
              exact .cons (.refl _) (.cons (.element elements) rest)
          | refl =>
              cases node with
              | text following => exact .cons (.refl _) rest
              | element element =>
                  exact .cons (.refl _) (.cons (.refl _) rest)

/-- The nodes of some content are alike whether the attributes of one name are
empty in one of its elements or left out there. -/
theorem Node.forall₂_alike_ofTrees
    (name : String)
    (before : List Tree)
    (tag : String)
    (attributes : List Attribute)
    (children : List Tree)
    (position : Markup.Position)
    (after : List Tree) :
    List.Forall₂ Node.Alike
      (Node.ofTrees
        (before ++
          .element tag (emptied (·.localName == name) attributes) children
            position :: after))
      (Node.ofTrees
        (before ++
          .element tag (dropped (·.localName == name) attributes) children
            position :: after)) := by
  induction before with
  | nil =>
      simp only [List.nil_append, Node.ofTrees, Node.consTree]
      refine .cons (.element ⟨rfl, ?_, rfl, rfl⟩)
        (List.forall₂_same.2 fun node _ => .refl node)
      exact alikeAttributes_foldl attributes (fun _ _ _ => Iff.rfl)
        Std.TreeMap.getElem?_emptyc
  | cons tree rest inductionHypothesis =>
      simp only [List.cons_append, Node.ofTrees]
      exact Node.forall₂_alike_consTree inductionHypothesis tree

end Template

/-! ## Configuring alike nodes -/

namespace Chain

open Directive (Scope)

/-- Empty attributes make no difference to the configuration of a node. -/
theorem configureNode_of_alike
    {scope : Scope}
    {arguments : List Argument}
    {left right : Node}
    (alike : left.Alike right) :
    configureNode .builtin scope arguments left =
      configureNode .builtin scope arguments right := by
  cases alike with
  | refl => rfl
  | @element left right alike =>
      change (kindOf .builtin scope.statement (.element left) >>= fun kind =>
          Directive.configured kind scope arguments (.element left)) =
        (kindOf .builtin scope.statement (.element right) >>= fun kind =>
          Directive.configured kind scope arguments (.element right))
      simp only [kindOf, alike.tag_eq, alike.position_eq]
      cases known : Directive.Registry.builtin.kind? right.tag with
      | none => rfl
      | some kind =>
          exact Directive.configured_of_looksLike alike.looksLike known

theorem configureNodes_of_alike
    {scope : Scope}
    {arguments : List Argument}
    {left right : List Node}
    (alike : List.Forall₂ Node.Alike left right) :
    configureNodes .builtin scope arguments left =
      configureNodes .builtin scope arguments right := by
  induction alike generalizing arguments with
  | nil => rfl
  | cons first _ inductionHypothesis =>
      simp only [configureNodes, configureNode_of_alike first,
        inductionHypothesis]

end Chain
end TypedSql
