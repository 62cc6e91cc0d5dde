import TypedSql.Markup.Tree
import TypedSql.Proofs.Result

/-!
# Attributes of document trees

No two attributes of an element have the same name.  A tag with two such
attributes is refused while its attributes are resolved, so the elements of
every tree that a document is read as have attributes of different names, at
any depth.
-/

namespace TypedSql
namespace Markup

/-- Attributes that are told apart by their namespaces and local names. -/
def DistinctNames (attributes : List Attribute) : Prop :=
  attributes.Pairwise fun first second =>
    ¬(first.space = second.space ∧ first.localName = second.localName)

/-- A node in which the attributes of every element are told apart by their
names. -/
inductive Tree.WellAttributed : Tree → Prop where
  | text (content : String) (position : Position) :
      WellAttributed (.text content position)
  | comment : WellAttributed .comment
  | instruction : WellAttributed .instruction
  | element
      {name : String}
      {attributes : List Attribute}
      {children : List Tree}
      {position : Position}
      (distinct : DistinctNames attributes)
      (inner : ∀ child ∈ children, child.WellAttributed) :
      WellAttributed (.element name attributes children position)

/-! ## Tags -/

theorem distinctNames_reverse_iff {attributes : List Attribute} :
    DistinctNames attributes.reverse ↔ DistinctNames attributes := by
  unfold DistinctNames
  rw [List.pairwise_reverse]
  simp only [eq_comm]

/-- An attribute is refused if its name was resolved before, so the names stay
distinct. -/
theorem distinctNames_of_resolveAttributes
    {bindings : Bindings}
    {before : List Attribute}
    (distinct : DistinctNames before)
    {written : List (QName × String)}
    {attributes : List Attribute}
    (resolved : resolveAttributes bindings before written = .ok attributes) :
    DistinctNames attributes := by
  induction written generalizing before with
  | nil =>
      cases resolved
      exact distinctNames_reverse_iff.2 distinct
  | cons raw rest inductionHypothesis =>
      obtain ⟨name, value⟩ := raw
      rw [resolveAttributes] at resolved
      split at resolved
      next => exact inductionHypothesis distinct resolved
      next =>
        obtain ⟨found, -, remaining⟩ := Result.bind_eq_ok_iff.1 resolved
        split at remaining
        next => cases remaining
        next fresh =>
          refine inductionHypothesis (List.pairwise_cons.2 ⟨?_, distinct⟩)
            remaining
          rintro other member ⟨sameSpace, sameName⟩
          apply fresh
          rw [List.any_eq_true]
          exact ⟨other, member, by simp [sameSpace, sameName]⟩

/-- The attributes of an element have distinct names. -/
theorem distinctNames_of_resolveTag
    {outer bindings : Bindings}
    {name : QName}
    {written : List RawAttribute}
    {attributes : List Attribute}
    (resolved : resolveTag outer name written = .ok (attributes, bindings)) :
    DistinctNames attributes := by
  obtain ⟨values, -, remaining⟩ := Result.bind_eq_ok_iff.1 resolved
  obtain ⟨own, -, remaining⟩ := Result.bind_eq_ok_iff.1 remaining
  obtain ⟨_, -, remaining⟩ := Result.bind_eq_ok_iff.1 remaining
  obtain ⟨found, given, made⟩ := Result.bind_eq_ok_iff.1 remaining
  cases made
  exact distinctNames_of_resolveAttributes .nil given

/-! ## Trees -/

/-- An open element that becomes a well attributed node when it is closed. -/
structure OpenElement.WellAttributed (element : OpenElement) : Prop where
  distinct : DistinctNames element.attributes
  inner : ∀ child ∈ element.children, child.WellAttributed

namespace OpenElement

variable {element : OpenElement}

theorem WellAttributed.close (well : element.WellAttributed) :
    element.close.WellAttributed :=
  .element well.distinct fun child member =>
    well.inner child (List.mem_reverse.1 member)

/-- An open element stays as it is when a sound child is added. -/
theorem WellAttributed.add
    (well : element.WellAttributed)
    {child : Tree}
    (added : child.WellAttributed) :
    (element.add child).WellAttributed where
  distinct := well.distinct
  inner := List.forall_mem_cons.2 ⟨added, well.inner⟩

theorem WellAttributed.addText
    (well : element.WellAttributed)
    (content : String)
    (position : Position) :
    (element.addText content position).WellAttributed := by
  unfold OpenElement.addText
  split
  next before start older joined =>
    have inner := joined ▸ well.inner
    exact
      { distinct := well.distinct
        inner := List.forall_mem_cons.2
          ⟨.text _ _, (List.forall_mem_cons.1 inner).2⟩ }
  next =>
    exact
      { distinct := well.distinct
        inner := List.forall_mem_cons.2 ⟨.text _ _, well.inner⟩ }

end OpenElement

/-- The elements that are open keep attributes of different names, and so does
everything that has been closed in them. -/
theorem wellAttributed_of_buildWithin
    {inner : OpenElement}
    {outer : List OpenElement}
    {tokens rest : List Located}
    {root : Tree}
    (well : inner.WellAttributed)
    (outerWell : ∀ element ∈ outer, element.WellAttributed)
    (built : buildWithin inner outer tokens = .ok (root, rest)) :
    root.WellAttributed := by
  induction tokens generalizing inner outer with
  | nil => cases built
  | cons located later inductionHypothesis =>
      obtain ⟨position, token⟩ := located
      cases token with
      | text raw =>
          obtain ⟨content, -, remaining⟩ := Result.bind_eq_ok_iff.1 built
          exact inductionHypothesis (well.addText content position) outerWell
            remaining
      | «section» raw =>
          exact inductionHypothesis (well.addText _ position) outerWell built
      | comment =>
          exact inductionHypothesis (well.add .comment) outerWell built
      | instruction =>
          exact inductionHypothesis (well.add .instruction) outerWell built
      | startTag name written =>
          obtain ⟨⟨attributes, bindings⟩, resolved, remaining⟩ :=
            Result.bind_eq_ok_iff.1 built
          exact inductionHypothesis
            ⟨distinctNames_of_resolveTag resolved, List.forall_mem_nil _⟩
            (List.forall_mem_cons.2 ⟨well, outerWell⟩) remaining
      | emptyTag name written =>
          obtain ⟨⟨attributes, bindings⟩, resolved, remaining⟩ :=
            Result.bind_eq_ok_iff.1 built
          have child :
              (Tree.element name.localName attributes [] position)
                |>.WellAttributed :=
            .element (distinctNames_of_resolveTag resolved)
              (List.forall_mem_nil _)
          exact inductionHypothesis (well.add child) outerWell remaining
      | endTag name =>
          unfold buildWithin at built
          dsimp only at built
          split at built
          next =>
            cases outer with
            | nil =>
                cases built
                exact well.close
            | cons parent others =>
                obtain ⟨parentWell, othersWell⟩ :=
                  List.forall_mem_cons.1 outerWell
                exact inductionHypothesis (parentWell.add well.close)
                  othersWell built
          next => cases built

/-- A tree that is built from tokens is sound down to its leaves. -/
theorem wellAttributed_of_rootOfTokens
    {tokens : List Located}
    {root : Tree}
    (built : rootOfTokens tokens = .ok root) :
    root.WellAttributed := by
  have kept
      {found : Tree}
      {rest : List Located}
      (closed :
        (if rest.all isOutside then
            pure found
          else
            .error Error.noSingleRoot) =
          Except.ok root) :
      found = root := by
    split at closed
    next => exact Except.ok.inj closed
    next => cases closed
  unfold rootOfTokens at built
  dsimp only at built
  split at built
  next position name written later _ =>
    obtain ⟨⟨attributes, bindings⟩, resolved, remaining⟩ :=
      Result.bind_eq_ok_iff.1 built
    obtain ⟨⟨found, rest⟩, read, closed⟩ := Result.bind_eq_ok_iff.1 remaining
    rw [← kept closed]
    exact wellAttributed_of_buildWithin
      ⟨distinctNames_of_resolveTag resolved, List.forall_mem_nil _⟩
      (List.forall_mem_nil _) read
  next position name written later _ =>
    obtain ⟨⟨attributes, bindings⟩, resolved, closed⟩ :=
      Result.bind_eq_ok_iff.1 built
    rw [← kept closed]
    exact .element (distinctNames_of_resolveTag resolved)
      (List.forall_mem_nil _)
  next => cases built

/-- In the tree of a document the attributes of every element have different
names. -/
theorem wellAttributed_of_parse
    {text : String}
    {root : Tree}
    (parsed : parse text = .ok root) :
    root.WellAttributed := by
  obtain ⟨found, -, built⟩ := Result.bind_eq_ok_iff.1 parsed
  exact wellAttributed_of_rootOfTokens built

end Markup
end TypedSql
