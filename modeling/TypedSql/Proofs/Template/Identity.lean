import Mathlib.Data.List.Pairwise
import TypedSql.Proofs.Markup.Attributes
import TypedSql.Proofs.Template.Content
import TypedSql.Proofs.Text
import TypedSql.Template.Document

/-!
# Identity of statements

The elements right below the root of a document are its statements.  The
document is read exactly if each of them has a name of its own and nothing but
blanks, comments and processing instructions stands between them; otherwise
the first child of the root that breaks this decides the error.

A child is passed over, or it is refused whatever stands before it, or it makes
a statement unless its name is taken.  The names that are taken are all that
the children hand on to each other; they are carried through the inductions.
-/

namespace TypedSql

namespace Markup

/-- Attributes of one element that have the same name are the same. -/
theorem DistinctNames.eq_of_sameName
    {attributes : List Attribute}
    (distinct : DistinctNames attributes)
    {first second : Attribute}
    (firstMember : first ∈ attributes)
    (secondMember : second ∈ attributes)
    (sameSpace : first.space = second.space)
    (sameName : first.localName = second.localName) :
    first = second := by
  have symmetric :
      Std.Symm fun first second : Attribute =>
        ¬(first.space = second.space ∧
          first.localName = second.localName) := by
    constructor
    rintro first second apart ⟨sameSpace, sameName⟩
    exact apart ⟨sameSpace.symm, sameName.symm⟩
  by_contra differ
  exact distinct.forall firstMember secondMember differ ⟨sameSpace, sameName⟩

end Markup

namespace Template

open Markup (Attribute DistinctNames Position Tree)

/-! ## Attributes of a statement -/

/-- The name is not one of the hints. -/
theorem statementHints_name (attributes : List Attribute) :
    (statementHints attributes)["name"]? = none := by
  have absent :
      (attributes.filter (·.localName != "name")).reverse.find?
          (·.localName == "name") =
        none := by
    rw [List.find?_eq_none]
    intro found member
    have other := (List.mem_filter.1 (List.mem_reverse.1 member)).2
    simpa using other
  rw [statementHints, getElem?_collectAttributes]
  exact congrArg _ absent

section Attributes

variable {attributes : List Attribute} (distinct : DistinctNames attributes)

include distinct

/-- The name of a statement is the value of the attribute without a namespace,
if it is not empty. -/
theorem statementName?_eq_some_iff {name : String} :
    statementName? attributes = some name ↔
      ⟨none, "name", name⟩ ∈ attributes ∧ name ≠ "" := by
  have accepted (found : Attribute) :
      (found.space.isNone && found.localName == nameAttribute) = true ↔
        found.space = none ∧ found.localName = "name" := by
    rw [Bool.and_eq_true, Option.isNone_iff_eq_none, beq_iff_eq, nameAttribute]
  have chosen (found : Attribute) :
      attributes.find? (fun found =>
          found.space.isNone && found.localName == nameAttribute) =
          some found ↔
        found ∈ attributes ∧ found.space = none ∧ found.localName = "name" := by
    rw [← accepted]
    constructor
    · intro first
      have fits := List.find?_some first
      exact ⟨List.mem_of_find?_eq_some first, fits⟩
    · rintro ⟨member, fits⟩
      rw [← List.append_nil attributes]
      refine Result.find?_append_of_unique member fits ?_
      intro other present alsoFits
      obtain ⟨space, localName⟩ := (accepted found).1 fits
      obtain ⟨otherSpace, otherName⟩ := (accepted other).1 alsoFits
      exact distinct.eq_of_sameName present member
        (otherSpace.trans space.symm) (otherName.trans localName.symm)
  rw [statementName?, Option.filter_eq_some_iff, Option.map_eq_some_iff]
  simp only [chosen]
  constructor
  · rintro ⟨⟨⟨space, localName, value⟩, ⟨member, rfl, rfl⟩, rfl⟩, nonempty⟩
    exact ⟨member, by simpa using nonempty⟩
  · rintro ⟨member, nonempty⟩
    exact ⟨⟨_, ⟨member, rfl, rfl⟩, rfl⟩, by simpa using nonempty⟩

/-- Without namespaces the hints are all attributes but the name. -/
theorem getElem?_statementHints_eq_some_iff
    (plain : ∀ found ∈ attributes, found.space = none)
    {key value : String} :
    (statementHints attributes)[key]? = some value ↔
      key ≠ "name" ∧ ⟨none, key, value⟩ ∈ attributes := by
  have apart :
      ∀ left ∈ attributes.filter (·.localName != "name"),
        ∀ right ∈ attributes.filter (·.localName != "name"),
          left.localName = right.localName → left = right := by
    intro left leftMember right rightMember sameName
    have leftMember := (List.mem_filter.1 leftMember).1
    have rightMember := (List.mem_filter.1 rightMember).1
    exact distinct.eq_of_sameName leftMember rightMember
      ((plain left leftMember).trans (plain right rightMember).symm) sameName
  rw [statementHints, getElem?_collectAttributes, Option.map_eq_some_iff]
  simp only [nameAttribute, Result.find?_reverse_eq_some_iff apart]
  constructor
  · rintro ⟨⟨space, localName, value⟩, ⟨member, rfl⟩, rfl⟩
    obtain ⟨member, other⟩ := List.mem_filter.1 member
    obtain rfl : space = none := plain _ member
    exact ⟨by simpa using other, member⟩
  · rintro ⟨other, member⟩
    exact ⟨_, ⟨List.mem_filter.2 ⟨member, by simpa using other⟩, rfl⟩, rfl⟩

end Attributes

/-! ## Children of a root -/

/-- An element with a name that is not empty. -/
inductive Named (name : String) : Tree → Prop where
  | element
      {tag : String}
      {attributes : List Attribute}
      {children : List Tree}
      {position : Position}
      (given : ⟨none, "name", name⟩ ∈ attributes)
      (nonempty : name ≠ "") :
      Named name (.element tag attributes children position)

/-- A node that a root may have as a child, as far as it is looked at by
itself. -/
inductive Admissible : Tree → Prop where
  | text
      {content : String}
      {position : Position}
      (blank : Text.trim content = "") :
      Admissible (.text content position)
  | comment : Admissible .comment
  | instruction : Admissible .instruction
  | element
      {name : String}
      {tree : Tree}
      (named : Named name tree) :
      Admissible tree

/-- Children of a root that give every statement a name of its own. -/
structure WellIdentified (children : List Tree) : Prop where
  admissible : ∀ child ∈ children, Admissible child
  distinct : children.Pairwise fun earlier later =>
    ∀ name, Named name earlier → ¬Named name later

/-- What is wrong with a child of a root when some names are taken. -/
inductive ChildFault (taken : String → Prop) : Tree → Error → Prop where
  | stray
      {content : String}
      {position : Position}
      (written : Text.trim content ≠ "") :
      ChildFault taken (.text content position)
        (.malformed (.strayText position))
  | unnamed
      {tag : String}
      {attributes : List Attribute}
      {children : List Tree}
      {position : Position}
      (nameless :
        ∀ name, ¬Named name (.element tag attributes children position)) :
      ChildFault taken (.element tag attributes children position)
        (.missingStatementName position)
  | duplicate
      {name tag : String}
      {attributes : List Attribute}
      {children : List Tree}
      {position : Position}
      (named : Named name (.element tag attributes children position))
      (again : taken name) :
      ChildFault taken (.element tag attributes children position)
        (.duplicateStatementName name position)

/-- The statement that an element is read as. -/
inductive Makes : Tree → Statement → Prop where
  | element
      {tag : String}
      {attributes : List Attribute}
      {children : List Tree}
      {position : Position}
      {statement : Statement}
      (named : ⟨none, "name", statement.name⟩ ∈ attributes)
      (nonempty : statement.name ≠ "")
      (nameless : statement.hints["name"]? = none)
      (hints :
        (∀ found ∈ attributes, found.space = none) →
          ∀ key value : String,
            statement.hints[key]? = some value ↔
              key ≠ "name" ∧ ⟨none, key, value⟩ ∈ attributes)
      (nodes : statement.nodes = Node.ofTrees children)
      (placed : statement.position = position) :
      Makes (.element tag attributes children position) statement

section Child

variable
  {tag name : String}
  {attributes : List Attribute}
  {children : List Tree}
  {position : Position}
  {taken : String → Prop}
  {error : Error}

/-- Attributes of distinct names leave no choice which one is the name. -/
theorem named_iff_statementName? (distinct : DistinctNames attributes) :
    Named name (.element tag attributes children position) ↔
      statementName? attributes = some name := by
  rw [statementName?_eq_some_iff distinct]
  constructor
  · rintro ⟨given, nonempty⟩
    exact ⟨given, nonempty⟩
  · rintro ⟨given, nonempty⟩
    exact .element given nonempty

/-- A text between statements has to be blank. -/
theorem childFault_text_iff {content : String} :
    ChildFault taken (.text content position) error ↔
      Text.trim content ≠ "" ∧ error = .malformed (.strayText position) := by
  constructor
  · rintro ⟨written⟩
    exact ⟨written, rfl⟩
  · rintro ⟨written, rfl⟩
    exact .stray written

/-- A nameless statement is refused, whatever names are taken. -/
theorem childFault_iff_of_nameless
    (nameless :
      ∀ name, ¬Named name (.element tag attributes children position)) :
    ChildFault taken (.element tag attributes children position) error ↔
      error = .missingStatementName position := by
  constructor
  · intro fault
    cases fault with
    | unnamed => rfl
    | duplicate named => exact absurd named (nameless _)
  · rintro rfl
    exact .unnamed nameless

/-- A named one is refused only if its name is taken. -/
theorem childFault_iff_of_named
    (named :
      ∀ other,
        Named other (.element tag attributes children position) ↔
          other = name) :
    ChildFault taken (.element tag attributes children position) error ↔
      taken name ∧ error = .duplicateStatementName name position := by
  constructor
  · intro fault
    cases fault with
    | unnamed nameless => exact absurd ((named name).2 rfl) (nameless name)
    | duplicate given again =>
        obtain rfl := (named _).1 given
        exact ⟨again, rfl⟩
  · rintro ⟨again, rfl⟩
    exact .duplicate ((named name).2 rfl) again

end Child

/-- What becomes of a child of a root, whatever stands around it. -/
inductive Role (tree : Tree) : Prop where
  | skipped
      (admissible : Admissible tree)
      (nameless : ∀ name, ¬Named name tree)
      (faultless : ∀ taken error, ¬ChildFault taken tree error)
      (other : tree.isElement = false)
      (read : ∀ seen rest,
        Statement.ofTrees seen (tree :: rest) = Statement.ofTrees seen rest)
  | refused
      (failure : Error)
      (inadmissible : ¬Admissible tree)
      (fault : ∀ taken error, ChildFault taken tree error ↔ error = failure)
      (read : ∀ seen rest,
        Statement.ofTrees seen (tree :: rest) = .error failure)
  | statement
      (statement : Statement)
      (named : ∀ name, Named name tree ↔ name = statement.name)
      (fault : ∀ taken error,
        ChildFault taken tree error ↔
          taken statement.name ∧
            error =
              .duplicateStatementName statement.name statement.position)
      (element : tree.isElement = true)
      (makes : Makes tree statement)
      (read : ∀ seen rest,
        Statement.ofTrees seen (tree :: rest) =
          if statement.name ∈ seen then
            .error
              (.duplicateStatementName statement.name statement.position)
          else do
            let statements ← Statement.ofTrees (statement.name :: seen) rest
            pure (statement :: statements))

theorem role_of_element
    {tag : String}
    {attributes : List Attribute}
    {children : List Tree}
    {position : Position}
    (distinct : DistinctNames attributes) :
    Role (.element tag attributes children position) := by
  cases chosen : statementName? attributes with
  | none =>
      have nameless (name : String) :
          ¬Named name (.element tag attributes children position) := by
        simp [named_iff_statementName? distinct, chosen]
      refine .refused (.missingStatementName position) ?_
        (fun _ _ => childFault_iff_of_nameless nameless) ?_
      · intro admissible
        cases admissible with
        | element named => exact nameless _ named
      · intro seen rest
        simp only [Statement.ofTrees, chosen]
  | some name =>
      obtain ⟨given, nonempty⟩ := (statementName?_eq_some_iff distinct).1 chosen
      have named (other : String) :
          Named other (.element tag attributes children position) ↔
            other = name := by
        rw [named_iff_statementName? distinct, chosen, Option.some.injEq,
          eq_comm]
      refine .statement
        ⟨name, statementHints attributes, Node.ofTrees children, position⟩
        named (fun _ _ => childFault_iff_of_named named) rfl ?_ ?_
      · exact .element given nonempty (statementHints_name attributes)
          (fun plain _ _ => getElem?_statementHints_eq_some_iff distinct plain)
          rfl rfl
      · intro seen rest
        simp only [Statement.ofTrees, chosen, List.contains_iff_mem]

theorem role_of_text (content : String) (position : Position) :
    Role (.text content position) := by
  by_cases blank : Text.trim content = ""
  · refine .skipped (.text blank) ?_ ?_ rfl ?_
    · rintro name ⟨⟩
    · intro taken error
      simp [childFault_text_iff, blank]
    · intro seen rest
      rw [Statement.ofTrees, if_pos (Text.trim_eq_empty_iff.1 blank)]
  · refine .refused (.malformed (.strayText position)) ?_ ?_ ?_
    · intro admissible
      cases admissible with
      | text empty => exact blank empty
      | element named => cases named
    · intro taken error
      simp [childFault_text_iff, blank]
    · intro seen rest
      rw [Statement.ofTrees, if_neg (mt Text.trim_eq_empty_iff.2 blank)]

/-- Each child of a document is a blank, a stray text, a nameless statement or a
named one. -/
theorem Role.of_wellAttributed
    {tree : Tree}
    (well : tree.WellAttributed) :
    Role tree := by
  cases well with
  | text content position => exact role_of_text content position
  | comment =>
      refine .skipped .comment ?_ ?_ rfl fun _ _ => rfl
      · rintro name ⟨⟩
      · rintro taken error ⟨⟩
  | instruction =>
      refine .skipped .instruction ?_ ?_ rfl fun _ _ => rfl
      · rintro name ⟨⟩
      · rintro taken error ⟨⟩
  | element distinct => exact role_of_element distinct

/-! ## Names that are taken -/

/-- Children that give every statement a name of its own, other than those that
are taken. -/
structure IdentifiedBehind (seen : List String) (children : List Tree) :
    Prop where
  identified : WellIdentified children
  fresh : ∀ child ∈ children, ∀ name ∈ seen, ¬Named name child

section Names

variable
  {seen : List String}
  {tree : Tree}
  {rest : List Tree}

/-- The first statement must not share its name with a later one. -/
theorem wellIdentified_cons :
    WellIdentified (tree :: rest) ↔
      Admissible tree ∧
        (∀ child ∈ rest, ∀ name, Named name tree → ¬Named name child) ∧
        WellIdentified rest := by
  constructor
  · rintro ⟨admissible, distinct⟩
    obtain ⟨first, others⟩ := List.forall_mem_cons.1 admissible
    obtain ⟨apart, distinct⟩ := List.pairwise_cons.1 distinct
    exact ⟨first, apart, others, distinct⟩
  · rintro ⟨first, apart, others, distinct⟩
    exact
      { admissible := List.forall_mem_cons.2 ⟨first, others⟩
        distinct := List.pairwise_cons.2 ⟨apart, distinct⟩ }

theorem identifiedBehind_nil : IdentifiedBehind seen [] where
  identified := ⟨List.forall_mem_nil _, .nil⟩
  fresh := List.forall_mem_nil _

theorem identifiedBehind_cons_of_nameless
    (admissible : Admissible tree)
    (nameless : ∀ name, ¬Named name tree) :
    IdentifiedBehind seen (tree :: rest) ↔ IdentifiedBehind seen rest := by
  constructor
  · rintro ⟨identified, fresh⟩
    exact
      { identified := (wellIdentified_cons.1 identified).2.2
        fresh := (List.forall_mem_cons.1 fresh).2 }
  · rintro ⟨identified, fresh⟩
    exact
      { identified := wellIdentified_cons.2
          ⟨admissible, fun _ _ name named => absurd named (nameless name),
            identified⟩
        fresh := List.forall_mem_cons.2
          ⟨fun name _ => nameless name, fresh⟩ }

/-- A statement takes its name, which must have been free. -/
theorem identifiedBehind_cons_of_named
    {name : String}
    (named : ∀ other, Named other tree ↔ other = name) :
    IdentifiedBehind seen (tree :: rest) ↔
      name ∉ seen ∧ IdentifiedBehind (name :: seen) rest := by
  constructor
  · rintro ⟨identified, fresh⟩
    obtain ⟨-, apart, identified⟩ := wellIdentified_cons.1 identified
    obtain ⟨first, others⟩ := List.forall_mem_cons.1 fresh
    have named := (named name).2 rfl
    exact
      ⟨fun taken => first name taken named,
        { identified
          fresh := fun child member => List.forall_mem_cons.2
            ⟨apart child member name named, others child member⟩ }⟩
  · rintro ⟨new, identified, fresh⟩
    exact
      { identified := wellIdentified_cons.2
          ⟨.element ((named name).2 rfl),
            fun child member other given =>
              (named other).1 given ▸
                fresh child member name List.mem_cons_self,
            identified⟩
        fresh := List.forall_mem_cons.2
          ⟨fun other taken given => new ((named other).1 given ▸ taken),
            fun child member other taken =>
              fresh child member other (List.mem_cons_of_mem _ taken)⟩ }

end Names

/-- The names that are taken from the start or by some children. -/
def Taken (seen : List String) (children : List Tree) (name : String) : Prop :=
  name ∈ seen ∨ ∃ child ∈ children, Named name child

/-- Some children give every statement a name of its own, and something is
wrong with the child behind them. -/
def FirstChildFault
    (seen : List String)
    (children : List Tree)
    (error : Error) :
    Prop :=
  ∃ before child after,
    children = before ++ child :: after ∧
      IdentifiedBehind seen before ∧
      ChildFault (Taken seen before) child error

section Names

variable
  {seen : List String}
  {tree : Tree}
  {rest : List Tree}

theorem taken_nil : Taken seen [] = (· ∈ seen) := by
  funext name
  simp [Taken]

theorem taken_cons_of_nameless (nameless : ∀ name, ¬Named name tree) :
    Taken seen (tree :: rest) = Taken seen rest := by
  funext name
  simp [Taken, nameless]

theorem taken_cons_of_named
    {name : String}
    (named : ∀ other, Named other tree ↔ other = name) :
    Taken seen (tree :: rest) = Taken (name :: seen) rest := by
  funext other
  simp [Taken, named, or_assoc, or_left_comm]

end Names

/-! ## Reading the children -/

namespace Statement

/-- The statements of a document are read exactly if they are well
identified. -/
theorem exists_ofTrees_iff
    {seen : List String}
    {children : List Tree}
    (well : ∀ child ∈ children, child.WellAttributed) :
    (∃ statements, ofTrees seen children = .ok statements) ↔
      IdentifiedBehind seen children := by
  induction children generalizing seen with
  | nil => exact iff_of_true ⟨[], rfl⟩ identifiedBehind_nil
  | cons tree rest inductionHypothesis =>
      obtain ⟨treeWell, restWell⟩ := List.forall_mem_cons.1 well
      cases Role.of_wellAttributed treeWell with
      | skipped admissible nameless _ _ read =>
          rw [read, inductionHypothesis restWell,
            identifiedBehind_cons_of_nameless admissible nameless]
      | refused failure inadmissible _ read =>
          rw [read]
          constructor
          · rintro ⟨_, ⟨⟩⟩
          · rintro ⟨identified, -⟩
            exact absurd (wellIdentified_cons.1 identified).1 inadmissible
      | statement statement named _ _ _ read =>
          rw [read, identifiedBehind_cons_of_named named,
            ← inductionHypothesis restWell]
          split
          next taken => simp [taken]
          next new =>
            simp only [new, not_false_eq_true, true_and]
            constructor
            · rintro ⟨_, both⟩
              obtain ⟨statements, othersRead, -⟩ :=
                Result.bind_eq_ok_iff.1 both
              exact ⟨statements, othersRead⟩
            · rintro ⟨statements, othersRead⟩
              exact ⟨_, Result.bind_eq_ok_iff.2 ⟨statements, othersRead, rfl⟩⟩

/-- Each element makes one statement, in order. -/
theorem makes_of_ofTrees
    {seen : List String}
    {children : List Tree}
    (well : ∀ child ∈ children, child.WellAttributed)
    {statements : List Statement}
    (read : ofTrees seen children = .ok statements) :
    List.Forall₂ Makes (children.filter (·.isElement)) statements := by
  induction children generalizing seen statements with
  | nil =>
      cases read
      exact .nil
  | cons tree rest inductionHypothesis =>
      obtain ⟨treeWell, restWell⟩ := List.forall_mem_cons.1 well
      cases Role.of_wellAttributed treeWell with
      | skipped _ _ _ other readOn =>
          rw [List.filter_cons_of_neg (by simp [other])]
          exact inductionHypothesis restWell (readOn seen rest ▸ read)
      | refused failure _ _ refusal =>
          rw [refusal] at read
          cases read
      | statement statement _ _ element makes readOn =>
          rw [readOn] at read
          rw [List.filter_cons_of_pos element]
          split at read
          next => cases read
          next =>
            obtain ⟨others, othersRead, made⟩ := Result.bind_eq_ok_iff.1 read
            cases made
            exact .cons makes (inductionHypothesis restWell othersRead)

/-- A document is refused for its first child at fault. -/
theorem ofTrees_eq_error_iff
    {seen : List String}
    {children : List Tree}
    (well : ∀ child ∈ children, child.WellAttributed)
    {error : Error} :
    ofTrees seen children = .error error ↔
      FirstChildFault seen children error := by
  induction children generalizing seen with
  | nil =>
      constructor
      · rintro ⟨⟩
      · rintro ⟨before, child, after, split, -⟩
        simp at split
  | cons tree rest inductionHypothesis =>
      obtain ⟨treeWell, restWell⟩ := List.forall_mem_cons.1 well
      have inductionHypothesis {seen : List String} :=
        @inductionHypothesis seen restWell
      rw [FirstChildFault, Result.exists_split_cons_iff]
      simp only [identifiedBehind_nil, true_and, taken_nil]
      cases Role.of_wellAttributed treeWell with
      | skipped admissible nameless faultless _ read =>
          rw [read, inductionHypothesis]
          simp only [faultless, false_or, taken_cons_of_nameless nameless,
            identifiedBehind_cons_of_nameless admissible nameless]
          rfl
      | refused failure inadmissible fault read =>
          have notBehind (before : List Tree) :
              ¬IdentifiedBehind seen (tree :: before) := by
            rintro ⟨identified, -⟩
            exact inadmissible (wellIdentified_cons.1 identified).1
          rw [read, fault]
          simp [notBehind, eq_comm]
      | statement statement named fault _ _ read =>
          rw [read, fault]
          simp only [identifiedBehind_cons_of_named named,
            taken_cons_of_named named]
          split
          next taken => simp [taken, eq_comm]
          next new =>
            simp only [new, not_false_eq_true, true_and, false_and, false_or]
            rw [Result.bind_eq_error_iff, inductionHypothesis]
            constructor
            · rintro (fault | ⟨_, -, ⟨⟩⟩)
              exact fault
            · exact .inl

end Statement

/-! ## Documents -/

/-- What is read of the children of a root. -/
structure Identifies
    (children : List Tree)
    (result : Except Error (List Statement)) :
    Prop where
  ok_iff :
    (∃ statements, result = .ok statements) ↔ WellIdentified children
  /-- Every element is a statement, in order. -/
  statements
      {statements : List Statement}
      (read : result = .ok statements) :
    List.Forall₂ Makes (children.filter (·.isElement)) statements
  /-- The first child that is at fault decides the error, given that the names
  of the statements before it are taken. -/
  error_iff {error : Error} :
    result = .error error ↔
      ∃ before child after,
        children = before ++ child :: after ∧
          WellIdentified before ∧
          ChildFault (fun name => ∃ earlier ∈ before, Named name earlier) child
            error

theorem identifies_ofTrees
    {children : List Tree}
    (well : ∀ child ∈ children, child.WellAttributed) :
    Identifies children (Statement.ofTrees [] children) := by
  have identified_iff (children : List Tree) :
      IdentifiedBehind [] children ↔ WellIdentified children := by
    constructor
    · intro behind
      exact behind.identified
    · intro identified
      exact ⟨identified, fun _ _ => List.forall_mem_nil _⟩
  have taken_eq (children : List Tree) :
      Taken [] children = fun name => ∃ child ∈ children, Named name child := by
    funext name
    simp [Taken]
  constructor
  · rw [Statement.exists_ofTrees_iff well, identified_iff]
  · exact Statement.makes_of_ofTrees well
  · intro error
    rw [Statement.ofTrees_eq_error_iff well, FirstChildFault]
    simp only [identified_iff, taken_eq]

/-- The statements of a root are identified by its children, and so are those
of every document that has this root. -/
theorem identifies_statements (root : Tree) :
    (root.WellAttributed →
        Identifies root.content (statementsOfTree root)) ∧
      ∀ text,
        Markup.parse text = .ok root →
          Identifies root.content (parseDocument text) := by
  have ofRoot
      (well : root.WellAttributed) :
      Identifies root.content (statementsOfTree root) := by
    cases well with
    | element _ inner => exact identifies_ofTrees inner
    | text | comment | instruction =>
        exact identifies_ofTrees (List.forall_mem_nil _)
  refine ⟨ofRoot, ?_⟩
  intro text parsed
  rw [parseDocument, parsed]
  exact ofRoot (Markup.wellAttributed_of_parse parsed)

/-- A document in which two statements have one name. -/
def repeatedText : String :=
  "<s> <q name=\"A\" k=\"1\"/><!-- --><q name=\"A\"/></s>"

/-- The root of this document. -/
def repeatedRoot : Tree :=
  .element "s" []
    [.text " " ⟨1, 4⟩,
      .element "q" [⟨none, "name", "A"⟩, ⟨none, "k", "1"⟩] [] ⟨1, 5⟩,
      .comment,
      .element "q" [⟨none, "name", "A"⟩] [] ⟨1, 32⟩]
    ⟨1, 1⟩

/-- Of two statements that share a name, the second one is at fault. -/
theorem identifies_repeatedText :
    repeatedRoot.WellAttributed ∧
      Identifies repeatedRoot.content (statementsOfTree repeatedRoot) ∧
      Markup.parse repeatedText = .ok repeatedRoot ∧
      Identifies repeatedRoot.content (parseDocument repeatedText) := by
  have parsed : Markup.parse repeatedText = .ok repeatedRoot := by
    with_unfolding_all rfl
  have well := Markup.wellAttributed_of_parse parsed
  obtain ⟨ofRoot, ofText⟩ := identifies_statements repeatedRoot
  exact ⟨well, ofRoot well, parsed, ofText repeatedText parsed⟩

/-- The later of the two statements is reported. -/
example :
    Result.failure? (parseDocument repeatedText) =
      some (.duplicateStatementName "A" ⟨1, 32⟩) := by
  decide +kernel

end Template
end TypedSql
