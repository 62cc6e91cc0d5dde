import TypedSql.Proofs.Statement.EmptyAttributes
import TypedSql.Proofs.Statement.Meaning

/-!
# Acceptance of documents

A document is refused for its form before any directive in it is looked at.
Otherwise it is accepted exactly when all nodes of its statements are, and the
first node that is not decides the error.  Whether a node is accepted depends
on the schema and on the arguments that its statement has declared before it.

The arguments that are declared so far are the only thing that the nodes of a
statement hand on to each other; they are carried through the induction.
-/

namespace TypedSql

open Directive (Lacks Scope)
open Markup (Attribute Tree dropped emptied)
open Template (Element Node)

/-! ## One node -/

/-- The type of an argument is left open, or it is a canonical type. -/
def TypedSoundly (element : Element Node) : Prop :=
  Lacks element "type" ∨
    ∃ type : CanonicalType, element.attribute? "type" = some type.name

/-- A node that a statement may have behind others that have declared
arguments of some names. -/
inductive Acceptable (schema : Schema) (declared : List String) :
    Node → Prop where
  | text (content : String) : Acceptable schema declared (.text content)
  | replacement
      {element : Element Node}
      (tag : element.tag = "replace")
      (given : ¬Lacks element "with") :
      Acceptable schema declared (.element element)
  | argument
      {element : Element Node}
      {name : String}
      (tag : element.tag = "arg")
      (named : element.attribute? "name" = some name)
      (nonempty : name ≠ "")
      (sampled : Text.trim element.leadingText ≠ "")
      (typed : TypedSoundly element)
      (new : name ∉ declared) :
      Acceptable schema declared (.element element)
  | wildcard
      {element : Element Node}
      {name : String}
      {table : Table}
      (tag : element.tag = "wc")
      (named : element.attribute? "table" = some name)
      (nonempty : name ≠ "")
      (found : schema.table? name = some table) :
      Acceptable schema declared (.element element)

/-- The first thing that is wrong with a node of a statement behind others
that have declared arguments of some names. -/
inductive NodeFault
    (statement : String)
    (schema : Schema)
    (declared : List String) :
    Node → Template.Error → Prop where
  | unknown
      {element : Element Node}
      (foreign : element.tag ∉ ["replace", "arg", "wc"]) :
      NodeFault statement schema declared (.element element)
        (.unknownDirective element.tag statement element.position)
  | unreplaced
      {element : Element Node}
      (tag : element.tag = "replace")
      (lacks : Lacks element "with") :
      NodeFault statement schema declared (.element element)
        (.missingAttribute "replace" "with" statement)
  | unnamed
      {element : Element Node}
      (tag : element.tag = "arg")
      (lacks : Lacks element "name") :
      NodeFault statement schema declared (.element element)
        (.missingAttribute "arg" "name" statement)
  | unsampled
      {element : Element Node}
      (tag : element.tag = "arg")
      (named : ¬Lacks element "name")
      (blank : Text.trim element.leadingText = "") :
      NodeFault statement schema declared (.element element)
        (.missingContent "arg" statement)
  | mistyped
      {element : Element Node}
      {hint : String}
      (tag : element.tag = "arg")
      (named : ¬Lacks element "name")
      (sampled : Text.trim element.leadingText ≠ "")
      (typed : element.attribute? "type" = some hint)
      (nonempty : hint ≠ "")
      (foreign : ∀ type : CanonicalType, type.name ≠ hint) :
      NodeFault statement schema declared (.element element)
        (.invalidAttribute "arg" "type" hint
          s!"Unknown canonical type: '{hint}'")
  | redeclared
      {element : Element Node}
      {name : String}
      (tag : element.tag = "arg")
      (named : element.attribute? "name" = some name)
      (nonempty : name ≠ "")
      (sampled : Text.trim element.leadingText ≠ "")
      (typed : TypedSoundly element)
      (taken : name ∈ declared) :
      NodeFault statement schema declared (.element element)
        (.duplicateArgument name statement)
  | tableless
      {element : Element Node}
      (tag : element.tag = "wc")
      (lacks : Lacks element "table") :
      NodeFault statement schema declared (.element element)
        (.missingAttribute "wc" "table" statement)
  | unknownTable
      {element : Element Node}
      {name : String}
      (tag : element.tag = "wc")
      (named : element.attribute? "table" = some name)
      (nonempty : name ≠ "")
      (absent : schema.table? name = none) :
      NodeFault statement schema declared (.element element)
        (.unknownTable name statement)

/-- The name of the argument that a node is to declare, if any. -/
def argumentName? : Node → Option String
  | .text _ => none
  | .element element =>
    if element.tag = "arg" then element.attribute? "name" else none

/-- The names of the arguments that some nodes are to declare. -/
def argumentNames (nodes : List Node) : List String :=
  nodes.filterMap argumentName?

theorem argumentNames_cons (node : Node) (rest : List Node) :
    argumentNames (node :: rest) =
      (argumentName? node).toList ++ argumentNames rest := by
  unfold argumentNames
  cases named : argumentName? node with
  | none => rw [List.filterMap_cons_none named]; rfl
  | some name => rw [List.filterMap_cons_some named]; rfl

namespace Directive

theorem not_lacks_iff {element : Element Node} {name : String} :
    ¬Lacks element name ↔
      ∃ value, element.attribute? name = some value ∧ value ≠ "" := by
  simp [Lacks]

theorem exists_argumentType_iff {element : Element Node} :
    (∃ typeHint, argumentType element = .ok typeHint) ↔
      TypedSoundly element := by
  simp only [argumentType_eq_ok_iff, exists_eq_left', TypedSoundly, Lacks]
  cases element.attribute? "type" with
  | none => simp
  | some hint =>
      by_cases empty : hint = ""
      · simp [empty]
      · simp [empty, @eq_comm _ hint]

theorem kind?_builtin_eq_none_iff {tag : String} :
    Registry.builtin.kind? tag = none ↔ tag ∉ ["replace", "arg", "wc"] := by
  rw [← Option.not_isSome_iff_eq_none, Option.isSome_iff_exists]
  simp [kind?_builtin_eq_some_iff, exists_or]

end Directive

namespace Chain

variable
  {registry : Directive.Registry}
  {scope : Scope}
  {arguments : List Argument}
  {node : Node}

/-- An element is refused because nobody knows its tag, or by its own
directive. -/
theorem configureNode_element_eq_error_iff
    {element : Element Node}
    {error : Template.Error} :
    configureNode registry scope arguments (.element element) = .error error ↔
      (registry.kind? element.tag = none ∧
          error =
            .unknownDirective element.tag scope.statement element.position) ∨
        ∃ kind,
          registry.kind? element.tag = some kind ∧
            Directive.configured kind scope arguments (.element element) =
              .error error := by
  change (kindOf registry scope.statement (.element element) >>= fun kind =>
    Directive.configured kind scope arguments (.element element)) = _ ↔ _
  rw [Result.bind_eq_error_iff, kindOf]
  cases registry.kind? element.tag <;> simp [eq_comm]

theorem configureNode_of_kind
    {element : Element Node}
    {kind : Directive.Kind}
    (known : registry.kind? element.tag = some kind) :
    configureNode registry scope arguments (.element element) =
      Directive.configured kind scope arguments (.element element) := by
  change (kindOf registry scope.statement (.element element) >>= fun kind =>
    Directive.configured kind scope arguments (.element element)) = _
  rw [kindOf, known]
  rfl

/-- An unknown tag is reported with the statement and the position of the
element. -/
theorem configureNode_of_unknown
    {element : Element Node}
    (unknown : registry.kind? element.tag = none) :
    configureNode registry scope arguments (.element element) =
      .error
        (.unknownDirective element.tag scope.statement element.position) :=
  configureNode_element_eq_error_iff.2 (.inl ⟨unknown, rfl⟩)

theorem configureNode_replacement
    {element : Element Node}
    (tag : element.tag = "replace") :
    configureNode .builtin scope arguments (.element element) =
      Directive.configured Directive.replacement scope arguments
        (.element element) :=
  configureNode_of_kind
    (Directive.kind?_builtin_eq_some_iff.2 (.inl ⟨tag, rfl⟩))

theorem configureNode_argument
    {element : Element Node}
    (tag : element.tag = "arg") :
    configureNode .builtin scope arguments (.element element) =
      Directive.configured Directive.argument scope arguments
        (.element element) :=
  configureNode_of_kind
    (Directive.kind?_builtin_eq_some_iff.2 (.inr (.inl ⟨tag, rfl⟩)))

theorem configureNode_wildcard
    {element : Element Node}
    (tag : element.tag = "wc") :
    configureNode .builtin scope arguments (.element element) =
      Directive.configured Directive.wildcard scope arguments
        (.element element) :=
  configureNode_of_kind
    (Directive.kind?_builtin_eq_some_iff.2 (.inr (.inr ⟨tag, rfl⟩)))

/-- A node is configured exactly if it is acceptable. -/
theorem exists_configureNode_iff :
    (∃ outcome, configureNode .builtin scope arguments node = .ok outcome) ↔
      Acceptable scope.schema (arguments.map (·.name)) node := by
  cases node with
  | text content =>
      simp only [configureNode_text_eq_ok_iff, exists_eq, true_iff]
      exact .text content
  | element element =>
      constructor
      · rintro ⟨_, configured⟩
        obtain ⟨kind, known, configured⟩ :=
          configureNode_element_eq_ok_iff.1 configured
        rcases Directive.kind?_builtin_eq_some_iff.1 known with
          ⟨tag, rfl⟩ | ⟨tag, rfl⟩ | ⟨tag, rfl⟩
        · obtain ⟨_, read, -⟩ :=
            Directive.configured_replacement_eq_ok_iff.1 configured
          obtain ⟨given, -⟩ := Directive.replacementTexts_eq_ok_iff.1 read
          exact .replacement tag (Directive.not_lacks_iff.2 ⟨_, given⟩)
        · obtain ⟨found, read, new, -⟩ :=
            Directive.configured_argument_eq_ok_iff.1 configured
          obtain ⟨⟨named, nonempty⟩, sampled, -, typed⟩ :=
            Directive.argumentOf_eq_ok_iff.1 read
          exact .argument tag named nonempty sampled
            (Directive.exists_argumentType_iff.1
              ⟨_, Directive.argumentType_eq_ok_iff.2 typed⟩) new
        · obtain ⟨_, read, -⟩ :=
            Directive.configured_wildcard_eq_ok_iff.1 configured
          obtain ⟨_, _, ⟨named, nonempty⟩, found, -⟩ :=
            Directive.wildcardText_eq_ok_iff.1 read
          exact .wildcard tag named nonempty found
      · intro acceptable
        cases acceptable with
        | replacement tag given =>
            obtain ⟨final, given⟩ := Directive.not_lacks_iff.1 given
            rw [configureNode_replacement tag]
            exact ⟨_, Directive.configured_replacement_eq_ok_iff.2
              ⟨(final, _), Directive.replacementTexts_eq_ok_iff.2
                ⟨given, rfl⟩, rfl⟩⟩
        | @argument _ name tag named nonempty sampled typed new =>
            obtain ⟨typeHint, typed⟩ :=
              Directive.exists_argumentType_iff.2 typed
            rw [configureNode_argument tag]
            exact ⟨_, Directive.configured_argument_eq_ok_iff.2
              ⟨⟨name, typeHint, _⟩, Directive.argumentOf_eq_ok_iff.2
                ⟨⟨named, nonempty⟩, sampled, rfl,
                  Directive.argumentType_eq_ok_iff.1 typed⟩, new, rfl⟩⟩
        | wildcard tag named nonempty found =>
            rw [configureNode_wildcard tag]
            exact ⟨_, Directive.configured_wildcard_eq_ok_iff.2
              ⟨_, Directive.wildcardText_eq_ok_iff.2
                ⟨_, _, ⟨named, nonempty⟩, found, rfl⟩, rfl⟩⟩

/-- A configured node declares the argument that it names. -/
theorem names_of_configureNode
    {outcome : Directive × List Argument}
    (configured :
      configureNode .builtin scope arguments node = .ok outcome) :
    outcome.2.map (·.name) =
      arguments.map (·.name) ++ (argumentName? node).toList := by
  cases node with
  | text content =>
      obtain rfl := configureNode_text_eq_ok_iff.1 configured
      simp [argumentName?]
  | element element =>
      obtain ⟨kind, known, configured⟩ :=
        configureNode_element_eq_ok_iff.1 configured
      rcases Directive.kind?_builtin_eq_some_iff.1 known with
        ⟨tag, rfl⟩ | ⟨tag, rfl⟩ | ⟨tag, rfl⟩
      · obtain ⟨_, -, rfl⟩ :=
          Directive.configured_replacement_eq_ok_iff.1 configured
        simp [argumentName?, tag]
      · obtain ⟨found, read, -, rfl⟩ :=
          Directive.configured_argument_eq_ok_iff.1 configured
        obtain ⟨⟨named, -⟩, -⟩ := Directive.argumentOf_eq_ok_iff.1 read
        simp [argumentName?, tag, named]
      · obtain ⟨_, -, rfl⟩ :=
          Directive.configured_wildcard_eq_ok_iff.1 configured
        simp [argumentName?, tag]

/-- A node is refused for the first thing that is wrong with it. -/
theorem configureNode_eq_error_iff {error : Template.Error} :
    configureNode .builtin scope arguments node = .error error ↔
      NodeFault scope.statement scope.schema (arguments.map (·.name)) node
        error := by
  cases node with
  | text content =>
      constructor
      · rintro ⟨⟩
      · rintro ⟨⟩
  | element element =>
      constructor
      · intro failed
        rcases configureNode_element_eq_error_iff.1 failed with
          ⟨unknown, rfl⟩ | ⟨kind, known, failed⟩
        · exact .unknown (Directive.kind?_builtin_eq_none_iff.1 unknown)
        rcases Directive.kind?_builtin_eq_some_iff.1 known with
          ⟨tag, rfl⟩ | ⟨tag, rfl⟩ | ⟨tag, rfl⟩
        · obtain ⟨lacks, rfl⟩ := Directive.replacementTexts_eq_error_iff.1
            (Directive.configured_replacement_eq_error_iff.1 failed)
          rw [tag]
          exact .unreplaced tag lacks
        · rcases Directive.configured_argument_eq_error_iff.1 failed with
            unread | ⟨found, read, taken, rfl⟩
          · rcases Directive.argumentOf_eq_error_iff.1 unread with
              ⟨lacks, rfl⟩ | ⟨_, given, ⟨blank, rfl⟩ | ⟨sampled, untyped⟩⟩
            · rw [tag]
              exact .unnamed tag lacks
            · exact .unsampled tag (Directive.not_lacks_iff.2 ⟨_, given⟩) blank
            · obtain ⟨_, ⟨typed, nonempty⟩, foreign, rfl⟩ :=
                Directive.argumentType_eq_error_iff.1 untyped
              exact .mistyped tag (Directive.not_lacks_iff.2 ⟨_, given⟩)
                sampled typed nonempty foreign
          · obtain ⟨⟨named, nonempty⟩, sampled, -, typed⟩ :=
              Directive.argumentOf_eq_ok_iff.1 read
            exact .redeclared tag named nonempty sampled
              (Directive.exists_argumentType_iff.1
                ⟨_, Directive.argumentType_eq_ok_iff.2 typed⟩) taken
        · rcases Directive.wildcardText_eq_error_iff.1
            (Directive.configured_wildcard_eq_error_iff.1 failed) with
            ⟨lacks, rfl⟩ | ⟨_, ⟨named, nonempty⟩, absent, rfl⟩
          · rw [tag]
            exact .tableless tag lacks
          · exact .unknownTable tag named nonempty absent
      · intro fault
        cases fault with
        | unknown foreign =>
            exact configureNode_of_unknown
              (Directive.kind?_builtin_eq_none_iff.2 foreign)
        | unreplaced tag lacks =>
            rw [configureNode_replacement tag,
              Directive.configured_replacement_eq_error_iff,
              Directive.replacementTexts_eq_error_iff, tag]
            exact ⟨lacks, rfl⟩
        | unnamed tag lacks =>
            rw [configureNode_argument tag,
              Directive.configured_argument_eq_error_iff,
              Directive.argumentOf_eq_error_iff, tag]
            exact .inl (.inl ⟨lacks, rfl⟩)
        | unsampled tag named blank =>
            obtain ⟨_, given⟩ := Directive.not_lacks_iff.1 named
            rw [configureNode_argument tag,
              Directive.configured_argument_eq_error_iff,
              Directive.argumentOf_eq_error_iff]
            exact .inl (.inr ⟨_, given, .inl ⟨blank, rfl⟩⟩)
        | mistyped tag named sampled typed nonempty foreign =>
            obtain ⟨_, given⟩ := Directive.not_lacks_iff.1 named
            rw [configureNode_argument tag,
              Directive.configured_argument_eq_error_iff,
              Directive.argumentOf_eq_error_iff,
              Directive.argumentType_eq_error_iff]
            exact .inl (.inr ⟨_, given,
              .inr ⟨sampled, _, ⟨typed, nonempty⟩, foreign, rfl⟩⟩)
        | @redeclared _ name tag named nonempty sampled typed taken =>
            obtain ⟨typeHint, typed⟩ :=
              Directive.exists_argumentType_iff.2 typed
            rw [configureNode_argument tag,
              Directive.configured_argument_eq_error_iff]
            exact .inr ⟨⟨name, typeHint, _⟩, Directive.argumentOf_eq_ok_iff.2
              ⟨⟨named, nonempty⟩, sampled, rfl,
                Directive.argumentType_eq_ok_iff.1 typed⟩, taken, rfl⟩
        | tableless tag lacks =>
            rw [configureNode_wildcard tag,
              Directive.configured_wildcard_eq_error_iff,
              Directive.wildcardText_eq_error_iff, tag]
            exact .inl ⟨lacks, rfl⟩
        | unknownTable tag named nonempty absent =>
            rw [configureNode_wildcard tag,
              Directive.configured_wildcard_eq_error_iff,
              Directive.wildcardText_eq_error_iff]
            exact .inr ⟨_, ⟨named, nonempty⟩, absent, rfl⟩

end Chain

/-! ## Statements -/

/-- All nodes are acceptable, each behind the ones before it. -/
def AllAcceptable
    (schema : Schema)
    (declared : List String)
    (nodes : List Node) :
    Prop :=
  ∀ before node after,
    nodes = before ++ node :: after →
      Acceptable schema (declared ++ argumentNames before) node

/-- Something is wrong with a node, and all nodes before it are acceptable. -/
def FirstFault
    (statement : String)
    (schema : Schema)
    (declared : List String)
    (nodes : List Node)
    (error : Template.Error) :
    Prop :=
  ∃ before node after,
    nodes = before ++ node :: after ∧
      AllAcceptable schema declared before ∧
      NodeFault statement schema (declared ++ argumentNames before) node error

section Nodes

variable
  {schema : Schema}
  {statement : String}
  {declared : List String}
  {node : Node}
  {rest : List Node}
  {error : Template.Error}

theorem allAcceptable_nil : AllAcceptable schema declared [] := by
  intro before node after split
  simp at split

/-- The nodes behind a first one see its argument among those that are
declared. -/
theorem allAcceptable_cons :
    AllAcceptable schema declared (node :: rest) ↔
      Acceptable schema declared node ∧
        AllAcceptable schema (declared ++ (argumentName? node).toList) rest := by
  constructor
  · intro all
    constructor
    · simpa [argumentNames] using all [] node rest rfl
    · intro before other after split
      have acceptable := all (node :: before) other after (by rw [split]; rfl)
      rwa [argumentNames_cons, ← List.append_assoc] at acceptable
  · rintro ⟨first, others⟩ before other after split
    cases before with
    | nil =>
        obtain ⟨rfl, rfl⟩ := List.cons.inj split
        simpa [argumentNames] using first
    | cons leading before =>
        obtain ⟨rfl, rfl⟩ := List.cons.inj split
        rw [argumentNames_cons, ← List.append_assoc]
        exact others before other after rfl

theorem not_firstFault_nil :
    ¬FirstFault statement schema declared [] error := by
  rintro ⟨before, node, after, split, -⟩
  simp at split

/-- The first fault is that of the first node, or it lies behind an acceptable
one. -/
theorem firstFault_cons :
    FirstFault statement schema declared (node :: rest) error ↔
      NodeFault statement schema declared node error ∨
        Acceptable schema declared node ∧
          FirstFault statement schema
            (declared ++ (argumentName? node).toList) rest error := by
  rw [FirstFault, Result.exists_split_cons_iff]
  simp only [allAcceptable_cons, argumentNames_cons, ← List.append_assoc]
  constructor
  · rintro (⟨-, fault⟩ | ⟨before, other, after, split, ⟨first, others⟩, fault⟩)
    · left
      simpa [argumentNames] using fault
    · exact .inr ⟨first, before, other, after, split, others, fault⟩
  · rintro (fault | ⟨first, before, other, after, split, others, fault⟩)
    · refine .inl ⟨allAcceptable_nil, ?_⟩
      simpa [argumentNames] using fault
    · exact .inr ⟨before, other, after, split, ⟨first, others⟩, fault⟩

end Nodes

namespace Chain

variable
  {registry : Directive.Registry}
  {scope : Scope}
  {arguments : List Argument}
  {nodes : List Node}

/-- Nodes are configured one after the other, and each sees the arguments of
those before it. -/
theorem configureNodes_cons (node : Node) (rest : List Node) :
    configureNodes registry scope arguments (node :: rest) =
      configureNode registry scope arguments node >>= fun first =>
        configureNodes registry scope first.2 rest >>= fun others =>
          .ok (first.1 :: others.1, others.2) :=
  rfl

/-- All nodes are configured exactly if all are acceptable where they stand. -/
theorem exists_configureNodes_iff :
    (∃ outcome, configureNodes .builtin scope arguments nodes = .ok outcome) ↔
      AllAcceptable scope.schema (arguments.map (·.name)) nodes := by
  induction nodes generalizing arguments with
  | nil => exact iff_of_true ⟨_, rfl⟩ allAcceptable_nil
  | cons node rest inductionHypothesis =>
      rw [allAcceptable_cons, ← exists_configureNode_iff]
      simp only [configureNodes_cons, Result.bind_eq_ok_iff, Except.ok.injEq]
      constructor
      · rintro ⟨_, first, configured, others, remaining, -⟩
        rw [← names_of_configureNode configured, ← inductionHypothesis]
        exact ⟨⟨first, configured⟩, ⟨others, remaining⟩⟩
      · rintro ⟨⟨first, configured⟩, acceptable⟩
        rw [← names_of_configureNode configured, ← inductionHypothesis]
          at acceptable
        obtain ⟨others, remaining⟩ := acceptable
        exact ⟨_, first, configured, others, remaining, rfl⟩

/-- The nodes are refused for their first fault. -/
theorem configureNodes_eq_error_iff {error : Template.Error} :
    configureNodes .builtin scope arguments nodes = .error error ↔
      FirstFault scope.statement scope.schema (arguments.map (·.name)) nodes
        error := by
  induction nodes generalizing arguments with
  | nil => exact iff_of_false nofun not_firstFault_nil
  | cons node rest inductionHypothesis =>
      rw [firstFault_cons, ← configureNode_eq_error_iff,
        ← exists_configureNode_iff]
      simp only [configureNodes_cons, Result.bind_eq_error_iff, reduceCtorEq,
        and_false, exists_false, or_false]
      apply or_congr_right
      constructor
      · rintro ⟨first, configured, failed⟩
        -- The rest knows the names that the first node has left behind.
        rw [← names_of_configureNode configured, ← inductionHypothesis]
        exact ⟨⟨first, configured⟩, failed⟩
      · rintro ⟨⟨first, configured⟩, fault⟩
        rw [← names_of_configureNode configured, ← inductionHypothesis]
          at fault
        exact ⟨first, configured, fault⟩

variable {schema : Schema} {dialect : Dialect} {statement : Template.Statement}

/-- To build a statement is to configure its nodes, starting without
arguments. -/
theorem build_eq :
    build registry schema dialect statement =
      configureNodes registry ⟨statement.name, schema, dialect⟩ []
          statement.nodes >>= fun configured =>
        .ok
          { name := statement.name
            hints := statement.hints
            position := statement.position
            directives := configured.1
            arguments := configured.2 } :=
  rfl

/-- A statement is built exactly if all of its nodes are acceptable. -/
theorem exists_build_iff :
    (∃ chain, build .builtin schema dialect statement = .ok chain) ↔
      AllAcceptable schema [] statement.nodes := by
  have configured :=
    @exists_configureNodes_iff ⟨statement.name, schema, dialect⟩ []
      statement.nodes
  simp only [build_eq, Result.bind_eq_ok_iff, Except.ok.injEq]
  rw [exists_comm]
  simpa using configured

theorem build_eq_error_iff {error : Template.Error} :
    build .builtin schema dialect statement = .error error ↔
      FirstFault statement.name schema [] statement.nodes error := by
  rw [build_eq, Result.bind_eq_error_iff, configureNodes_eq_error_iff]
  simp

/-! ## Documents -/

/-- Which documents the built-in directives accept, and what they report of
the others. -/
structure AcceptsDocuments (schema : Schema) (dialect : Dialect) : Prop where
  /-- The form of the whole document is checked first. -/
  malformed
      {text : String}
      {error : Template.Error}
      (unread : Template.parseDocument text = .error error) :
    buildDocument .builtin schema dialect text = .error error
  ok_iff
      {text : String}
      {statements : List Template.Statement}
      (read : Template.parseDocument text = .ok statements) :
    (∃ chains, buildDocument .builtin schema dialect text = .ok chains) ↔
      ∀ statement ∈ statements, AllAcceptable schema [] statement.nodes
  /-- The first node that is not acceptable decides the error. -/
  error_iff
      {text : String}
      {statements : List Template.Statement}
      (read : Template.parseDocument text = .ok statements)
      {error : Template.Error} :
    buildDocument .builtin schema dialect text = .error error ↔
      ∃ earlier statement later,
        statements = earlier ++ statement :: later ∧
          (∀ other ∈ earlier, AllAcceptable schema [] other.nodes) ∧
          FirstFault statement.name schema [] statement.nodes error
  /-- An attribute of an element, which is known by its local name, may as well
  be left out as be empty. -/
  emptied_attribute
      (statement : Template.Statement)
      (name : String)
      (before : List Tree)
      (tag : String)
      (attributes : List Attribute)
      (children : List Tree)
      (position : Markup.Position)
      (after : List Tree) :
    build .builtin schema dialect
        { statement with
          nodes :=
            Node.ofTrees
              (before ++
                .element tag (emptied (·.localName == name) attributes)
                  children position :: after) } =
      build .builtin schema dialect
        { statement with
          nodes :=
            Node.ofTrees
              (before ++
                .element tag (dropped (·.localName == name) attributes)
                  children position :: after) }
  /-- So may the name of a statement. -/
  emptied_name
      (root : String)
      (rootAttributes : List Attribute)
      (rootPosition : Markup.Position)
      (before : List Tree)
      (tag : String)
      (attributes : List Attribute)
      (children : List Tree)
      (position : Markup.Position)
      (after : List Tree) :
    Template.statementsOfTree
        (.element root rootAttributes
          (before ++
            .element tag (emptied Template.namesStatement attributes) children
              position :: after)
          rootPosition) =
      Template.statementsOfTree
        (.element root rootAttributes
          (before ++
            .element tag (dropped Template.namesStatement attributes) children
              position :: after)
          rootPosition)

/-- A statement without a name is reported before a directive of an earlier
statement. -/
example :
    Result.failure?
        (buildDocument .builtin Fixture.schema .mySql
          "<s><q name=\"A\"><zap/></q><q/></s>") =
      some (.missingStatementName ⟨1, 26⟩) := by
  decide +kernel

end Chain
end TypedSql
