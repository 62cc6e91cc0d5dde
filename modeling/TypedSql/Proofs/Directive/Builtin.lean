import TypedSql.Directive.Registry
import TypedSql.Proofs.Result

/-!
# Built-in directives

What the built-in directives read from an element, and what is configured from
it: the texts of the directive and the arguments that the statement has after
it.  A configuration succeeds exactly when everything that it needs is there.
-/

namespace TypedSql
namespace Directive

open Template (Element Node)

/-! ## Reading elements -/

section Reading

variable {scope : Scope} {element : Element Node}

/-- An empty attribute is taken for an absent one. -/
theorem nonemptyAttribute?_eq (element : Element Node) (name : String) :
    element.nonemptyAttribute? name =
      (element.attribute? name).filter (· ≠ "") := by
  unfold Element.nonemptyAttribute?
  congr 1
  funext value
  rw [Bool.eq_iff_iff]
  simp

theorem nonemptyAttribute?_eq_some_iff {name value : String} :
    element.nonemptyAttribute? name = some value ↔
      element.attribute? name = some value ∧ value ≠ "" := by
  rw [nonemptyAttribute?_eq, Option.filter_eq_some_iff, decide_eq_true_iff]

/-- A required attribute is there and is not empty. -/
theorem requiredAttribute_eq_ok_iff {name value : String} :
    requiredAttribute scope element name = .ok value ↔
      element.attribute? name = some value ∧ value ≠ "" := by
  rw [← nonemptyAttribute?_eq_some_iff, requiredAttribute]
  cases element.nonemptyAttribute? name <;> simp

/-- An attribute of an element is absent or empty. -/
def Lacks (element : Element Node) (name : String) : Prop :=
  ∀ value, element.attribute? name = some value → value = ""

theorem lacks_iff {name : String} :
    Lacks element name ↔ element.nonemptyAttribute? name = none := by
  rw [nonemptyAttribute?_eq, Option.filter_eq_none_iff]
  simp [Lacks]

/-- A missing attribute is reported with the tag and the statement. -/
theorem requiredAttribute_eq_error_iff
    {name : String}
    {error : Template.Error} :
    requiredAttribute scope element name = .error error ↔
      Lacks element name ∧
        error = .missingAttribute element.tag name scope.statement := by
  rw [lacks_iff, requiredAttribute]
  cases element.nonemptyAttribute? name <;> simp [eq_comm]

/-- A replacement is written as its attribute says, and probed with its
content. -/
theorem replacementTexts_eq_ok_iff {texts : String × String} :
    replacementTexts scope (.element element) = .ok texts ↔
      (element.attribute? "with" = some texts.1 ∧ texts.1 ≠ "") ∧
        texts.2 = element.leadingText := by
  obtain ⟨final, probe⟩ := texts
  change (requiredAttribute scope element "with" >>= fun final =>
    .ok (final, element.leadingText)) = _ ↔ _
  rw [Result.bind_eq_ok_iff]
  simp only [requiredAttribute_eq_ok_iff, Except.ok.injEq, Prod.mk.injEq]
  constructor
  · rintro ⟨_, given, rfl, rfl⟩
    exact ⟨given, rfl⟩
  · rintro ⟨given, rfl⟩
    exact ⟨final, given, rfl, rfl⟩

/-- The attribute is all that a replacement can lack. -/
theorem replacementTexts_eq_error_iff {error : Template.Error} :
    replacementTexts scope (.element element) = .error error ↔
      Lacks element "with" ∧
        error = .missingAttribute element.tag "with" scope.statement := by
  simp only [replacementTexts, expectElement, Result.bind_eq_error_iff,
    requiredAttribute_eq_error_iff]
  simp [pure, Except.pure]

/-- A type hint may be left out, but if there is one it is the name of a
type. -/
theorem argumentType_eq_ok_iff {typeHint : Option String} :
    argumentType element = .ok typeHint ↔
      (element.attribute? "type").filter (· ≠ "") = typeHint ∧
        ∀ hint ∈ typeHint, ∃ type : CanonicalType, type.name = hint := by
  unfold argumentType
  rw [nonemptyAttribute?_eq]
  cases (element.attribute? "type").filter (· ≠ "") with
  | none =>
      constructor
      · rintro ⟨⟩
        exact ⟨rfl, fun _ absent => by cases absent⟩
      · rintro ⟨rfl, _⟩
        rfl
  | some hint =>
      dsimp only
      rw [CanonicalType.parse]
      cases known : CanonicalType.ofName? hint with
      | none =>
          constructor
          · rintro ⟨⟩
          · rintro ⟨rfl, canonical⟩
            obtain ⟨type, rfl⟩ := canonical hint rfl
            rw [CanonicalType.ofName?_name] at known
            cases known
      | some type =>
          constructor
          · rintro ⟨⟩
            refine ⟨rfl, ?_⟩
            rintro _ ⟨⟩
            exact ⟨type, CanonicalType.name_of_ofName? known⟩
          · rintro ⟨rfl, _⟩
            rfl

/-- A hint that is no name of a type is reported as it is written. -/
theorem argumentType_eq_error_iff {error : Template.Error} :
    argumentType element = .error error ↔
      ∃ hint,
        (element.attribute? "type" = some hint ∧ hint ≠ "") ∧
          (∀ type : CanonicalType, type.name ≠ hint) ∧
          error =
            .invalidAttribute "arg" "type" hint
              s!"Unknown canonical type: '{hint}'" := by
  simp only [← nonemptyAttribute?_eq_some_iff,
    ← CanonicalType.ofName?_eq_none_iff]
  unfold argumentType
  cases element.nonemptyAttribute? "type" with
  | none => simp
  | some hint =>
      simp only [CanonicalType.parse, Option.some.injEq, exists_eq_left']
      cases CanonicalType.ofName? hint with
      | none =>
          simp only [Except.error.injEq, true_and]
          exact eq_comm
      | some type => simp

/-- An argument has a name and, but for blanks around it, a sample; its type may
be left open. -/
theorem argumentOf_eq_ok_iff {found : Argument} :
    argumentOf scope (.element element) = .ok found ↔
      (element.attribute? "name" = some found.name ∧ found.name ≠ "") ∧
        Text.trim element.leadingText ≠ "" ∧
        found.sample = Text.trim element.leadingText ∧
        (element.attribute? "type").filter (· ≠ "") = found.typeHint ∧
        ∀ hint ∈ found.typeHint, ∃ type : CanonicalType, type.name = hint := by
  obtain ⟨name, typeHint, sample⟩ := found
  unfold argumentOf
  simp only [expectElement, Result.bind_eq_ok_iff, requiredAttribute_eq_ok_iff,
    String.isEmpty_iff, Except.ok.injEq, exists_eq_left']
  by_cases blank : Text.trim element.leadingText = ""
  · simp [blank]
  · simp only [if_neg blank, Result.bind_eq_ok_iff, argumentType_eq_ok_iff]
    constructor
    · rintro ⟨_, named, _, typed, ⟨⟩⟩
      exact ⟨named, blank, rfl, typed⟩
    · rintro ⟨named, _, rfl, typed⟩
      exact ⟨name, named, typeHint, typed, rfl⟩

/-- The name is looked at first, then the sample, and the type hint last. -/
theorem argumentOf_eq_error_iff {error : Template.Error} :
    argumentOf scope (.element element) = .error error ↔
      (Lacks element "name" ∧
          error = .missingAttribute element.tag "name" scope.statement) ∨
        ∃ name,
          (element.attribute? "name" = some name ∧ name ≠ "") ∧
            (Text.trim element.leadingText = "" ∧
                error = .missingContent "arg" scope.statement ∨
              Text.trim element.leadingText ≠ "" ∧
                argumentType element = .error error) := by
  simp only [argumentOf, expectElement, Result.bind_eq_error_iff,
    requiredAttribute_eq_error_iff, requiredAttribute_eq_ok_iff,
    String.isEmpty_iff, Except.ok.injEq, exists_eq_left', reduceCtorEq,
    false_or]
  by_cases blank : Text.trim element.leadingText = ""
  · simp [blank, eq_comm]
  · simp [blank, Result.bind_eq_error_iff, pure, Except.pure]

/-- A wildcard stands for the columns of a table that the schema has, under the
other name if there is one. -/
theorem wildcardText_eq_ok_iff {columns : String} :
    wildcardText scope (.element element) = .ok columns ↔
      ∃ name table,
        (element.attribute? "table" = some name ∧ name ≠ "") ∧
          scope.schema.table? name = some table ∧
          columns =
            columnList scope.dialect
              (((element.attribute? "as").filter (· ≠ "")).getD name)
              table := by
  unfold wildcardText
  simp only [expectElement, Result.bind_eq_ok_iff, requiredAttribute_eq_ok_iff,
    nonemptyAttribute?_eq, Except.ok.injEq, exists_eq_left']
  apply exists_congr
  intro name
  cases scope.schema.table? name with
  | none => simp
  | some table => simp [pure, Except.pure, eq_comm]

/-- A wildcard is refused without a table, or with one that the schema does not
have. -/
theorem wildcardText_eq_error_iff {error : Template.Error} :
    wildcardText scope (.element element) = .error error ↔
      (Lacks element "table" ∧
          error = .missingAttribute element.tag "table" scope.statement) ∨
        ∃ name,
          (element.attribute? "table" = some name ∧ name ≠ "") ∧
            scope.schema.table? name = none ∧
            error = .unknownTable name scope.statement := by
  simp only [wildcardText, expectElement, Result.bind_eq_error_iff,
    requiredAttribute_eq_error_iff, requiredAttribute_eq_ok_iff,
    Except.ok.injEq, exists_eq_left', reduceCtorEq, false_or]
  apply or_congr_right
  apply exists_congr
  intro name
  cases scope.schema.table? name with
  | none => simp [eq_comm]
  | some table => simp [pure, Except.pure]

end Reading

/-! ## Configuring one directive -/

/-- What a kind of directive makes of a node: the configured directive and the
arguments that are declared until then. -/
def configured
    (kind : Kind)
    (scope : Scope)
    (arguments : List Argument)
    (node : Node) :
    Except Template.Error (Directive × List Argument) :=
  match (kind.configure scope node).run.run ⟨kind.fresh, arguments⟩ with
  | (.ok (), draft) => pure (draft.directive, draft.arguments)
  | (.error error, _) => .error error

section Configuring

variable
  {scope : Scope}
  {arguments : List Argument}
  {node : Node}
  {outcome : Directive × List Argument}

/-- A failure that is raised before the draft is touched leaves it as it was. -/
theorem run_liftM_bind
    {α β : Type}
    (result : Except Template.Error α)
    (next : α → Configuration β)
    (draft : Draft) :
    (liftM result >>= next : Configuration β).run.run draft =
      match result with
      | .ok value => (next value).run.run draft
      | .error error => (.error error, draft) := by
  cases result <;> rfl

/-- An argument is declared behind all others, unless its name is taken. -/
theorem run_declare (scope : Scope) (argument : Argument) (draft : Draft) :
    (declare scope argument).run.run draft =
      if argument.name ∈ draft.arguments.map (·.name) then
        (.error (.duplicateArgument argument.name scope.statement), draft)
      else
        (.ok (),
          { draft with arguments := draft.arguments ++ [argument] }) := by
  have taken :
      draft.arguments.any (·.name == argument.name) = true ↔
        argument.name ∈ draft.arguments.map (·.name) := by
    simp
  change (if draft.arguments.any (·.name == argument.name) = true then
    (throw _ : Configuration Unit) else set _).run.run draft = _
  simp only [taken]
  split <;> rfl

/-- A replacement declares no argument. -/
theorem configured_replacement :
    configured replacement scope arguments node =
      replacementTexts scope node >>= fun texts =>
        .ok (.ofTexts texts.1 texts.2, arguments) := by
  unfold configured replacement
  rw [run_liftM_bind]
  cases replacementTexts scope node <;> rfl

/-- Nor does a wildcard, which is written and probed in the same way. -/
theorem configured_wildcard :
    configured wildcard scope arguments node =
      wildcardText scope node >>= fun columns =>
        .ok (.ofTexts columns columns, arguments) := by
  unfold configured wildcard
  rw [run_liftM_bind]
  cases wildcardText scope node <;> rfl

/-- An argument is written as a placeholder, probed with its sample, and
declared. -/
theorem configured_argument :
    configured argument scope arguments node =
      argumentOf scope node >>= fun found =>
        if found.name ∈ arguments.map (·.name) then
          .error (.duplicateArgument found.name scope.statement)
        else
          .ok (.ofTexts placeholder found.sample, arguments ++ [found]) := by
  unfold configured argument
  rw [run_liftM_bind]
  cases argumentOf scope node with
  | error error => rfl
  | ok found =>
      have declared := run_declare scope found
        ⟨.ofTexts placeholder found.sample, arguments⟩
      change (match (declare scope found).run.run
          ⟨.ofTexts placeholder found.sample, arguments⟩ with
        | (.ok (), draft) => Except.ok (draft.directive, draft.arguments)
        | (.error error, _) => .error error) = _
      rw [declared]
      by_cases taken : found.name ∈ arguments.map (·.name)
      · simp only [if_pos taken]
        exact (if_pos taken).symm
      · simp only [if_neg taken]
        exact (if_neg taken).symm

theorem configured_replacement_eq_ok_iff :
    configured replacement scope arguments node = .ok outcome ↔
      ∃ texts,
        replacementTexts scope node = .ok texts ∧
          outcome = (.ofTexts texts.1 texts.2, arguments) := by
  simp only [configured_replacement, Result.bind_eq_ok_iff, Except.ok.injEq,
    @eq_comm _ outcome]

theorem configured_replacement_eq_error_iff {error : Template.Error} :
    configured replacement scope arguments node = .error error ↔
      replacementTexts scope node = .error error := by
  simp [configured_replacement, Result.bind_eq_error_iff]

theorem configured_wildcard_eq_ok_iff :
    configured wildcard scope arguments node = .ok outcome ↔
      ∃ columns,
        wildcardText scope node = .ok columns ∧
          outcome = (.ofTexts columns columns, arguments) := by
  simp only [configured_wildcard, Result.bind_eq_ok_iff, Except.ok.injEq,
    @eq_comm _ outcome]

theorem configured_wildcard_eq_error_iff {error : Template.Error} :
    configured wildcard scope arguments node = .error error ↔
      wildcardText scope node = .error error := by
  simp [configured_wildcard, Result.bind_eq_error_iff]

theorem configured_argument_eq_ok_iff :
    configured argument scope arguments node = .ok outcome ↔
      ∃ found,
        argumentOf scope node = .ok found ∧
          found.name ∉ arguments.map (·.name) ∧
          outcome =
            (.ofTexts placeholder found.sample, arguments ++ [found]) := by
  rw [configured_argument, Result.bind_eq_ok_iff]
  apply exists_congr
  intro found
  by_cases taken : found.name ∈ arguments.map (·.name)
  · simp [taken]
  · simp [taken, eq_comm]

/-- That the name is taken is noticed only if nothing else is wrong with the
argument. -/
theorem configured_argument_eq_error_iff {error : Template.Error} :
    configured argument scope arguments node = .error error ↔
      argumentOf scope node = .error error ∨
        ∃ found,
          argumentOf scope node = .ok found ∧
            found.name ∈ arguments.map (·.name) ∧
            error = .duplicateArgument found.name scope.statement := by
  rw [configured_argument, Result.bind_eq_error_iff]
  apply or_congr_right
  apply exists_congr
  intro found
  by_cases taken : found.name ∈ arguments.map (·.name)
  · simp [taken, eq_comm]
  · simp [taken]

end Configuring

/-- There are three kinds of directives from the beginning, each with a tag of
its own. -/
theorem kind?_builtin_eq_some_iff {tag : String} {kind : Kind} :
    Registry.builtin.kind? tag = some kind ↔
      (tag = "replace" ∧ kind = replacement) ∨
        (tag = "arg" ∧ kind = argument) ∨ (tag = "wc" ∧ kind = wildcard) := by
  have found :
      Registry.builtin.kind? tag =
        if "wc" = tag then some wildcard
        else if "arg" = tag then some argument
        else if "replace" = tag then some replacement
        else none := by
    simp only [Registry.builtin, Registry.register, Registry.kind?,
      Registry.empty, List.foldl_cons, List.foldl_nil,
      Std.TreeMap.getElem?_insert, Std.compare_eq_iff_eq,
      Std.TreeMap.getElem?_emptyc]
  rw [found]
  split_ifs with isWildcard isArgument isReplacement
  · subst isWildcard
    simp [eq_comm]
  · subst isArgument
    simp [eq_comm]
  · subst isReplacement
    simp [eq_comm]
  · simp [Ne.symm isWildcard, Ne.symm isArgument, Ne.symm isReplacement]

/-! ## Elements that look the same -/

/-- Elements between which the built-in directives see no difference. -/
structure LooksLike (left right : Element Node) : Prop where
  tag_eq : left.tag = right.tag
  attribute_eq :
    ∀ name, left.nonemptyAttribute? name = right.nonemptyAttribute? name
  text_eq : left.leadingText = right.leadingText

section LooksLike

variable
  {scope : Scope}
  {arguments : List Argument}
  {left right : Element Node}
  (alike : LooksLike left right)

include alike

/-- Elements that look alike have the same required attributes, and lack the
same ones. -/
theorem requiredAttribute_of_looksLike (name : String) :
    requiredAttribute scope left name =
      requiredAttribute scope right name := by
  simp only [requiredAttribute, alike.attribute_eq, alike.tag_eq]

theorem replacementTexts_of_looksLike :
    replacementTexts scope (.element left) =
      replacementTexts scope (.element right) := by
  change (requiredAttribute scope left "with" >>= fun final =>
    pure (final, left.leadingText)) = _
  rw [requiredAttribute_of_looksLike alike, alike.text_eq]
  rfl

theorem argumentOf_of_looksLike :
    argumentOf scope (.element left) = argumentOf scope (.element right) := by
  have typed : argumentType left = argumentType right := by
    rw [argumentType, argumentType, alike.attribute_eq]
  unfold argumentOf
  change (requiredAttribute scope left "name" >>= _) =
    (requiredAttribute scope right "name" >>= _)
  simp only [requiredAttribute_of_looksLike alike, alike.text_eq, typed]

theorem wildcardText_of_looksLike :
    wildcardText scope (.element left) =
      wildcardText scope (.element right) := by
  unfold wildcardText
  change (requiredAttribute scope left "table" >>= _) =
    (requiredAttribute scope right "table" >>= _)
  simp only [requiredAttribute_of_looksLike alike, alike.attribute_eq]

/-- So no directive of the built-in kinds can tell them apart. -/
theorem configured_of_looksLike
    {kind : Kind}
    (known : Registry.builtin.kind? right.tag = some kind) :
    configured kind scope arguments (.element left) =
      configured kind scope arguments (.element right) := by
  rcases kind?_builtin_eq_some_iff.1 known with
    ⟨-, rfl⟩ | ⟨-, rfl⟩ | ⟨-, rfl⟩
  · rw [configured_replacement, configured_replacement,
      replacementTexts_of_looksLike alike]
  · rw [configured_argument, configured_argument,
      argumentOf_of_looksLike alike]
  · rw [configured_wildcard, configured_wildcard,
      wildcardText_of_looksLike alike]

end LooksLike

end Directive
end TypedSql
