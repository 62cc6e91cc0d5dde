import TypedSql.Proofs.Directive.Builtin

/-!
# Attempts to configure a directive

A directive of a built-in kind can be configured from any node, also if it has
been configured before.  An attempt is refused, and then nothing has changed,
or the directive gets new texts.  An argument is declared after that, so when
its name is taken, the attempt fails with the new sample in place.
-/

namespace TypedSql
namespace Directive

open Template (Element Node)

/-! ## Directives of the built-in kinds -/

/-- The kinds of directives that statements are made of. -/
inductive BuiltinKind where
  | literal
  | replacement
  | argument
  | wildcard
  deriving DecidableEq, Repr

/-- How a directive of the kind is made and configured.  Literal text is empty
at first. -/
def BuiltinKind.kind : BuiltinKind → Kind
  | .literal => Directive.literal ""
  | .replacement => Directive.replacement
  | .argument => Directive.argument
  | .wildcard => Directive.wildcard

/-- The directives of a kind, whatever they were configured from. -/
inductive OfKind : BuiltinKind → Directive → Prop where
  | literal (text : String) : OfKind .literal (.ofTexts text text)
  | replacement (final probe : String) :
      OfKind .replacement (.ofTexts final probe)
  | argument (sample : String) :
      OfKind .argument (.ofTexts placeholder sample)
  | wildcard (columns : String) : OfKind .wildcard (.ofTexts columns columns)

theorem ofKind_fresh (builtin : BuiltinKind) :
    OfKind builtin builtin.kind.fresh := by
  cases builtin with
  | literal => exact .literal ""
  | replacement => exact .replacement "" ""
  | argument => exact .argument ""
  | wildcard => exact .wildcard ""

/-- A directive for an argument has the placeholder in the final query. -/
theorem OfKind.final_of_argument
    {directive : Directive}
    (ofKind : OfKind .argument directive) :
    directive.final = .ok placeholder := by
  cases ofKind with
  | argument sample => rfl

/-! ## Described arguments -/

/-- A node is an element that says everything about an argument: its name, its
sample, and possibly its type, which has to be a canonical one. -/
inductive Describes : Node → Argument → Prop where
  | element
      {element : Element Node}
      {argument : Argument}
      (named : element.attribute? "name" = some argument.name)
      (nonempty : argument.name ≠ "")
      (sampled : Text.trim element.leadingText = argument.sample)
      (sampleNonempty : argument.sample ≠ "")
      (hinted :
        (element.attribute? "type").filter (· ≠ "") = argument.typeHint)
      (canonical :
        ∀ hint ∈ argument.typeHint, ∃ type : CanonicalType, type.name = hint) :
      Describes (.element element) argument

/-- An argument is read from a node exactly if the node describes it. -/
theorem argumentOf_eq_ok_iff_describes
    {scope : Scope}
    {node : Node}
    {argument : Argument} :
    argumentOf scope node = .ok argument ↔ Describes node argument := by
  cases node with
  | text content =>
      constructor
      · rintro ⟨⟩
      · rintro ⟨⟩
  | element element =>
      rw [argumentOf_eq_ok_iff]
      constructor
      · rintro ⟨⟨named, nonempty⟩, sampleNonempty, sampled, hinted, canonical⟩
        exact .element named nonempty sampled.symm (sampled ▸ sampleNonempty)
          hinted canonical
      · rintro ⟨named, nonempty, sampled, sampleNonempty, hinted, canonical⟩
        exact ⟨⟨named, nonempty⟩, sampled ▸ sampleNonempty, sampled.symm,
          hinted, canonical⟩

theorem Describes.unique
    {node : Node}
    {first second : Argument}
    (describesFirst : Describes node first)
    (describesSecond : Describes node second) :
    first = second := by
  let scope : Scope := ⟨"", .ofTables [], .mySql⟩
  have readFirst : argumentOf scope node = .ok first :=
    argumentOf_eq_ok_iff_describes.2 describesFirst
  have readSecond : argumentOf scope node = .ok second :=
    argumentOf_eq_ok_iff_describes.2 describesSecond
  exact Except.ok.inj (readFirst.symm.trans readSecond)

/-! ## Refusals -/

/-- The failure of declaring an argument under a name that is taken. -/
def IsDuplicate (error : Template.Error) : Prop :=
  ∃ name statement, error = .duplicateArgument name statement

section Refusals

variable {scope : Scope} {node : Node}

/-- A text where an element should be is not a duplicate. -/
theorem expectElement_failsWithin {directive : String} :
    Result.FailsWithin (¬IsDuplicate ·)
      (expectElement scope directive node) := by
  cases node with
  | text content =>
      apply Result.failsWithin_error
      rintro ⟨_, _, ⟨⟩⟩
  | element element => exact Result.failsWithin_ok element

theorem requiredAttribute_failsWithin
    {element : Element Node}
    {name : String} :
    Result.FailsWithin (¬IsDuplicate ·)
      (requiredAttribute scope element name) := by
  intro error failed
  obtain ⟨-, rfl⟩ := requiredAttribute_eq_error_iff.1 failed
  rintro ⟨_, _, ⟨⟩⟩

theorem argumentType_failsWithin {element : Element Node} :
    Result.FailsWithin (¬IsDuplicate ·) (argumentType element) := by
  intro error failed
  obtain ⟨_, -, -, rfl⟩ := argumentType_eq_error_iff.1 failed
  rintro ⟨_, _, ⟨⟩⟩

theorem replacementTexts_failsWithin :
    Result.FailsWithin (¬IsDuplicate ·) (replacementTexts scope node) :=
  expectElement_failsWithin.bind fun _ =>
    requiredAttribute_failsWithin.bind fun _ => Result.failsWithin_ok _

/-- An argument is read without a look at those that were declared before. -/
theorem argumentOf_failsWithin :
    Result.FailsWithin (¬IsDuplicate ·) (argumentOf scope node) := by
  refine expectElement_failsWithin.bind fun _ =>
    requiredAttribute_failsWithin.bind fun _ => ?_
  dsimp only
  split
  next =>
    apply Result.failsWithin_error
    rintro ⟨_, _, ⟨⟩⟩
  next =>
    exact argumentType_failsWithin.bind fun _ => Result.failsWithin_ok _

theorem wildcardText_failsWithin :
    Result.FailsWithin (¬IsDuplicate ·) (wildcardText scope node) := by
  refine expectElement_failsWithin.bind fun _ =>
    requiredAttribute_failsWithin.bind fun name => ?_
  cases scope.schema.table? name with
  | none =>
      apply Result.failsWithin_error
      rintro ⟨_, _, ⟨⟩⟩
  | some table => exact Result.failsWithin_ok _

end Refusals

/-! ## One attempt -/

/-- An attempt to configure a directive from a node. -/
structure Attempt where
  builtin : BuiltinKind
  /-- The directive as it is before the attempt. -/
  directive : Directive
  node : Node

namespace Attempt

/-- Make the attempt where some arguments are declared; gives the result, and
what there is afterwards, also after a failure. -/
def run (scope : Scope) (arguments : List Argument) (attempt : Attempt) :
    Except Template.Error Unit × Draft :=
  (attempt.builtin.kind.configure scope attempt.node).run.run
    ⟨attempt.directive, arguments⟩

/-- What an attempt can come to, and what there is afterwards. -/
inductive ComesTo
    (scope : Scope)
    (arguments : List Argument)
    (attempt : Attempt) :
    Except Template.Error Unit × Draft → Prop where
  /-- The node does not say what is needed. -/
  | refused
      {error : Template.Error}
      (notDuplicate : ¬IsDuplicate error)
      (undescribed :
        attempt.builtin = .argument →
          ∀ argument, ¬Describes attempt.node argument) :
      ComesTo scope arguments attempt
        (.error error, ⟨attempt.directive, arguments⟩)
  /-- The directive is of a kind that declares nothing. -/
  | configured
      {directive : Directive}
      (undeclaring : attempt.builtin ≠ .argument)
      (ofKind : OfKind attempt.builtin directive) :
      ComesTo scope arguments attempt (.ok (), ⟨directive, arguments⟩)
  | declared
      {argument : Argument}
      (declaring : attempt.builtin = .argument)
      (described : Describes attempt.node argument)
      (new : argument.name ∉ arguments.map (·.name)) :
      ComesTo scope arguments attempt
        (.ok (),
          ⟨.ofTexts placeholder argument.sample, arguments ++ [argument]⟩)
  /-- The sample is set, but the name is one that is declared. -/
  | taken
      {argument : Argument}
      (declaring : attempt.builtin = .argument)
      (described : Describes attempt.node argument)
      (taken : argument.name ∈ arguments.map (·.name)) :
      ComesTo scope arguments attempt
        (.error (.duplicateArgument argument.name scope.statement),
          ⟨.ofTexts placeholder argument.sample, arguments⟩)

/-- Every attempt comes to one of the listed ends. -/
theorem comesTo_run
    (scope : Scope)
    (arguments : List Argument)
    (attempt : Attempt) :
    attempt.ComesTo scope arguments (attempt.run scope arguments) := by
  obtain ⟨builtin, directive, node⟩ := attempt
  cases builtin with
  | literal =>
      cases node with
      | text content => exact .configured nofun (.literal content)
      | element element => exact .refused (by rintro ⟨_, _, ⟨⟩⟩) nofun
  | replacement =>
      unfold run
      rw [BuiltinKind.kind, replacement, run_liftM_bind]
      cases read : replacementTexts scope node with
      | error error =>
          exact .refused (replacementTexts_failsWithin error read) nofun
      | ok texts => exact .configured nofun (.replacement texts.1 texts.2)
  | argument =>
      unfold run
      rw [BuiltinKind.kind, argument, run_liftM_bind]
      cases read : argumentOf scope node with
      | error error =>
          refine .refused (argumentOf_failsWithin error read) ?_
          intro _ found described
          rw [argumentOf_eq_ok_iff_describes.2 described] at read
          cases read
      | ok found =>
          have described := argumentOf_eq_ok_iff_describes.1 read
          change ComesTo _ _ _ ((declare scope found).run.run
            ⟨.ofTexts placeholder found.sample, arguments⟩)
          rw [run_declare]
          split
          next isTaken => exact .taken rfl described isTaken
          next new => exact .declared rfl described new
  | wildcard =>
      unfold run
      rw [BuiltinKind.kind, wildcard, run_liftM_bind]
      cases read : wildcardText scope node with
      | error error =>
          exact .refused (wildcardText_failsWithin error read) nofun
      | ok columns => exact .configured nofun (.wildcard columns)

/-- A directive stays one of its kind, whether the attempt fails or not. -/
theorem ofKind_run
    (scope : Scope)
    (arguments : List Argument)
    {attempt : Attempt}
    (ofKind : OfKind attempt.builtin attempt.directive) :
    OfKind attempt.builtin (attempt.run scope arguments).2.directive := by
  have comes := attempt.comesTo_run scope arguments
  generalize attempt.run scope arguments = outcome at comes ⊢
  cases comes with
  | refused => exact ofKind
  | configured _ stillOfKind => exact stillOfKind
  | @declared argument declaring =>
      rw [declaring]
      exact .argument argument.sample
  | @taken argument declaring =>
      rw [declaring]
      exact .argument argument.sample

variable {scope : Scope} {arguments : List Argument}

/-- An attempt for an argument, of which everything is said, only depends on
whether the name is taken. -/
theorem run_of_describes
    (attempt : Attempt)
    (declaring : attempt.builtin = .argument)
    {argument : Argument}
    (described : Describes attempt.node argument) :
    attempt.run scope arguments =
      if argument.name ∈ arguments.map (·.name) then
        (.error (.duplicateArgument argument.name scope.statement),
          ⟨.ofTexts placeholder argument.sample, arguments⟩)
      else
        (.ok (),
          ⟨.ofTexts placeholder argument.sample, arguments ++ [argument]⟩) := by
  have comes := attempt.comesTo_run scope arguments
  generalize attempt.run scope arguments = outcome at comes ⊢
  cases comes with
  | refused _ undescribed => exact absurd described (undescribed declaring _)
  | configured undeclaring => exact absurd declaring undeclaring
  | declared _ alsoDescribed new =>
      obtain rfl := described.unique alsoDescribed
      rw [if_neg new]
  | taken _ alsoDescribed taken =>
      obtain rfl := described.unique alsoDescribed
      rw [if_pos taken]

/-- A failed attempt declares nothing. -/
theorem arguments_of_run_eq_error
    {attempt : Attempt}
    {error : Template.Error}
    {after : Draft}
    (failed : attempt.run scope arguments = (.error error, after)) :
    after.arguments = arguments := by
  have comes := attempt.comesTo_run scope arguments
  rw [failed] at comes
  cases comes with
  | refused => rfl
  | taken => rfl

/-- What there is after an attempt that has failed.  Its argument may have been
refused at the very end, and then the new sample stays. -/
structure LeavesBehind
    (attempt : Attempt)
    (error : Template.Error)
    (after : Directive) :
    Prop where
  ofKind : OfKind attempt.builtin after
  final_eq : after.final = attempt.directive.final
  /-- Any other failure leaves the directive as it was. -/
  probe_eq
    (notDuplicate : ¬IsDuplicate error) :
    after.probe = attempt.directive.probe
  probe_of_duplicate
    (name statement : String)
    (duplicate : error = .duplicateArgument name statement) :
    attempt.builtin = .argument ∧
      ∃ argument,
        Describes attempt.node argument ∧
          argument.name = name ∧ after.probe = .ok argument.sample

/-- A failed attempt leaves a directive of a built-in kind as it was, except
that an argument whose name is taken keeps its new sample. -/
theorem leavesBehind_of_run
    {attempt : Attempt}
    (ofKind : OfKind attempt.builtin attempt.directive)
    {error : Template.Error}
    {after : Draft}
    (failed : attempt.run scope arguments = (.error error, after)) :
    attempt.LeavesBehind error after.directive := by
  have comes := attempt.comesTo_run scope arguments
  have stillOfKind := ofKind_run scope arguments ofKind
  rw [failed] at comes stillOfKind
  cases comes with
  | refused notDuplicate =>
      exact
        { ofKind
          final_eq := rfl
          probe_eq := fun _ => rfl
          probe_of_duplicate := fun name statement duplicate =>
            absurd ⟨name, statement, duplicate⟩ notDuplicate }
  | @taken argument declaring described =>
      rw [declaring] at ofKind
      exact
        { ofKind := stillOfKind
          final_eq := ofKind.final_of_argument.symm
          probe_eq := fun notDuplicate => absurd ⟨_, _, rfl⟩ notDuplicate
          probe_of_duplicate := by
            rintro _ _ ⟨⟩
            exact ⟨declaring, argument, described, rfl, rfl⟩ }

/-! ## A name that is taken -/

/-- A statement that looks users up, in a database without tables. -/
def userScope : Scope where
  statement := "lookUp"
  schema := .ofTables []
  dialect := .mySql

/-- The argument that the statement has already. -/
def firstUser : Argument where
  name := "user"
  typeHint := none
  sample := "7"

/-- An attempt to configure a fresh directive for an argument of the same
name. -/
def secondUser : Attempt where
  builtin := .argument
  directive := Directive.argument.fresh
  node :=
    .element
      { tag := "arg"
        attributes := Std.TreeMap.ofList [("name", "user")]
        children := [.text " 8 "]
        position := ⟨1, 1⟩ }

/-- What there is after the attempt. -/
def afterSecondUser : Draft where
  directive := .ofTexts "?" "8"
  arguments := [firstUser]

/-- The name is taken, so the attempt fails, and yet the directive has
changed. -/
theorem run_secondUser :
    secondUser.run userScope [firstUser] =
      (.error (.duplicateArgument "user" "lookUp"), afterSecondUser) := by
  rfl

/-- What is left behind is the sample of the argument that was refused. -/
theorem leavesBehind_secondUser :
    OfKind secondUser.builtin secondUser.directive ∧
      secondUser.run userScope [firstUser] =
        (.error (.duplicateArgument "user" "lookUp"), afterSecondUser) ∧
      secondUser.LeavesBehind (.duplicateArgument "user" "lookUp")
        afterSecondUser.directive :=
  have ofKind := ofKind_fresh .argument
  ⟨ofKind, run_secondUser, leavesBehind_of_run ofKind run_secondUser⟩

/-- The attempt fails, and yet the probe has the new sample afterwards. -/
theorem probe_ne_secondUser :
    secondUser.run userScope [firstUser] =
        (.error (.duplicateArgument "user" "lookUp"), afterSecondUser) ∧
      afterSecondUser.directive.probe ≠ secondUser.directive.probe :=
  ⟨run_secondUser, by decide⟩

end Attempt
end Directive
end TypedSql
