import TypedSql.Proofs.Statement.Acceptance

/-!
# Histories of registrations

Kinds of directives are registered one after the other, each under any number
of tags.  What a tag stands for is decided by the last registration that
mentions it, and a tag is known exactly if some registration does, whether it is
looked up, asked for, or listed.  This holds on top of no directives and on top
of the built-in ones, whose registrations then come first.

A statement is configured from its elements in order, so it is refused at the
first element whose tag no registration mentions, or whose own directive refuses
it.
-/

namespace TypedSql

open Result (IsLast SetBy)
open Template (Element Node)

namespace Directive

/-- A kind of directive, and the tags under which it is to be registered. -/
structure Registration where
  tags : List String
  kind : Kind

namespace Registry

/-! ## What a tag stands for -/

/-- Register kinds of directives, one after the other. -/
def registerAll
    (registry : Registry)
    (history : List Registration) :
    Registry :=
  history.foldl
    (fun registry registration =>
      registry.register registration.tags registration.kind)
    registry

/-- The registrations of the built-in directives. -/
def builtinRegistrations : List Registration :=
  [⟨["replace"], replacement⟩, ⟨["arg"], argument⟩, ⟨["wc"], wildcard⟩]

/-- The built-in directives are registered like all others, only earlier. -/
theorem registerAll_builtin (history : List Registration) :
    builtin.registerAll history =
      empty.registerAll (builtinRegistrations ++ history) :=
  rfl

theorem kind?_empty (tag : String) : empty.kind? tag = none :=
  Std.TreeMap.getElem?_emptyc

/-- A registration decides about the tags that it mentions and no others. -/
theorem kind?_register
    (registry : Registry)
    (tags : List String)
    (kind : Kind)
    (tag : String) :
    (registry.register tags kind).kind? tag =
      if tag ∈ tags then some kind else registry.kind? tag := by
  have inserted :=
    Result.getElem?_foldl_insert id (fun _ => kind) tags registry.kinds tag
  have found : (registry.register tags kind).kind? tag = _ := inserted
  rw [found]
  split
  next mentioned =>
    have present : (tags.reverse.find? (id · == tag)).isSome = true := by
      simpa using mentioned
    obtain ⟨other, foundOther⟩ := Option.isSome_iff_exists.1 present
    rw [foundOther]
    rfl
  next unmentioned =>
    have absent : tags.reverse.find? (id · == tag) = none := by
      rw [List.find?_eq_none]
      rintro other member same
      rw [id, beq_iff_eq] at same
      exact unmentioned (same ▸ List.mem_reverse.1 member)
    rw [absent]
    rfl

/-- What a tag stands for is set by the registrations that mention it. -/
theorem setBy_register (tag : String) :
    SetBy
      (fun registry : Registry => registry.kind? tag)
      (fun registry (registration : Registration) =>
        registry.register registration.tags registration.kind)
      (tag ∈ ·.tags)
      (fun registration found => some registration.kind = found) where
  set := by
    intro registry registration found mentioned
    rw [kind?_register, if_pos mentioned]
  left := by
    intro registry registration unmentioned
    rw [kind?_register, if_neg unmentioned]

/-- A registry knows the tags that some registrations mention, and each of them
by the last registration that does. -/
structure Follows (registry : Registry) (history : List Registration) :
    Prop where
  kind_iff
    (tag : String)
    (kind : Kind) :
    registry.kind? tag = some kind ↔
      ∃ registration,
        IsLast (tag ∈ ·.tags) history registration ∧ registration.kind = kind
  absent_iff
    (tag : String) :
    registry.kind? tag = none ↔
      ∀ registration ∈ history, tag ∉ registration.tags
  contains_iff
    (tag : String) :
    registry.contains tag = true ↔ ∃ kind, registry.kind? tag = some kind
  mem_tags_iff
    (tag : String) :
    tag ∈ registry.tags ↔ ∃ kind, registry.kind? tag = some kind
  ascending : registry.tags.Pairwise (· < ·)
  distinct : registry.tags.Nodup

/-- Starting from nothing, a registry knows what its history mentions. -/
theorem follows_registerAll (history : List Registration) :
    (empty.registerAll history).Follows history where
  kind_iff tag kind := by
    refine (setBy_register tag).foldl_eq_iff.trans ?_
    simp [kind?_empty]
  absent_iff tag := by
    refine (setBy_register tag).foldl_eq_iff.trans ?_
    simp [kind?_empty]
  contains_iff tag := by
    rw [contains, Std.TreeMap.contains_eq_isSome_getElem?,
      Option.isSome_iff_exists]
    rfl
  mem_tags_iff tag := Result.mem_keys_iff_exists
  ascending := Result.ascending_keys _
  distinct := (Result.ascending_keys _).imp String.ne_of_lt

/-- A later registration takes the place of a built-in directive. -/
example :
    ((builtin.registerAll
        [⟨["replace", "raw"], literal "overridden"⟩]).kind? "replace").map
        (·.fresh.final.toOption) =
      some (some "overridden") := by
  rfl

end Registry

/-! ## Kinds that leave the report to the lookup -/

/-- No directive of a kind reports an unknown directive itself. -/
def Kind.ReportsNoUnknown (kind : Kind) : Prop :=
  ∀ scope arguments element tag statement position,
    configured kind scope arguments (.element element) ≠
      .error (.unknownDirective tag statement position)

/-- The built-in directives complain of attributes, contents, tables and
duplicates only. -/
theorem reportsNoUnknown_of_mem_builtin
    {registration : Registration}
    (member : registration ∈ Registry.builtinRegistrations) :
    registration.kind.ReportsNoUnknown := by
  intro scope arguments element tag statement position failed
  simp only [Registry.builtinRegistrations, List.mem_cons, List.not_mem_nil,
    or_false] at member
  rcases member with rfl | rfl | rfl
  · rw [configured_replacement_eq_error_iff,
      replacementTexts_eq_error_iff] at failed
    simp at failed
  · rw [configured_argument_eq_error_iff, argumentOf_eq_error_iff] at failed
    simp [argumentType_eq_error_iff] at failed
  · rw [configured_wildcard_eq_error_iff, wildcardText_eq_error_iff] at failed
    simp at failed

end Directive

namespace Chain

open Directive (Registration Registry)

variable
  {registry : Registry}
  {history : List Registration}
  {scope : Directive.Scope}
  {arguments : List Argument}
  {nodes : List Node}
  {error : Template.Error}

/-! ## The first element that is refused -/

/-- Why the directive of an element is not configured behind others that have
declared some arguments: no registration mentions the tag, or the directive is
one of the last kind that was registered under it, and refuses the element. -/
inductive ElementFault
    (history : List Registration)
    (scope : Directive.Scope)
    (arguments : List Argument)
    (element : Element Node) :
    Template.Error → Prop where
  | unknown
      (unmentioned : ∀ registration ∈ history,
        element.tag ∉ registration.tags) :
      ElementFault history scope arguments element
        (.unknownDirective element.tag scope.statement element.position)
  | refused
      {registration : Registration}
      (last : IsLast (element.tag ∈ ·.tags) history registration)
      {error : Template.Error}
      (refused :
        Directive.configured registration.kind scope arguments
            (.element element) =
          .error error) :
      ElementFault history scope arguments element error

/-- All nodes before an element are configured, and have declared some
arguments. -/
def Reaches
    (registry : Registry)
    (scope : Directive.Scope)
    (nodes : List Node)
    (element : Element Node)
    (arguments : List Argument) :
    Prop :=
  ∃ before after directives,
    nodes = before ++ .element element :: after ∧
      configureNodes registry scope [] before = .ok (directives, arguments)

/-- A text is never refused, and an element is refused for its own fault. -/
theorem configureNode_eq_error_iff_elementFault
    (follows : registry.Follows history)
    {node : Node} :
    configureNode registry scope arguments node = .error error ↔
      ∃ element, node = .element element ∧
        ElementFault history scope arguments element error := by
  cases node with
  | text content =>
      rw [configureNode_text_eq_ok_iff.2 rfl]
      simp
  | element element =>
      rw [configureNode_element_eq_error_iff, follows.absent_iff]
      simp only [follows.kind_iff, Node.element.injEq, exists_eq_left']
      constructor
      · rintro (⟨unmentioned, rfl⟩ | ⟨_, ⟨_, last, rfl⟩, refused⟩)
        · exact .unknown unmentioned
        · exact .refused last refused
      · rintro (unmentioned | ⟨last, refused⟩)
        · exact .inl ⟨unmentioned, rfl⟩
        · exact .inr ⟨_, ⟨_, last, rfl⟩, refused⟩

/-- The first node that cannot be configured decides the error. -/
theorem configureNodes_eq_error_iff_exists :
    configureNodes registry scope arguments nodes = .error error ↔
      ∃ before node after,
        nodes = before ++ node :: after ∧
          ∃ outcome,
            configureNodes registry scope arguments before = .ok outcome ∧
              configureNode registry scope outcome.2 node = .error error := by
  induction nodes generalizing arguments with
  | nil =>
      constructor
      · rintro ⟨⟩
      · rintro ⟨before, node, after, split, -⟩
        simp at split
  | cons first rest inductionHypothesis =>
      rw [Result.exists_split_cons_iff]
      simp only [configureNodes_cons, Result.bind_eq_error_iff,
        Result.bind_eq_ok_iff, inductionHypothesis]
      constructor
      · rintro (failed | ⟨head, configured,
          ⟨before, node, after, split, outcome, others, failed⟩ |
            ⟨_, _, ⟨⟩⟩⟩)
        · exact .inl ⟨([], arguments), rfl, failed⟩
        · exact .inr ⟨before, node, after, split, _,
            ⟨head, configured, outcome, others, rfl⟩, failed⟩
      · rintro (⟨_, ⟨⟩, failed⟩ | ⟨before, node, after, split, _,
          ⟨head, configured, outcome, others, ⟨⟩⟩, failed⟩)
        · exact .inl failed
        · exact .inr ⟨head, configured,
            .inl ⟨before, node, after, split, outcome, others, failed⟩⟩

/-- A statement is refused for the first element that is at fault. -/
theorem build_eq_error_iff_elementFault
    (follows : registry.Follows history)
    {schema : Schema}
    {dialect : Dialect}
    {statement : Template.Statement} :
    build registry schema dialect statement = .error error ↔
      ∃ element arguments,
        Reaches registry ⟨statement.name, schema, dialect⟩ statement.nodes
            element arguments ∧
          ElementFault history ⟨statement.name, schema, dialect⟩ arguments
            element error := by
  rw [build_eq, Result.bind_eq_error_iff, configureNodes_eq_error_iff_exists]
  simp only [configureNode_eq_error_iff_elementFault follows]
  constructor
  · rintro (⟨before, _, after, split, ⟨directives, arguments⟩, configured,
      element, rfl, fault⟩ | ⟨_, _, ⟨⟩⟩)
    exact ⟨element, arguments, ⟨before, after, directives, split, configured⟩,
      fault⟩
  · rintro ⟨element, arguments, ⟨before, after, directives, split, configured⟩,
      fault⟩
    exact .inl ⟨before, _, after, split, _, configured, element, rfl, fault⟩

/-- Registrations that were given at first and others that followed decide
which directives a statement may use. -/
structure BuildsBy
    (registry : Registry)
    (given history : List Registration) :
    Prop extends registry.Follows (given ++ history) where
  /-- The lookup reports an element exactly if no registration mentions its
  tag. -/
  lookup_iff
    (statement : String)
    (element : Element Node) :
    kindOf registry statement (.element element) =
        .error (.unknownDirective element.tag statement element.position) ↔
      ∀ registration ∈ given ++ history, element.tag ∉ registration.tags
  /-- A statement is refused for such an element, or for one that its directive
  refuses, if all nodes before it are configured. -/
  error_iff
    (schema : Schema)
    (dialect : Dialect)
    (statement : Template.Statement)
    (error : Template.Error) :
    build registry schema dialect statement = .error error ↔
      ∃ element arguments,
        Reaches registry ⟨statement.name, schema, dialect⟩ statement.nodes
            element arguments ∧
          ElementFault (given ++ history) ⟨statement.name, schema, dialect⟩
            arguments element error
  /-- Unless a kind that followed says so of its own accord, an unknown
  directive is reported for nothing else. -/
  unknown_iff
    (quiet : ∀ registration ∈ history, registration.kind.ReportsNoUnknown)
    (schema : Schema)
    (dialect : Dialect)
    (statement : Template.Statement)
    (tag name : String)
    (position : Markup.Position) :
    build registry schema dialect statement =
        .error (.unknownDirective tag name position) ↔
      ∃ element arguments,
        Reaches registry ⟨statement.name, schema, dialect⟩ statement.nodes
            element arguments ∧
          (∀ registration ∈ given ++ history,
            element.tag ∉ registration.tags) ∧
          tag = element.tag ∧
          name = statement.name ∧
          position = element.position

/-- If a registry follows a history, this history decides which statements are
refused, and which tags are reported as unknown. -/
theorem buildsBy_of_follows
    {given : List Registration}
    (follows : registry.Follows (given ++ history))
    (givenQuiet : ∀ registration ∈ given, registration.kind.ReportsNoUnknown) :
    BuildsBy registry given history where
  toFollows := follows
  lookup_iff statement element := by
    rw [← follows.absent_iff, kindOf]
    cases registry.kind? element.tag <;> simp
  error_iff _ _ _ _ := build_eq_error_iff_elementFault follows
  unknown_iff quiet schema dialect statement tag name position := by
    rw [build_eq_error_iff_elementFault follows]
    apply exists_congr
    intro element
    apply exists_congr
    intro arguments
    apply and_congr_right
    intro _
    constructor
    · rintro (unmentioned | ⟨last, refused⟩)
      · exact ⟨unmentioned, rfl, rfl, rfl⟩
      · rcases List.mem_append.1 last.mem with earlier | later
        · exact absurd refused (givenQuiet _ earlier _ _ _ _ _ _)
        · exact absurd refused (quiet _ later _ _ _ _ _ _)
    · rintro ⟨unmentioned, rfl, rfl, rfl⟩
      exact .unknown unmentioned

/-- Whatever has been registered, on top of nothing or of the built-in
directives, the last registration that mentions a tag decides what it stands
for, and the elements that are reported as unknown are those whose tags no
registration mentions. -/
theorem buildsBy_registerAll (history : List Registration) :
    BuildsBy (Registry.empty.registerAll history) [] history ∧
      BuildsBy (Registry.builtin.registerAll history)
        Registry.builtinRegistrations history := by
  constructor
  · apply buildsBy_of_follows
    · exact Registry.follows_registerAll history
    · exact fun _ absent => absurd absent List.not_mem_nil
  · apply buildsBy_of_follows
    · rw [Registry.registerAll_builtin]
      exact Registry.follows_registerAll _
    · exact fun _ => Directive.reportsNoUnknown_of_mem_builtin

end Chain
end TypedSql
