import TypedSql.Fixture
import TypedSql.Proofs.Directive.Builtin
import TypedSql.Proofs.Schema
import TypedSql.Statement.Chain

/-!
# The meaning of statements

Every node of a statement stands for a fragment: a piece of the final query,
the piece of the probe that takes its place there, and an argument if the node
declares one.  With the built-in directives, a statement can be configured
exactly when each of its nodes stands for a fragment and the declared names
are distinct, and the chain is then made of these fragments, in order.
-/

namespace TypedSql

open Directive (Scope)
open Template (Element Node)

/-- What a node contributes to its statement. -/
structure Fragment where
  /-- The piece of the final query. -/
  final : String
  /-- The piece of the probe. -/
  probe : String
  /-- The argument that is declared, if any. -/
  argument : Option Argument := none

namespace Fragment

/-- The directive that contributes a fragment. -/
def directive (fragment : Fragment) : Directive :=
  .ofTexts fragment.final fragment.probe

/-- The final query that is made of some fragments. -/
def finalText (fragments : List Fragment) : String :=
  String.join (fragments.map (·.final))

/-- The probe that is made of some fragments. -/
def probeText (fragments : List Fragment) : String :=
  String.join (fragments.map (·.probe))

/-- The arguments that some fragments declare, in order. -/
def declared (fragments : List Fragment) : List Argument :=
  fragments.filterMap (·.argument)

/-- The text of a fragment stands between those of its neighbours. -/
theorem finalText_split (before : List Fragment) (fragment : Fragment)
    (after : List Fragment) :
    finalText (before ++ fragment :: after) =
      finalText before ++ fragment.final ++ finalText after := by
  unfold finalText
  rw [List.map_append, List.map_cons, String.join_append, String.join_cons,
    String.append_assoc]

theorem probeText_split (before : List Fragment) (fragment : Fragment)
    (after : List Fragment) :
    probeText (before ++ fragment :: after) =
      probeText before ++ fragment.probe ++ probeText after := by
  unfold probeText
  rw [List.map_append, List.map_cons, String.join_append, String.join_cons,
    String.append_assoc]

theorem declared_cons (fragment : Fragment) (rest : List Fragment) :
    declared (fragment :: rest) =
      fragment.argument.toList ++ declared rest := by
  unfold declared
  cases declares : fragment.argument with
  | none => rw [List.filterMap_cons_none declares]; rfl
  | some argument => rw [List.filterMap_cons_some declares]; rfl

/-- An argument comes from a fragment behind those of the arguments before
it. -/
theorem exists_split_of_declared
    {fragments : List Fragment}
    {place : Nat}
    {argument : Argument}
    (found : (declared fragments)[place]? = some argument) :
    ∃ before fragment after,
      fragments = before ++ fragment :: after ∧
        (declared before).length = place ∧
        fragment.argument = some argument := by
  induction fragments generalizing place with
  | nil => cases found
  | cons first rest inductionHypothesis =>
      rw [declared_cons] at found
      cases declares : first.argument with
      | none =>
          rw [declares] at found
          obtain ⟨before, fragment, after, rfl, counted, declared⟩ :=
            inductionHypothesis found
          refine ⟨first :: before, fragment, after, rfl, ?_, declared⟩
          rw [declared_cons, declares]
          exact counted
      | some other =>
          rw [declares] at found
          cases place with
          | zero =>
              cases found
              exact ⟨[], first, rest, rfl, rfl, declares⟩
          | succ place =>
              obtain ⟨before, fragment, after, rfl, counted, declared⟩ :=
                inductionHypothesis found
              refine ⟨first :: before, fragment, after, rfl, ?_, declared⟩
              rw [declared_cons, declares]
              exact congrArg Nat.succ counted

end Fragment

/-- A node stands for a fragment.  An attribute that a directive needs has to
be there and must not be empty; the sample of an argument must not be empty
either, and its type, if one is given, has to name a canonical type. -/
inductive Denotes (scope : Scope) : Node → Fragment → Prop where
  | text (content : String) :
      Denotes scope (.text content) { final := content, probe := content }
  | replacement
      {element : Element Node}
      {final : String}
      (tag : element.tag = "replace")
      (given : element.attribute? "with" = some final)
      (nonempty : final ≠ "") :
      Denotes scope (.element element)
        { final, probe := element.leadingText }
  | argument
      {element : Element Node}
      {name : String}
      {typeHint : Option String}
      (tag : element.tag = "arg")
      (named : element.attribute? "name" = some name)
      (nonempty : name ≠ "")
      (sampled : Text.trim element.leadingText ≠ "")
      (hinted : (element.attribute? "type").filter (· ≠ "") = typeHint)
      (canonical : ∀ hint ∈ typeHint, ∃ type : CanonicalType, type.name = hint) :
      Denotes scope (.element element)
        { final := "?"
          probe := Text.trim element.leadingText
          argument :=
            some { name, typeHint, sample := Text.trim element.leadingText } }
  | wildcard
      {element : Element Node}
      {name : String}
      {table : Table}
      (tag : element.tag = "wc")
      (named : element.attribute? "table" = some name)
      (nonempty : name ≠ "")
      (found : scope.schema.table? name = some table)
      {qualifier : String}
      (qualified :
        ((element.attribute? "as").filter (· ≠ "")).getD name = qualifier)
      {columns : String}
      (listed :
        Directive.columnList scope.dialect qualifier table = columns) :
      Denotes scope (.element element) { final := columns, probe := columns }

/-- Only replacements and arguments contribute something else to the probe
than to the final query. -/
theorem Denotes.tag_of_ne
    {scope : Scope}
    {node : Node}
    {fragment : Fragment}
    (denotes : Denotes scope node fragment)
    (differ : fragment.final ≠ fragment.probe) :
    ∃ element,
      node = .element element ∧
        (element.tag = "replace" ∨ element.tag = "arg") := by
  cases denotes with
  | text => exact absurd rfl differ
  | replacement tag => exact ⟨_, rfl, .inl tag⟩
  | argument tag => exact ⟨_, rfl, .inr tag⟩
  | wildcard => exact absurd rfl differ

/-- The elements that declare an argument are those with the tag for it. -/
theorem Denotes.isSome_argument_iff
    {scope : Scope}
    {node : Node}
    {fragment : Fragment}
    (denotes : Denotes scope node fragment) :
    fragment.argument.isSome ↔
      ∃ element, node = .element element ∧ element.tag = "arg" := by
  cases denotes with
  | text => simp
  | replacement tag => simp [tag]
  | argument tag => simp [tag]
  | wildcard tag => simp [tag]

/-- A fragment that declares an argument has a placeholder in the final query
and the argument's sample in the probe. -/
theorem Denotes.eq_of_argument
    {scope : Scope}
    {node : Node}
    {fragment : Fragment}
    (denotes : Denotes scope node fragment)
    {argument : Argument}
    (declares : fragment.argument = some argument) :
    fragment =
      { final := "?", probe := argument.sample, argument := some argument } := by
  cases denotes with
  | text => cases declares
  | replacement => cases declares
  | argument =>
      cases declares
      rfl
  | wildcard => cases declares

namespace Chain

open Directive (configured)

variable
  {registry : Directive.Registry}
  {scope : Scope}
  {arguments : List Argument}
  {outcome : Directive × List Argument}

/-- A text stands for itself and declares nothing. -/
theorem configureNode_text_eq_ok_iff {content : String} :
    configureNode registry scope arguments (.text content) = .ok outcome ↔
      outcome = (.ofTexts content content, arguments) := by
  change Except.ok (Directive.ofTexts content content, arguments) = _ ↔ _
  rw [Except.ok.injEq, eq_comm]

/-- An element is configured by the kind that is registered under its tag. -/
theorem configureNode_element_eq_ok_iff {element : Element Node} :
    configureNode registry scope arguments (.element element) = .ok outcome ↔
      ∃ kind,
        registry.kind? element.tag = some kind ∧
          configured kind scope arguments (.element element) =
            .ok outcome := by
  change (kindOf registry scope.statement (.element element) >>= fun kind =>
    configured kind scope arguments (.element element)) = _ ↔ _
  rw [Result.bind_eq_ok_iff, kindOf]
  cases registry.kind? element.tag <;> simp

theorem nodup_names_singleton_iff
    (distinct : (arguments.map (·.name)).Nodup)
    {argument : Argument} :
    ((arguments ++ [argument]).map (·.name)).Nodup ↔
      argument.name ∉ arguments.map (·.name) := by
  rw [List.map_append, List.map_singleton, List.nodup_append]
  constructor
  · rintro ⟨_, _, apart⟩ taken
    exact apart _ taken _ List.mem_cons_self rfl
  · intro new
    refine ⟨distinct, List.nodup_cons.2 ⟨List.not_mem_nil, List.nodup_nil⟩, ?_⟩
    rintro name taken _ same rfl
    obtain rfl := List.mem_singleton.1 same
    exact new taken

/-- Whatever is configured from a node is a fragment that the node stands
for. -/
theorem denotes_of_configureNode
    (distinct : (arguments.map (·.name)).Nodup)
    {node : Node}
    (configured :
      configureNode .builtin scope arguments node = .ok outcome) :
    ∃ fragment,
      Denotes scope node fragment ∧
        ((arguments ++ fragment.argument.toList).map (·.name)).Nodup ∧
        outcome =
          (fragment.directive, arguments ++ fragment.argument.toList) := by
  have unchanged : arguments ++ (none : Option Argument).toList = arguments :=
    List.append_nil arguments
  cases node with
  | text content =>
      obtain rfl := configureNode_text_eq_ok_iff.1 configured
      refine ⟨_, .text content, ?_⟩
      rw [unchanged]
      exact ⟨distinct, rfl⟩
  | element element =>
      obtain ⟨kind, known, configured⟩ :=
        configureNode_element_eq_ok_iff.1 configured
      rcases Directive.kind?_builtin_eq_some_iff.1 known with
        ⟨tag, rfl⟩ | ⟨tag, rfl⟩ | ⟨tag, rfl⟩
      · obtain ⟨⟨final, probe⟩, read, rfl⟩ :=
          Directive.configured_replacement_eq_ok_iff.1 configured
        obtain ⟨⟨given, nonempty⟩, rfl⟩ :=
          Directive.replacementTexts_eq_ok_iff.1 read
        refine ⟨_, .replacement tag given nonempty, ?_⟩
        rw [unchanged]
        exact ⟨distinct, rfl⟩
      · obtain ⟨⟨name, typeHint, sample⟩, read, new, rfl⟩ :=
          Directive.configured_argument_eq_ok_iff.1 configured
        obtain ⟨⟨named, nonempty⟩, sampled, rfl, hinted, canonical⟩ :=
          Directive.argumentOf_eq_ok_iff.1 read
        exact ⟨_, .argument tag named nonempty sampled hinted canonical,
          (nodup_names_singleton_iff distinct).2 new, rfl⟩
      · obtain ⟨columns, read, rfl⟩ :=
          Directive.configured_wildcard_eq_ok_iff.1 configured
        obtain ⟨name, table, ⟨named, nonempty⟩, found, listed⟩ :=
          Directive.wildcardText_eq_ok_iff.1 read
        refine ⟨_, .wildcard tag named nonempty found rfl listed.symm, ?_⟩
        rw [unchanged]
        exact ⟨distinct, rfl⟩

/-- A node that stands for a fragment is configured as that fragment, if the
name of the argument that is declared is new. -/
theorem configureNode_of_denotes
    {node : Node}
    {fragment : Fragment}
    (denotes : Denotes scope node fragment)
    (distinct :
      ((arguments ++ fragment.argument.toList).map (·.name)).Nodup) :
    configureNode .builtin scope arguments node =
      .ok (fragment.directive, arguments ++ fragment.argument.toList) := by
  have unchanged : arguments ++ (none : Option Argument).toList = arguments :=
    List.append_nil arguments
  cases denotes with
  | text content =>
      rw [configureNode_text_eq_ok_iff, unchanged]
      rfl
  | replacement tag given nonempty =>
      rw [configureNode_element_eq_ok_iff, unchanged]
      exact ⟨_, Directive.kind?_builtin_eq_some_iff.2 (.inl ⟨tag, rfl⟩),
        Directive.configured_replacement_eq_ok_iff.2
          ⟨(_, _), Directive.replacementTexts_eq_ok_iff.2
            ⟨⟨given, nonempty⟩, rfl⟩, rfl⟩⟩
  | argument tag named nonempty sampled hinted canonical =>
      have unextended : (arguments.map (·.name)).Nodup :=
        distinct.sublist ((List.sublist_append_left _ _).map _)
      rw [configureNode_element_eq_ok_iff]
      exact ⟨_, Directive.kind?_builtin_eq_some_iff.2 (.inr (.inl ⟨tag, rfl⟩)),
        Directive.configured_argument_eq_ok_iff.2
          ⟨_, Directive.argumentOf_eq_ok_iff.2
            ⟨⟨named, nonempty⟩, sampled, rfl, hinted, canonical⟩,
            (nodup_names_singleton_iff unextended).1 distinct, rfl⟩⟩
  | wildcard tag named nonempty found qualified listed =>
      subst qualified
      rw [configureNode_element_eq_ok_iff, unchanged]
      exact ⟨_, Directive.kind?_builtin_eq_some_iff.2 (.inr (.inr ⟨tag, rfl⟩)),
        Directive.configured_wildcard_eq_ok_iff.2
          ⟨_, Directive.wildcardText_eq_ok_iff.2
            ⟨_, _, ⟨named, nonempty⟩, found, listed.symm⟩, rfl⟩⟩

/-! ## Whole statements -/

/-- The directives of a statement are configured from nodes that stand for
fragments, if all names of arguments are distinct. -/
theorem configureNodes_eq_ok_iff
    (distinct : (arguments.map (·.name)).Nodup)
    {nodes : List Node}
    {outcome : List Directive × List Argument} :
    configureNodes .builtin scope arguments nodes = .ok outcome ↔
      ∃ fragments,
        List.Forall₂ (Denotes scope) nodes fragments ∧
          ((arguments ++ Fragment.declared fragments).map (·.name)).Nodup ∧
          outcome =
            (fragments.map Fragment.directive,
              arguments ++ Fragment.declared fragments) := by
  induction nodes generalizing arguments outcome with
  | nil =>
      rw [configureNodes, Except.ok.injEq]
      constructor
      · rintro rfl
        refine ⟨[], .nil, ?_⟩
        rw [Fragment.declared, List.filterMap_nil, List.append_nil]
        exact ⟨distinct, rfl⟩
      · rintro ⟨_, ⟨⟩, _, rfl⟩
        rw [Fragment.declared, List.filterMap_nil, List.append_nil]
        rfl
  | cons node rest inductionHypothesis =>
      change (configureNode .builtin scope arguments node >>= fun first =>
        configureNodes .builtin scope first.2 rest >>= fun others =>
          .ok (first.1 :: others.1, others.2)) = _ ↔ _
      simp only [Result.bind_eq_ok_iff, Except.ok.injEq]
      constructor
      · rintro ⟨first, configured, others, configuredRest, rfl⟩
        obtain ⟨fragment, denotes, stillDistinct, rfl⟩ :=
          denotes_of_configureNode distinct configured
        obtain ⟨fragments, denote, allDistinct, rfl⟩ :=
          (inductionHypothesis stillDistinct).1 configuredRest
        refine ⟨fragment :: fragments, .cons denotes denote, ?_⟩
        rw [Fragment.declared_cons, ← List.append_assoc]
        exact ⟨allDistinct, rfl⟩
      · rintro ⟨_, denote, allDistinct, rfl⟩
        cases denote with
        | cons denotes denote =>
            rw [Fragment.declared_cons, ← List.append_assoc] at allDistinct ⊢
            have stillDistinct :=
              allDistinct.sublist ((List.sublist_append_left _ _).map _)
            exact ⟨_, configureNode_of_denotes denotes stillDistinct, _,
              (inductionHypothesis stillDistinct).2
                ⟨_, denote, allDistinct, rfl⟩, rfl⟩

/-- A statement can be configured exactly when its nodes stand for fragments
with distinct names of arguments, and the chain consists of these. -/
theorem build_eq_ok_iff
    {schema : Schema}
    {dialect : Dialect}
    {statement : Template.Statement}
    {chain : Chain} :
    build .builtin schema dialect statement = .ok chain ↔
      ∃ fragments,
        List.Forall₂ (Denotes ⟨statement.name, schema, dialect⟩)
            statement.nodes fragments ∧
          ((Fragment.declared fragments).map (·.name)).Nodup ∧
          chain =
            { name := statement.name
              hints := statement.hints
              position := statement.position
              directives := fragments.map Fragment.directive
              arguments := Fragment.declared fragments } := by
  have noneDeclared : (([] : List Argument).map (·.name)).Nodup :=
    List.nodup_nil
  change (configureNodes .builtin ⟨statement.name, schema, dialect⟩ []
    statement.nodes >>= fun configured => .ok (Chain.mk _ _ _ _ _)) = _ ↔ _
  simp only [Result.bind_eq_ok_iff, configureNodes_eq_ok_iff noneDeclared,
    List.nil_append, Except.ok.injEq]
  constructor
  · rintro ⟨_, ⟨fragments, denote, distinct, rfl⟩, rfl⟩
    exact ⟨fragments, denote, distinct, rfl⟩
  · rintro ⟨fragments, denote, distinct, rfl⟩
    exact ⟨_, ⟨fragments, denote, distinct, rfl⟩, rfl⟩

/-- A chain of fragments is written as the fragments are. -/
theorem final_of_fragments
    {chain : Chain}
    {fragments : List Fragment}
    (made : chain.directives = fragments.map Fragment.directive) :
    chain.final = .ok (Fragment.finalText fragments) := by
  have texts :
      fragments.mapM (fun fragment => fragment.directive.final) =
        .ok (fragments.map (·.final)) :=
    Result.mapM_eq_ok fun _ _ => rfl
  rw [final, made, List.mapM_map]
  exact congrArg (String.join <$> ·) texts

theorem probe_of_fragments
    {chain : Chain}
    {fragments : List Fragment}
    (made : chain.directives = fragments.map Fragment.directive) :
    chain.probe = .ok (Fragment.probeText fragments) := by
  have texts :
      fragments.mapM (fun fragment => fragment.directive.probe) =
        .ok (fragments.map (·.probe)) :=
    Result.mapM_eq_ok fun _ _ => rfl
  rw [probe, made, List.mapM_map]
  exact congrArg (String.join <$> ·) texts

/-- A chain is made of the fragments that the nodes of its statement stand
for. -/
structure MadeOf
    (chain : Chain)
    (scope : Scope)
    (nodes : List Node)
    (fragments : List Fragment) :
    Prop where
  denoted : List.Forall₂ (Denotes scope) nodes fragments
  size_eq : chain.size = nodes.length
  final_eq : chain.final = .ok (String.join (fragments.map (·.final)))
  probe_eq : chain.probe = .ok (String.join (fragments.map (·.probe)))
  arguments_eq : chain.arguments = fragments.filterMap (·.argument)
  distinct : (chain.arguments.map (·.name)).Nodup
  /-- The nodes with arguments are the elements for them. -/
  declares_iff
    (place : Nat)
    (node : Node)
    (fragment : Fragment)
    (written : nodes[place]? = some node)
    (contributed : fragments[place]? = some fragment) :
    fragment.argument.isSome ↔
      ∃ element, node = .element element ∧ element.tag = "arg"
  /-- The final query and the probe differ in nothing but replacements and
  arguments. -/
  tag_of_ne
    (place : Nat)
    (node : Node)
    (fragment : Fragment)
    (written : nodes[place]? = some node)
    (contributed : fragments[place]? = some fragment)
    (differ : fragment.final ≠ fragment.probe) :
    ∃ element,
      node = .element element ∧
        (element.tag = "replace" ∨ element.tag = "arg")
  /-- The sample of an argument stands in the probe where the final query has
  the argument's placeholder. -/
  sampled
    (place : Nat)
    (argument : Argument)
    (declared : chain.arguments[place]? = some argument) :
    ∃ before after,
      fragments = before ++ ⟨"?", argument.sample, some argument⟩ :: after ∧
        (before.filterMap (·.argument)).length = place ∧
        chain.final =
          .ok (Fragment.finalText before ++ "?" ++ Fragment.finalText after) ∧
        chain.probe =
          .ok (Fragment.probeText before ++ argument.sample ++
            Fragment.probeText after)

/-- A chain is made of what the nodes of its statement stand for. -/
theorem madeOf_of_build
    {schema : Schema}
    {dialect : Dialect}
    {statement : Template.Statement}
    {chain : Chain}
    (built : build .builtin schema dialect statement = .ok chain) :
    ∃ fragments,
      chain.MadeOf ⟨statement.name, schema, dialect⟩ statement.nodes
        fragments := by
  obtain ⟨fragments, denoted, distinct, rfl⟩ := build_eq_ok_iff.1 built
  refine ⟨fragments, ?_⟩
  exact
    { denoted
      size_eq := (List.length_map _).trans denoted.length_eq.symm
      final_eq := final_of_fragments rfl
      probe_eq := probe_of_fragments rfl
      arguments_eq := rfl
      distinct
      declares_iff := by
        intro place node fragment written contributed
        exact Denotes.isSome_argument_iff
          (Result.related_of_getElem? denoted written contributed)
      tag_of_ne := by
        intro place node fragment written contributed
        exact Denotes.tag_of_ne
          (Result.related_of_getElem? denoted written contributed)
      sampled := by
        intro place argument declared
        obtain ⟨before, fragment, after, rfl, counted, declares⟩ :=
          Fragment.exists_split_of_declared declared
        obtain ⟨node, _, denotes⟩ :=
          Result.exists_of_mem_right denoted
            (List.mem_append_right _ List.mem_cons_self)
        obtain rfl := denotes.eq_of_argument declares
        refine ⟨before, after, rfl, counted, ?_, ?_⟩
        · rw [final_of_fragments rfl, Fragment.finalText_split]
        · rw [probe_of_fragments rfl, Fragment.probeText_split] }

/-! ## A query with every kind of node -/

/-- An element at the start of a document. -/
def elementOf
    (tag : String)
    (attributes : List (String × String))
    (children : List Node) :
    Node :=
  .element
    { tag
      attributes := Std.TreeMap.ofList attributes
      children
      position := ⟨1, 1⟩ }

/-- Lock the orders of a user.  The probe locks nothing, since the content of
the replacement does not start with text. -/
def lockOrders : Template.Statement where
  name := "lockOrders"
  hints := ∅
  nodes :=
    [.text "SELECT ",
      elementOf "wc" [("table", "orders"), ("as", "o")] [],
      .text " FROM orders o WHERE o.user_id = ",
      elementOf "arg" [("name", "user"), ("type", "uint64")] [.text " 7\n"],
      elementOf "replace" [("with", " FOR UPDATE")] [elementOf "note" [] []]]
  position := ⟨1, 1⟩

/-- What the nodes of the query stand for. -/
def lockOrdersFragments : List Fragment :=
  [⟨"SELECT ", "SELECT ", none⟩,
    ⟨"`o`.`id`, `o`.`user_id`, `o`.`total`, `o`.`status`, `o`.`meta`",
      "`o`.`id`, `o`.`user_id`, `o`.`total`, `o`.`status`, `o`.`meta`", none⟩,
    ⟨" FROM orders o WHERE o.user_id = ", " FROM orders o WHERE o.user_id = ",
      none⟩,
    ⟨"?", "7", some ⟨"user", some "uint64", "7"⟩⟩,
    ⟨" FOR UPDATE", "", none⟩]

theorem denotes_lockOrders :
    List.Forall₂ (Denotes ⟨"lockOrders", Fixture.schema, .mySql⟩)
      lockOrders.nodes lockOrdersFragments := by
  have found : Fixture.schema.table? "orders" = some Fixture.orders := by
    rw [Fixture.schema, Schema.table?_ofTables]
    rfl
  have canonical :
      ∀ hint ∈ some "uint64", ∃ type : CanonicalType, type.name = hint := by
    rintro _ ⟨⟩
    exact ⟨.uint64, rfl⟩
  refine .cons (.text _) (.cons ?_ (.cons (.text _) (.cons ?_ (.cons ?_ .nil))))
  · exact .wildcard rfl (show _ = some "orders" by decide) (by decide) found
      (show _ = "o" by decide) (by decide +kernel)
  · exact .argument rfl (by decide) (by decide) (by decide) (by decide)
      canonical
  · exact .replacement rfl (by decide) (by decide)

/-- The configured query. -/
def lockOrdersChain : Chain where
  name := "lockOrders"
  hints := ∅
  position := ⟨1, 1⟩
  directives := lockOrdersFragments.map Fragment.directive
  arguments := [⟨"user", some "uint64", "7"⟩]

theorem build_lockOrders :
    build .builtin Fixture.schema .mySql lockOrders = .ok lockOrdersChain :=
  build_eq_ok_iff.2 ⟨_, denotes_lockOrders, by decide, rfl⟩

/-- A statement with a text and all kinds of elements is made of its
fragments. -/
theorem madeOf_lockOrders :
    build .builtin Fixture.schema .mySql lockOrders = .ok lockOrdersChain ∧
      ∃ fragments,
        lockOrdersChain.MadeOf ⟨"lockOrders", Fixture.schema, .mySql⟩
          lockOrders.nodes fragments :=
  ⟨build_lockOrders, madeOf_of_build build_lockOrders⟩

end Chain
end TypedSql
