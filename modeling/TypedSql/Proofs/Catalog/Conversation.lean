import Mathlib.Algebra.GroupWithZero.Nat
import TypedSql.Catalog.Dialogue
import TypedSql.Proofs.Result

/-!
# Conversations

A conversation is what a dialogue may come to: a list of round trips, whose
answers are whatever a database may give, and the value that the dialogue
ends in.  Every run against a connection is a conversation, so what holds of
all conversations holds however the connection behaves.  Runs of compound
dialogues are put together from runs of their parts.
-/

namespace TypedSql
namespace Catalog

variable {α β σ : Type}

namespace Dialogue

/-! ## Runs of compound dialogues -/

/-- The second part of a dialogue meets the connection in the state in which the
first part has left it. -/
theorem run_bind
    (connection : Connection σ)
    (dialogue : Dialogue α)
    (next : α → Dialogue β)
    (state : σ) :
    (dialogue >>= next).run connection state =
      (next (dialogue.run connection state).1).run connection
        (dialogue.run connection state).2 := by
  induction dialogue generalizing state with
  | done value => rfl
  | fetch query params continuation inductionHypothesis =>
      exact inductionHypothesis _ _
  | describe query continuation inductionHypothesis =>
      exact inductionHypothesis _ _

theorem run_map
    (connection : Connection σ)
    (apply : α → β)
    (dialogue : Dialogue α)
    (state : σ) :
    (apply <$> dialogue).run connection state =
      (apply (dialogue.run connection state).1,
        (dialogue.run connection state).2) := by
  rw [map_eq_pure_bind, run_bind]
  rfl

theorem exchanges_map
    (connection : Connection σ)
    (apply : α → β)
    (dialogue : Dialogue α)
    (state : σ) :
    (apply <$> dialogue).exchanges connection state =
      dialogue.exchanges connection state := by
  rw [map_eq_pure_bind]
  induction dialogue generalizing state with
  | done value => rfl
  | fetch query params next inductionHypothesis =>
      exact congrArg (_ :: ·) (inductionHypothesis _ _)
  | describe query next inductionHypothesis =>
      exact congrArg (_ :: ·) (inductionHypothesis _ _)

section Success

variable {ε : Type} {connection : Connection σ}

theorem run_lift_eq_ok_iff
    {dialogue : Dialogue α}
    {state after : σ}
    {value : α} :
    (ExceptT.lift dialogue : ExceptT ε Dialogue α).run.run connection state =
        (.ok value, after) ↔
      dialogue.run connection state = (value, after) := by
  change (Except.ok <$> dialogue).run connection state = _ ↔ _
  simp only [run_map, Prod.ext_iff, Except.ok.injEq]

/-- A run of two dialogues in turn succeeds when both of them do. -/
theorem run_bind_eq_ok_iff
    {dialogue : ExceptT ε Dialogue α}
    {next : α → ExceptT ε Dialogue β}
    {state after : σ}
    {value : β} :
    (dialogue >>= next).run.run connection state = (.ok value, after) ↔
      ∃ middle between,
        dialogue.run.run connection state = (.ok middle, between) ∧
          (next middle).run.run connection between = (.ok value, after) := by
  rw [ExceptT.run_bind, run_bind]
  rcases dialogue.run.run connection state with ⟨failure | middle, between⟩
  · constructor
    · rintro ⟨⟩
    · rintro ⟨_, _, ⟨⟩, _⟩
  · constructor
    · intro ended
      exact ⟨middle, between, rfl, ended⟩
    · rintro ⟨_, _, ⟨⟩, ended⟩
      exact ended

/-- Each value of a traversal is what the step of an item has come to. -/
theorem exists_of_mem_run_mapM
    {step : α → Dialogue β}
    {items : List α}
    {state : σ}
    {value : β}
    (member : value ∈ ((items.mapM step).run connection state).1) :
    ∃ item ∈ items, ∃ before, ((step item).run connection before).1 = value := by
  induction items generalizing state with
  | nil => cases member
  | cons item rest inductionHypothesis =>
      rw [List.mapM_cons, run_bind, run_bind] at member
      rcases List.mem_cons.1 member with rfl | later
      · exact ⟨item, List.mem_cons_self, state, rfl⟩
      · obtain ⟨found, present, stepped⟩ := inductionHypothesis later
        exact ⟨found, List.mem_cons_of_mem _ present, stepped⟩

/-- The same for steps that may fail, when none of them does. -/
theorem exists_of_mem_run_mapM_ok
    {step : α → ExceptT ε Dialogue β}
    {items : List α}
    {state after : σ}
    {values : List β}
    (ended :
      (items.mapM step).run.run connection state = (.ok values, after))
    {value : β}
    (member : value ∈ values) :
    ∃ item ∈ items, ∃ before behind,
      (step item).run.run connection before = (.ok value, behind) := by
  induction items generalizing state values with
  | nil =>
      cases ended
      cases member
  | cons item rest inductionHypothesis =>
      rw [List.mapM_cons, run_bind_eq_ok_iff] at ended
      obtain ⟨first, between, stepped, remaining⟩ := ended
      obtain ⟨others, _, traversed, made⟩ := run_bind_eq_ok_iff.1 remaining
      cases made
      rcases List.mem_cons.1 member with rfl | later
      · exact ⟨item, List.mem_cons_self, state, between, stepped⟩
      · obtain ⟨found, present, laterStepped⟩ :=
          inductionHypothesis traversed later
        exact ⟨found, List.mem_cons_of_mem _ present, laterStepped⟩

end Success

/-! ## Conversations -/

/-- A dialogue may have some round trips and then end in a value. -/
inductive Conversation : Dialogue α → List Exchange → α → Prop where
  | done (value : α) : Conversation (done value) [] value
  | fetched
      {query : String}
      {params : List String}
      {next : Answer (List Row) → Dialogue α}
      {trips : List Exchange}
      {value : α}
      (answer : Answer (List Row))
      (later : Conversation (next answer) trips value) :
      Conversation (fetch query params next)
        (.fetched query params answer :: trips) value
  | described
      {query : String}
      {next : Answer (List RawColumn) → Dialogue α}
      {trips : List Exchange}
      {value : α}
      (answer : Answer (List RawColumn))
      (later : Conversation (next answer) trips value) :
      Conversation (describe query next)
        (.described query answer :: trips) value

/-- Every run is a conversation. -/
theorem conversation_run
    (connection : Connection σ)
    (dialogue : Dialogue α)
    (state : σ) :
    Conversation dialogue
      (dialogue.exchanges connection state)
      (dialogue.run connection state).1 := by
  induction dialogue generalizing state with
  | done value => exact .done value
  | fetch query params next inductionHypothesis =>
      exact .fetched _ (inductionHypothesis _ _)
  | describe query next inductionHypothesis =>
      exact .described _ (inductionHypothesis _ _)

theorem conversation_done_iff
    {value result : α}
    {trips : List Exchange} :
    Conversation (.done value) trips result ↔ trips = [] ∧ result = value := by
  constructor
  · intro equal
    cases equal
    exact ⟨rfl, rfl⟩
  · rintro ⟨rfl, rfl⟩
    exact .done result

/-- The round trips of two dialogues in turn are those of the first and then
those of the second. -/
theorem conversation_bind_iff
    {dialogue : Dialogue α}
    {next : α → Dialogue β}
    {trips : List Exchange}
    {result : β} :
    Conversation (dialogue >>= next) trips result ↔
      ∃ early late value,
        trips = early ++ late ∧
          Conversation dialogue early value ∧
          Conversation (next value) late result := by
  induction dialogue generalizing trips with
  | done value =>
      rw [done_bind]
      constructor
      · intro conversation
        exact ⟨[], trips, value, rfl, .done value, conversation⟩
      · rintro ⟨early, late, middle, rfl, first, second⟩
        obtain ⟨rfl, rfl⟩ := conversation_done_iff.1 first
        exact second
  | fetch query params continuation inductionHypothesis =>
      rw [fetch_bind]
      constructor
      · intro equal
        cases equal
        rename_i rest answer later
        obtain ⟨early, late, value, rfl, first, second⟩ :=
          (inductionHypothesis answer).1 later
        exact ⟨_, late, value, rfl, .fetched answer first, second⟩
      · rintro ⟨early, late, value, rfl, first, second⟩
        cases first with
        | fetched answer later =>
            exact .fetched answer
              ((inductionHypothesis answer).2
                ⟨_, late, value, rfl, later, second⟩)
  | describe query continuation inductionHypothesis =>
      rw [describe_bind]
      constructor
      · intro equal
        cases equal
        rename_i rest answer later
        obtain ⟨early, late, value, rfl, first, second⟩ :=
          (inductionHypothesis answer).1 later
        exact ⟨_, late, value, rfl, .described answer first, second⟩
      · rintro ⟨early, late, value, rfl, first, second⟩
        cases first with
        | described answer later =>
            exact .described answer
              ((inductionHypothesis answer).2
                ⟨_, late, value, rfl, later, second⟩)

end Dialogue

namespace Introspection

/-! ## Round trips of compound introspections -/

/-- A known outcome is reported without a round trip. -/
theorem conversation_ofExcept_iff
    {outcome result : Except Error α}
    {trips : List Exchange} :
    (ofExcept outcome).run.Conversation trips result ↔
      trips = [] ∧ result = outcome :=
  Dialogue.conversation_done_iff

/-- A row query is one round trip, and its answer is the result, whether it
succeeds or fails. -/
theorem conversation_fetch_iff
    {query : String}
    {params : List String}
    {trips : List Exchange}
    {result : Answer (List Row)} :
    (fetch query params).run.Conversation trips result ↔
      trips = [.fetched query params result] := by
  constructor
  · intro conversation
    cases conversation with
    | fetched answer later =>
        obtain ⟨rfl, rfl⟩ := Dialogue.conversation_done_iff.1 later
        rfl
  · rintro rfl
    exact .fetched result (.done result)

theorem conversation_describe_iff
    {query : String}
    {trips : List Exchange}
    {result : Answer (List RawColumn)} :
    (describe query).run.Conversation trips result ↔
      trips = [.described query result] := by
  constructor
  · intro conversation
    cases conversation with
    | described answer later =>
        obtain ⟨rfl, rfl⟩ := Dialogue.conversation_done_iff.1 later
        rfl
  · rintro rfl
    exact .described result (.done result)

/-- The second of two introspections takes place only if the first one has
found something. -/
theorem conversation_bind_iff
    {introspection : Introspection α}
    {next : α → Introspection β}
    {trips : List Exchange}
    {result : Except Error β} :
    (introspection >>= next).run.Conversation trips result ↔
      (∃ early late value,
        trips = early ++ late ∧
          introspection.run.Conversation early (.ok value) ∧
          (next value).run.Conversation late result) ∨
      ∃ failure,
        introspection.run.Conversation trips (.error failure) ∧
          result = .error failure := by
  rw [ExceptT.run_bind, Dialogue.conversation_bind_iff]
  constructor
  · rintro ⟨early, late, outcome, rfl, first, second⟩
    cases outcome with
    | error failure =>
        obtain ⟨rfl, rfl⟩ := Dialogue.conversation_done_iff.1 second
        rw [List.append_nil]
        exact .inr ⟨failure, first, rfl⟩
    | ok value => exact .inl ⟨early, late, value, rfl, first, second⟩
  · rintro (⟨early, late, value, rfl, first, second⟩ | ⟨failure, first, rfl⟩)
    · exact ⟨early, late, .ok value, rfl, first, second⟩
    · exact ⟨trips, [], .error failure, (List.append_nil trips).symm, first,
        .done _⟩

/-- A conversation that succeeds falls into two parts that succeed. -/
theorem conversation_bind_ok_iff
    {introspection : Introspection α}
    {next : α → Introspection β}
    {trips : List Exchange}
    {found : β} :
    (introspection >>= next).run.Conversation trips (.ok found) ↔
      ∃ early late value,
        trips = early ++ late ∧
          introspection.run.Conversation early (.ok value) ∧
          (next value).run.Conversation late (.ok found) := by
  rw [conversation_bind_iff, or_iff_left]
  rintro ⟨_, _, ⟨⟩⟩

theorem conversation_pure_iff
    {value : α}
    {result : Except Error α}
    {trips : List Exchange} :
    (pure value : Introspection α).run.Conversation trips result ↔
      trips = [] ∧ result = .ok value :=
  Dialogue.conversation_done_iff

/-- Reading what an introspection has found takes no round trip. -/
theorem conversation_bind_ofExcept_iff
    {introspection : Introspection α}
    {read : α → Except Error β}
    {trips : List Exchange}
    {result : Except Error β} :
    (introspection >>= fun value => ofExcept (read value)).run.Conversation
        trips result ↔
      ∃ outcome,
        introspection.run.Conversation trips outcome ∧
          result = outcome >>= read := by
  rw [conversation_bind_iff]
  constructor
  · rintro (⟨early, late, value, rfl, first, second⟩ | ⟨failure, first, rfl⟩)
    · obtain ⟨rfl, rfl⟩ := conversation_ofExcept_iff.1 second
      rw [List.append_nil]
      exact ⟨.ok value, first, rfl⟩
    · exact ⟨.error failure, first, rfl⟩
  · rintro ⟨outcome, first, rfl⟩
    cases outcome with
    | error failure => exact .inr ⟨failure, first, rfl⟩
    | ok value =>
        exact .inl ⟨trips, [], value, (List.append_nil trips).symm, first,
          conversation_ofExcept_iff.2 ⟨rfl, rfl⟩⟩

/-- When the round trips of a step are as many as what it finds tells, those
of a step for each item of a list are as many as all findings tell together. -/
theorem length_eq_of_conversation_mapM
    {step : α → Introspection β}
    {count : β → Nat}
    (each : ∀ item trips value,
      (step item).run.Conversation trips (.ok value) →
        trips.length = count value)
    {items : List α}
    {trips : List Exchange}
    {found : List β}
    (conversation : (items.mapM step).run.Conversation trips (.ok found)) :
    trips.length = (found.map count).sum := by
  induction items generalizing trips found with
  | nil =>
      rw [List.mapM_nil, conversation_pure_iff] at conversation
      obtain ⟨rfl, ⟨⟩⟩ := conversation
      rfl
  | cons item rest inductionHypothesis =>
      rw [List.mapM_cons, conversation_bind_ok_iff] at conversation
      obtain ⟨early, _, value, rfl, stepped, remaining⟩ := conversation
      obtain ⟨late, _, values, rfl, traversed, made⟩ :=
        conversation_bind_ok_iff.1 remaining
      obtain ⟨rfl, ⟨⟩⟩ := conversation_pure_iff.1 made
      rw [List.append_nil, List.length_append, List.map_cons, List.sum_cons,
        each item early value stepped, inductionHypothesis traversed]

/-! ## Findings -/

/-- An introspection may end with a value, after some round trips. -/
def Finds (introspection : Introspection α) (value : α) : Prop :=
  ∃ trips, introspection.run.Conversation trips (.ok value)

/-- What a run has found may be found. -/
theorem finds_of_run
    {connection : Connection σ}
    {introspection : Introspection α}
    {state : σ}
    {value : α}
    (ended : (introspection.run.run connection state).1 = .ok value) :
    introspection.Finds value :=
  ⟨_, ended ▸ introspection.run.conversation_run connection state⟩

theorem finds_ofExcept_iff
    {result : Except Error α}
    {value : α} :
    (ofExcept result).Finds value ↔ result = .ok value := by
  constructor
  · rintro ⟨trips, conversation⟩
    exact (conversation_ofExcept_iff.1 conversation).2.symm
  · rintro rfl
    exact ⟨[], .done _⟩

theorem finds_pure_iff {value found : α} :
    (pure value : Introspection α).Finds found ↔ found = value := by
  change (ofExcept (.ok value)).Finds found ↔ _
  rw [finds_ofExcept_iff]
  exact ⟨fun equal => (Except.ok.inj equal).symm, fun equal => by rw [equal]⟩

/-- What two steps find, the second one finds after something that the first one
may find. -/
theorem finds_bind_iff
    {introspection : Introspection α}
    {next : α → Introspection β}
    {found : β} :
    (introspection >>= next).Finds found ↔
      ∃ value, introspection.Finds value ∧ (next value).Finds found := by
  constructor
  · rintro ⟨_, conversation⟩
    obtain ⟨early, late, value, -, first, second⟩ :=
      conversation_bind_ok_iff.1 conversation
    exact ⟨value, ⟨early, first⟩, ⟨late, second⟩⟩
  · rintro ⟨value, ⟨early, first⟩, ⟨late, second⟩⟩
    exact ⟨early ++ late,
      conversation_bind_ok_iff.2 ⟨early, late, value, rfl, first, second⟩⟩

/-- What is found for a list of items is something that may be found for each of
them. -/
theorem finds_mapM_iff
    {step : α → Introspection β}
    {items : List α}
    {found : List β} :
    (items.mapM step).Finds found ↔
      List.Forall₂ (fun item value => (step item).Finds value) items found := by
  induction items generalizing found with
  | nil => rw [List.mapM_nil, finds_pure_iff, List.forall₂_nil_left_iff]
  | cons item rest inductionHypothesis =>
      simp only [List.mapM_cons, finds_bind_iff, finds_pure_iff,
        inductionHypothesis, List.forall₂_cons_left_iff]
      constructor
      · rintro ⟨value, stepped, others, related, rfl⟩
        exact ⟨value, others, stepped, related, rfl⟩
      · rintro ⟨value, others, stepped, related, rfl⟩
        exact ⟨value, stepped, others, related, rfl⟩

end Introspection
end Catalog
end TypedSql
