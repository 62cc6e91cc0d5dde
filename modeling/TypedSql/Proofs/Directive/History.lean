import TypedSql.Proofs.Directive.Attempt
import TypedSql.Proofs.Statement.Meaning

/-!
# Histories of attempts

The directives of a statement are configured one after the other in one
context, which collects the arguments.  Whatever is attempted, and however many
attempts fail, the arguments are those of the attempts for arguments that have
succeeded, and no two of them share a name.

Nothing is said about the directives that the attempts are made for: each may be
a fresh one, or one that earlier attempts have left behind.
-/

namespace TypedSql
namespace Directive

/-- How far a history has come. -/
structure Progress where
  /-- The declared arguments, in the order of their declaration. -/
  arguments : List Argument := []
  /-- The attempts that have succeeded, in order. -/
  succeeded : List Attempt := []

namespace Progress

variable {scope : Scope} {progress : Progress}

/-- One more attempt.  What it does to the arguments stays even if it fails. -/
def next (scope : Scope) (progress : Progress) (attempt : Attempt) : Progress :=
  match attempt.run scope progress.arguments with
  | (.ok (), after) =>
    { arguments := after.arguments
      succeeded := progress.succeeded ++ [attempt] }
  | (.error _, after) => { progress with arguments := after.arguments }

/-- Where a history of attempts leads that starts with no arguments. -/
def ofAttempts (scope : Scope) (attempts : List Attempt) : Progress :=
  attempts.foldl (next scope) {}

/-- The arguments are those of the attempts for arguments that have succeeded,
and are told apart by their names. -/
structure Sound (progress : Progress) : Prop where
  distinct : (progress.arguments.map (·.name)).Nodup
  declared :
    List.Forall₂ (fun attempt argument => Describes attempt.node argument)
      (progress.succeeded.filter (·.builtin = .argument)) progress.arguments

theorem sound_empty : Sound {} where
  distinct := List.nodup_nil
  declared := .nil

/-- One more attempt declares its argument behind the others if it succeeds, and
leaves them alone if it fails. -/
theorem Sound.next
    (sound : progress.Sound)
    (attempt : Attempt) :
    (progress.next scope attempt).Sound := by
  have comes := attempt.comesTo_run scope progress.arguments
  unfold Progress.next
  generalize attempt.run scope progress.arguments = outcome at comes ⊢
  cases comes with
  | refused => exact sound
  | configured undeclaring =>
      refine ⟨sound.distinct, ?_⟩
      rw [List.filter_append, List.filter_singleton,
        decide_eq_false undeclaring]
      simpa using sound.declared
  | declared declaring described new =>
      refine ⟨(Chain.nodup_names_singleton_iff sound.distinct).2 new, ?_⟩
      rw [List.filter_append, List.filter_singleton, decide_eq_true declaring]
      exact List.rel_append sound.declared (.cons described .nil)
  | taken => exact sound

/-- So the arguments stay distinct over any number of attempts. -/
theorem Sound.foldl_next
    (sound : progress.Sound)
    (attempts : List Attempt) :
    (attempts.foldl (Progress.next scope) progress).Sound := by
  induction attempts generalizing progress with
  | nil => exact sound
  | cons attempt rest inductionHypothesis =>
      exact inductionHypothesis (sound.next attempt)

/-- Every further attempt declares at most the argument that it is for, once,
and nothing if it fails. -/
structure DeclaresOnce (scope : Scope) (progress : Progress) : Prop extends
    Sound progress where
  untouched
    {attempt : Attempt}
    {error : Template.Error}
    {after : Draft}
    (failed :
      attempt.run scope progress.arguments = (.error error, after)) :
    after.arguments = progress.arguments
  duplicate_iff
    {attempt : Attempt}
    {argument : Argument}
    (declaring : attempt.builtin = .argument)
    (described : Describes attempt.node argument) :
    (attempt.run scope progress.arguments).1 =
        .error (.duplicateArgument argument.name scope.statement) ↔
      argument.name ∈ progress.arguments.map (·.name)
  accepted
    {attempt : Attempt}
    {argument : Argument}
    (declaring : attempt.builtin = .argument)
    (described : Describes attempt.node argument)
    (new : argument.name ∉ progress.arguments.map (·.name)) :
    attempt.run scope progress.arguments =
      (.ok (),
        ⟨.ofTexts placeholder argument.sample,
          progress.arguments ++ [argument]⟩)

/-- At every point of a history, the arguments are those of the successful
attempts for arguments, with distinct names, and a further attempt changes them
only if it succeeds, which it does exactly if its name is new. -/
theorem declaresOnce_ofAttempts (scope : Scope) (attempts : List Attempt) :
    (ofAttempts scope attempts).DeclaresOnce scope :=
  { sound_empty.foldl_next attempts with
    untouched := Attempt.arguments_of_run_eq_error
    duplicate_iff := by
      intro attempt argument declaring described
      rw [attempt.run_of_describes declaring described]
      split
      next taken => exact iff_of_true rfl taken
      next new => exact iff_of_false nofun new
    accepted := by
      intro attempt argument declaring described new
      rw [attempt.run_of_describes declaring described, if_neg new] }

end Progress
end Directive
end TypedSql
