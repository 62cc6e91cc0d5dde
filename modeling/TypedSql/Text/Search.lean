/-!
# Searching text

What follows a mark at the start of a text, where a fragment occurs in a text,
and what stands before and after its first occurrence.  The functions work on
lists of characters.
-/

namespace TypedSql
namespace Text

/-- What follows a mark that stands at the start of a text. -/
def dropStart : List Char → List Char → Option (List Char)
  | [], text => some text
  | _ :: _, [] => none
  | m :: mark, c :: text => if m = c then dropStart mark text else none

theorem dropStart_eq_some_iff
    {mark text rest : List Char} :
    dropStart mark text = some rest ↔ text = mark ++ rest := by
  induction mark generalizing text with
  | nil => simp [dropStart]
  | cons m mark inductionHypothesis =>
      cases text with
      | nil => simp [dropStart]
      | cons c text =>
          by_cases same : m = c
          · simp [dropStart, same, inductionHypothesis]
          · simp [dropStart, same, Ne.symm same]

/-- Cut a text at the first occurrence of a mark, which is dropped. -/
def cutAt (mark : List Char) : List Char → Option (List Char × List Char)
  | [] => if mark.isEmpty then some ([], []) else none
  | c :: rest =>
    match dropStart mark (c :: rest) with
    | some after => some ([], after)
    | none => (cutAt mark rest).map fun (before, after) => (c :: before, after)

/-- The two parts and the mark between them make up the text. -/
theorem eq_append_of_cutAt
    {mark text before after : List Char}
    (cut : cutAt mark text = some (before, after)) :
    text = before ++ mark ++ after := by
  induction text generalizing before after with
  | nil =>
      simp only [cutAt] at cut
      split at cut <;> simp_all
  | cons c rest inductionHypothesis =>
      rw [cutAt] at cut
      split at cut
      next found matched =>
        obtain ⟨rfl, rfl⟩ := Prod.mk.inj (Option.some.inj cut)
        exact dropStart_eq_some_iff.1 matched
      next =>
        obtain ⟨⟨left, right⟩, restCut, parts⟩ := Option.map_eq_some_iff.1 cut
        obtain ⟨rfl, rfl⟩ := Prod.mk.inj parts
        rw [inductionHypothesis restCut]
        simp

/-- What follows a mark is shorter than the text. -/
theorem length_lt_of_cutAt
    {mark text before after : List Char}
    (nonempty : mark ≠ [])
    (cut : cutAt mark text = some (before, after)) :
    after.length < text.length := by
  have parts := congrArg List.length (eq_append_of_cutAt cut)
  have positive := List.length_pos_iff.2 nonempty
  simp only [List.length_append] at parts
  omega

/-- Whether a fragment occurs in a text; the empty fragment always does. -/
def occursIn (fragment : List Char) : List Char → Bool
  | [] => fragment.isEmpty
  | c :: rest =>
    fragment.isPrefixOf (c :: rest) || occursIn fragment rest

theorem occursIn_iff_isInfix
    (fragment text : List Char) :
    occursIn fragment text = true ↔ fragment <:+: text := by
  induction text with
  | nil => simp [occursIn]
  | cons c rest inductionHypothesis =>
      rw [occursIn, Bool.or_eq_true, inductionHypothesis,
        List.isPrefixOf_iff_prefix, List.infix_cons_iff]

/-- Whether a string occurs in another one. -/
def contains (text fragment : String) : Bool :=
  occursIn fragment.toList text.toList

end Text
end TypedSql
