import Mathlib.Data.List.DropRight
import TypedSql.Text.Blank
import TypedSql.Text.Number
import TypedSql.Text.Search

/-!
# Written forms

Trimming leaves a text alone that has no blanks at its ends, decimal digits
are read as the number that they were written for, and a text is cut at the
first place at which a mark stands.
-/

namespace TypedSql
namespace Text

theorem contains_ofList (text fragment : List Char) :
    contains (String.ofList text) (String.ofList fragment) =
      occursIn fragment text := by
  rw [contains, String.toList_ofList, String.toList_ofList]

/-- A text without blanks at its ends stays as it is. -/
theorem trim_eq_self
    {text : String}
    (nonempty : text.toList ≠ [])
    (first : isBlank (text.toList.head nonempty) = false)
    (last : isBlank (text.toList.getLast nonempty) = false) :
    trim text = text := by
  have kept : text.toList.dropWhile isBlank = text.toList := by
    apply List.dropWhile_eq_self_iff.2
    intro _
    rw [List.getElem_zero, first]
    exact Bool.false_ne_true
  have keptBack : text.toList.rdropWhile isBlank = text.toList := by
    apply List.rdropWhile_eq_self_iff.2
    intro _
    rw [last]
    exact Bool.false_ne_true
  rw [trim, trimStart, kept, trimEnd, ← List.rdropWhile, keptBack,
    String.ofList_toList]

/-- Nothing is left exactly of a text of blanks only. -/
theorem trim_eq_empty_iff {text : String} :
    trim text = "" ↔ isBlankText text = true := by
  have trimmed :
      trim text = "" ↔
        ∀ c ∈ text.toList.dropWhile isBlank, isBlank c = true := by
    rw [trim, String.ofList_eq_empty_iff, trimStart, trimEnd,
      ← List.rdropWhile, List.rdropWhile_eq_nil_iff]
  rw [trimmed, isBlankText, List.all_eq_true]
  constructor
  · intro blank c member
    rw [← List.takeWhile_append_dropWhile (p := isBlank) (l := text.toList)]
      at member
    rcases List.mem_append.1 member with leading | later
    · exact List.mem_takeWhile_imp leading
    · exact blank c later
  · intro blank c member
    exact blank c ((List.dropWhile_sublist isBlank).subset member)

/-! ## Decimal digits -/

/-- No digit is taken away by trimming. -/
theorem isBlank_eq_false_of_isDigit
    {c : Char}
    (digit : c.isDigit = true) :
    isBlank c = false := by
  obtain ⟨lower, upper⟩ : 48 ≤ c.toNat ∧ c.toNat ≤ 57 :=
    Char.isDigit_iff_toNat.1 digit
  simp only [isBlank, Bool.or_eq_false_iff, Bool.and_eq_false_iff,
    decide_eq_false_iff_not, beq_eq_false_iff_ne]
  omega

/-- Digits are read as the number that they stand for. -/
theorem foldlM_decimalDigit
    {digits : List Char}
    (allDigits : ∀ c ∈ digits, c.isDigit = true)
    (start : Nat) :
    digits.foldlM (fun value c => (value * 10 + ·) <$> decimalDigit c) start =
      some (Nat.ofDigitChars 10 digits start) := by
  induction digits generalizing start with
  | nil => rfl
  | cons c rest inductionHypothesis =>
      obtain ⟨digit, others⟩ := List.forall_mem_cons.1 allDigits
      rw [List.foldlM_cons, Nat.ofDigitChars_cons, Nat.mul_comm 10,
        ← inductionHypothesis others, decimalDigit, if_pos digit]
      rfl

/-- The decimal digits of a number are read as this number. -/
theorem readDecimal_toDigits (n : Nat) :
    readDecimal (Nat.toDigits 10 n) = some n := by
  have allDigits : ∀ c ∈ Nat.toDigits 10 n, c.isDigit = true :=
    fun _ member => Nat.isDigit_of_mem_toDigits (by decide) (by decide) member
  rw [readDecimal, digitsValue, List.isEmpty_eq_false_iff.2 Nat.toDigits_ne_nil,
    if_neg Bool.false_ne_true, foldlM_decimalDigit allDigits,
    Nat.ofDigitChars_ten_toDigits]

/-- A number that a width can hold is read back from its digits, and a greater
one is refused. -/
theorem readUnsigned_toString (width n : Nat) :
    readUnsigned width (toString n) =
      if n < valueCount width then some n else none := by
  have noSign : ∀ rest, Nat.toDigits 10 n ≠ '+' :: rest := by
    intro rest signed
    have digit : '+'.isDigit = true :=
      Nat.isDigit_of_mem_toDigits (b := 10) (n := n) (by decide) (by decide)
        (signed ▸ List.mem_cons_self)
    exact absurd digit (by decide)
  have whole : (toString n).toList = Nat.toDigits 10 n := by
    rw [Nat.toString_eq_repr, Nat.toList_repr]
  unfold readUnsigned
  rw [whole]
  split
  next rest signed => exact absurd signed (noSign rest)
  next =>
    change (readDecimal (Nat.toDigits 10 n)).filter _ = _
    rw [readDecimal_toDigits, Option.filter_some]
    simp only [decide_eq_true_eq]

theorem trim_toString (n : Nat) : trim (toString n) = toString n := by
  have allDigits : ∀ c ∈ (toString n).toList, isBlank c = false := by
    intro c member
    rw [Nat.toString_eq_repr, Nat.toList_repr] at member
    exact isBlank_eq_false_of_isDigit
      (Nat.isDigit_of_mem_toDigits (by decide) (by decide) member)
  have nonempty : (toString n).toList ≠ [] := by
    rw [Nat.toString_eq_repr, Nat.toList_repr]
    exact Nat.toDigits_ne_nil
  exact trim_eq_self nonempty
    (allDigits _ (List.head_mem nonempty))
    (allDigits _ (List.getLast_mem nonempty))

/-! ## Cutting -/

theorem dropStart_eq_none_iff {mark text : List Char} :
    dropStart mark text = none ↔ ¬mark <+: text := by
  rw [Option.eq_none_iff_forall_ne_some]
  simp only [ne_eq, dropStart_eq_some_iff]
  constructor
  · rintro absent ⟨rest, rfl⟩
    exact absent rest rfl
  · rintro absent rest rfl
    exact absent (List.prefix_append mark rest)

/-- Where a mark first stands behind some text, it does not start that text. -/
theorem dropStart_append_eq_none
    {mark before : List Char}
    (notEmpty : before ≠ [])
    (first : ¬mark <:+: before ++ mark.dropLast)
    (after : List Char) :
    dropStart mark (before ++ mark ++ after) = none := by
  rw [dropStart_eq_none_iff]
  intro early
  have kept : before ++ mark.dropLast <+: before ++ mark ++ after := by
    rw [List.append_assoc, List.prefix_append_right_inj]
    exact (List.dropLast_prefix mark).trans (List.prefix_append mark after)
  have positive := List.length_pos_iff.2 notEmpty
  have short : mark.length ≤ (before ++ mark.dropLast).length := by
    rw [List.length_append, List.length_dropLast]
    omega
  exact first (List.prefix_of_prefix_length_le early kept short).isInfix

section Cutting

variable
  {mark text : List Char}
  (nonempty : mark ≠ [])

include nonempty

/-- A text is cut at the first place at which the mark stands. -/
theorem cutAt_eq_some_iff {before after : List Char} :
    cutAt mark text = some (before, after) ↔
      text = before ++ mark ++ after ∧ ¬mark <:+: before ++ mark.dropLast := by
  constructor
  · intro cut
    refine ⟨eq_append_of_cutAt cut, ?_⟩
    induction text generalizing before with
    | nil =>
        rw [cutAt, List.isEmpty_eq_false_iff.2 nonempty] at cut
        cases cut
    | cons c rest inductionHypothesis =>
        rw [cutAt] at cut
        split at cut
        next found matched =>
          cases cut
          intro inside
          have positive := List.length_pos_iff.2 nonempty
          have tooLong := inside.length_le
          rw [List.nil_append, List.length_dropLast] at tooLong
          omega
        next unmatched =>
          obtain ⟨⟨left, right⟩, restCut, parts⟩ := Option.map_eq_some_iff.1 cut
          cases parts
          rw [List.cons_append, List.infix_cons_iff]
          rintro (atStart | later)
          · have kept : c :: (left ++ mark.dropLast) <+: c :: rest := by
              rw [eq_append_of_cutAt restCut, List.cons_prefix_cons,
                List.append_assoc, List.prefix_append_right_inj]
              exact ⟨rfl,
                (List.dropLast_prefix mark).trans (List.prefix_append mark _)⟩
            exact dropStart_eq_none_iff.1 unmatched (atStart.trans kept)
          · exact inductionHypothesis restCut later
  · rintro ⟨rfl, first⟩
    induction before with
    | nil =>
        cases mark with
        | nil => exact absurd rfl nonempty
        | cons m others =>
            have matched :
                dropStart (m :: others) (m :: (others ++ after)) = some after :=
              dropStart_eq_some_iff.2 rfl
            change cutAt (m :: others) (m :: (others ++ after)) = _
            rw [cutAt, matched]
    | cons c rest inductionHypothesis =>
        have unmatched :=
          dropStart_append_eq_none (List.cons_ne_nil c rest) first after
        have later : ¬mark <:+: rest ++ mark.dropLast := fun inside =>
          first (List.infix_cons inside)
        change cutAt mark (c :: (rest ++ mark ++ after)) = _
        change dropStart mark (c :: (rest ++ mark ++ after)) = none at unmatched
        rw [cutAt, unmatched, inductionHypothesis later]
        rfl

/-- A text without the mark is not cut. -/
theorem cutAt_eq_none_iff :
    cutAt mark text = none ↔ ¬mark <:+: text := by
  induction text with
  | nil => simp [cutAt, nonempty]
  | cons c rest inductionHypothesis =>
      rw [cutAt, List.infix_cons_iff, not_or, ← inductionHypothesis,
        ← dropStart_eq_none_iff]
      cases dropStart mark (c :: rest) with
      | some after => simp
      | none => simp

end Cutting

/-! ## Renaming characters -/

section Renaming

variable
  {mark : List Char}
  {rename : Char → Char}
  (kept : ∀ m ∈ mark, ∀ c, rename c = m ↔ c = m)

include kept

/-- Characters that are not part of a mark have no say in where it stands. -/
theorem dropStart_map (text : List Char) :
    dropStart mark (text.map rename) =
      (dropStart mark text).map (List.map rename) := by
  induction mark generalizing text with
  | nil => rfl
  | cons m others inductionHypothesis =>
      obtain ⟨first, later⟩ := List.forall_mem_cons.1 kept
      cases text with
      | nil => rfl
      | cons c rest =>
          have same : m = rename c ↔ m = c := by
            rw [eq_comm, first, eq_comm]
          rw [List.map_cons, dropStart, dropStart]
          simp only [same]
          split
          next => exact inductionHypothesis later rest
          next => rfl

/-- Renaming characters commutes with cutting, if the mark is not affected. -/
theorem cutAt_map (text : List Char) :
    cutAt mark (text.map rename) =
      (cutAt mark text).map (Prod.map (List.map rename) (List.map rename)) := by
  induction text with
  | nil => rw [List.map_nil, cutAt]; split <;> rfl
  | cons c rest inductionHypothesis =>
      have start := dropStart_map kept (c :: rest)
      rw [List.map_cons] at start ⊢
      rw [cutAt, cutAt, start, inductionHypothesis]
      cases dropStart mark (c :: rest) with
      | some after => rfl
      | none => cases cutAt mark rest <;> rfl

end Renaming

end Text
end TypedSql
