import Mathlib.Data.List.Forall2
import Mathlib.Data.List.Infix
import Mathlib.Logic.Relation
import TypedSql.Proofs.Text
import TypedSql.Statement.Kind

/-!
# Leading noise and keywords

What stands in front of the first keyword of a statement: blanks, opening
parentheses and closed comments, in any order, or a comment without an end,
which takes the rest of the text.  Just this is skipped, and the kind of the
statement is told by the letters that come next, in capitals or not.
-/

namespace TypedSql
namespace StatementKind

/-! ## Noise -/

/-- A comment up to its end, which does not occur earlier in it. -/
inductive Comment : List Char → Prop where
  | line {body : List Char} (inside : '\n' ∉ body) :
      Comment ('-' :: '-' :: (body ++ ['\n']))
  | block {body : List Char} (inside : ¬['*', '/'] <:+: body) :
      Comment ('/' :: '*' :: (body ++ ['*', '/']))

/-- A comment in which the end does not occur. -/
inductive OpenComment : List Char → Prop where
  | line {body : List Char} (inside : '\n' ∉ body) :
      OpenComment ('-' :: '-' :: body)
  | block {body : List Char} (inside : ¬['*', '/'] <:+: body) :
      OpenComment ('/' :: '*' :: body)

/-- Blanks, opening parentheses and closed comments. -/
inductive Noise : List Char → Prop where
  | nil : Noise []
  | blank
      {c : Char}
      {rest : List Char}
      (isBlank : Text.isBlank c = true)
      (others : Noise rest) :
      Noise (c :: rest)
  | parenthesis {rest : List Char} (others : Noise rest) : Noise ('(' :: rest)
  | comment
      {comment rest : List Char}
      (closed : Comment comment)
      (others : Noise rest) :
      Noise (comment ++ rest)

/-- A text that starts neither with a character nor with a comment that would
be skipped. -/
structure StartsClean (text : List Char) : Prop where
  notBlank (c : Char) (first : text.head? = some c) : Text.isBlank c = false
  notParenthesis : text.head? ≠ some '('
  notLineComment : ¬['-', '-'] <+: text
  notBlockComment : ¬['/', '*'] <+: text

/-- A text is noise and what follows it, or ends in a comment that takes the
rest. -/
inductive Skips : List Char → List Char → Prop where
  | closed
      {noise rest : List Char}
      (skipped : Noise noise)
      (clean : StartsClean rest) :
      Skips (noise ++ rest) rest
  | unclosed
      {noise comment : List Char}
      (skipped : Noise noise)
      (unclosed : OpenComment comment) :
      Skips (noise ++ comment) []

theorem isNoise_eq_true_iff {c : Char} :
    isNoise c = true ↔ Text.isBlank c = true ∨ c = '(' := by
  rw [isNoise, Bool.or_eq_true, beq_iff_eq]

theorem Noise.cons
    {c : Char}
    (noisy : isNoise c = true)
    {rest : List Char}
    (others : Noise rest) :
    Noise (c :: rest) := by
  rcases isNoise_eq_true_iff.1 noisy with isBlank | rfl
  · exact .blank isBlank others
  · exact .parenthesis others

theorem Noise.append
    {left right : List Char}
    (first : Noise left)
    (second : Noise right) :
    Noise (left ++ right) := by
  induction first with
  | nil => exact second
  | blank isBlank _ inductionHypothesis =>
      exact .blank isBlank inductionHypothesis
  | parenthesis _ inductionHypothesis => exact .parenthesis inductionHypothesis
  | comment closed _ inductionHypothesis =>
      rw [List.append_assoc]
      exact .comment closed inductionHypothesis

/-- More noise in front of a text does not change its rest. -/
theorem Skips.append
    {noise text rest : List Char}
    (first : Noise noise)
    (skips : Skips text rest) :
    Skips (noise ++ text) rest := by
  cases skips with
  | closed skipped clean =>
      rw [← List.append_assoc]
      exact .closed (first.append skipped) clean
  | unclosed skipped unclosed =>
      rw [← List.append_assoc]
      exact .unclosed (first.append skipped) unclosed

/-- Blanks and parentheses at the start of a text are noise. -/
theorem noise_takeWhile (text : List Char) :
    Noise (text.takeWhile isNoise) := by
  induction text with
  | nil => exact .nil
  | cons c rest inductionHypothesis =>
      rw [List.takeWhile_cons]
      split
      next noisy => exact .cons noisy inductionHypothesis
      next => exact .nil

/-! ## One comment -/

/-- The star of an ending cannot end the body and close the comment as well. -/
theorem infix_append_star_iff {body : List Char} :
    ['*', '/'] <:+: body ++ ['*', '/'].dropLast ↔ ['*', '/'] <:+: body := by
  constructor
  · intro inside
    induction body with
    | nil => exact absurd inside (by decide)
    | cons c rest inductionHypothesis =>
        rcases List.infix_cons_iff.1 inside with atStart | later
        · obtain ⟨rfl, second⟩ := List.cons_prefix_cons.1 atStart
          cases rest with
          | nil => exact absurd second (by decide)
          | cons d others =>
              obtain ⟨rfl, -⟩ := List.cons_prefix_cons.1 second
              exact (List.prefix_append ['*', '/'] others).isInfix
        · exact List.infix_cons (inductionHypothesis later)
  · exact List.infix_append_of_infix_left

/-- A comment goes up to the first place where its end stands behind its mark,
or it takes all of the text. -/
theorem afterComment?_eq_some_iff
    {mark ending text after : List Char}
    (nonempty : ending ≠ []) :
    afterComment? mark ending text = some after ↔
      (∃ body,
        text = mark ++ (body ++ ending ++ after) ∧
          ¬ending <:+: body ++ ending.dropLast) ∨
        ∃ body, text = mark ++ body ∧ ¬ending <:+: body ∧ after = [] := by
  simp only [afterComment?, Option.map_eq_some_iff, Text.dropStart_eq_some_iff]
  constructor
  · rintro ⟨comment, rfl, closed⟩
    split at closed
    next before rest cut =>
      subst closed
      obtain ⟨rfl, first⟩ := (Text.cutAt_eq_some_iff nonempty).1 cut
      exact .inl ⟨before, rfl, first⟩
    next uncut =>
      exact .inr ⟨comment, rfl, (Text.cutAt_eq_none_iff nonempty).1 uncut,
        closed.symm⟩
  · rintro (⟨body, rfl, first⟩ | ⟨body, rfl, absent, rfl⟩)
    · refine ⟨_, rfl, ?_⟩
      rw [(Text.cutAt_eq_some_iff nonempty).2 ⟨rfl, first⟩]
    · refine ⟨_, rfl, ?_⟩
      rw [(Text.cutAt_eq_none_iff nonempty).2 absent]

/-- A comment of one line ends with the line or with the text. -/
theorem afterLineComment?_eq_some_iff {text after : List Char} :
    afterComment? ['-', '-'] ['\n'] text = some after ↔
      (∃ body, text = '-' :: '-' :: (body ++ ['\n'] ++ after) ∧ '\n' ∉ body) ∨
        ∃ body, text = '-' :: '-' :: body ∧ '\n' ∉ body ∧ after = [] := by
  rw [afterComment?_eq_some_iff (List.cons_ne_nil _ _)]
  simp only [List.dropLast_singleton, List.append_nil,
    List.singleton_infix_iff]
  rfl

/-- A comment between marks ends with the second one or with the text. -/
theorem afterBlockComment?_eq_some_iff {text after : List Char} :
    afterComment? ['/', '*'] ['*', '/'] text = some after ↔
      (∃ body,
        text = '/' :: '*' :: (body ++ ['*', '/'] ++ after) ∧
          ¬['*', '/'] <:+: body) ∨
        ∃ body,
          text = '/' :: '*' :: body ∧ ¬['*', '/'] <:+: body ∧ after = [] := by
  rw [afterComment?_eq_some_iff (List.cons_ne_nil _ _)]
  simp only [infix_append_star_iff]
  rfl

/-- What follows a comment: the text behind its end, or nothing. -/
theorem afterAnyComment?_eq_some_iff {text after : List Char} :
    afterAnyComment? text = some after ↔
      (∃ comment, Comment comment ∧ text = comment ++ after) ∨
        OpenComment text ∧ after = [] := by
  have noLine (rest : List Char) :
      afterComment? ['-', '-'] ['\n'] ('/' :: '*' :: rest) = none := rfl
  rw [afterAnyComment?, Option.or_eq_some_iff, afterLineComment?_eq_some_iff,
    afterBlockComment?_eq_some_iff]
  constructor
  · rintro ((⟨body, rfl, inside⟩ | ⟨body, rfl, inside, rfl⟩) |
      ⟨-, ⟨body, rfl, inside⟩ | ⟨body, rfl, inside, rfl⟩⟩)
    · exact .inl ⟨_, .line inside, rfl⟩
    · exact .inr ⟨.line inside, rfl⟩
    · exact .inl ⟨_, .block inside, rfl⟩
    · exact .inr ⟨.block inside, rfl⟩
  · rintro (⟨_, ⟨inside⟩ | ⟨inside⟩, rfl⟩ | ⟨⟨inside⟩ | ⟨inside⟩, rfl⟩)
    · exact .inl (.inl ⟨_, rfl, inside⟩)
    · exact .inr ⟨noLine _, .inl ⟨_, rfl, inside⟩⟩
    · exact .inl (.inr ⟨_, rfl, inside, rfl⟩)
    · exact .inr ⟨noLine _, .inr ⟨_, rfl, inside, rfl⟩⟩

theorem afterAnyComment?_eq_none_iff {text : List Char} :
    afterAnyComment? text = none ↔
      ¬['-', '-'] <+: text ∧ ¬['/', '*'] <+: text := by
  rw [afterAnyComment?, Option.or_eq_none_iff, afterComment?, afterComment?,
    Option.map_eq_none_iff, Option.map_eq_none_iff,
    Text.dropStart_eq_none_iff, Text.dropStart_eq_none_iff]

/-! ## Skipping -/

/-- A comment behind blanks and parentheses is skipped, and the search goes on
behind it. -/
theorem skipNoise_of_comment
    {text after : List Char}
    (found : afterAnyComment? (text.dropWhile isNoise) = some after) :
    skipNoise text = skipNoise after := by
  rw [skipNoise]
  split
  next other same =>
    rw [found] at same
    rw [Option.some.inj same]
  next absent =>
    rw [found] at absent
    cases absent

/-- Without a comment there, the search ends. -/
theorem skipNoise_of_no_comment
    {text : List Char}
    (absent : afterAnyComment? (text.dropWhile isNoise) = none) :
    skipNoise text = text.dropWhile isNoise := by
  rw [skipNoise]
  split
  next other found =>
    rw [absent] at found
    cases found
  next => rfl

theorem startsClean_nil : StartsClean [] where
  notBlank := nofun
  notParenthesis := nofun
  notLineComment := by decide
  notBlockComment := by decide

theorem skipNoise_of_startsClean
    {text : List Char}
    (clean : StartsClean text) :
    skipNoise text = text := by
  have stays : text.dropWhile isNoise = text := by
    cases text with
    | nil => rfl
    | cons c rest =>
        apply List.dropWhile_cons_of_neg
        rw [isNoise_eq_true_iff]
        rintro (isBlank | rfl)
        · exact absurd isBlank (by rw [clean.notBlank c rfl]; decide)
        · exact clean.notParenthesis rfl
  have absent : afterAnyComment? (text.dropWhile isNoise) = none := by
    rw [stays]
    exact afterAnyComment?_eq_none_iff.2
      ⟨clean.notLineComment, clean.notBlockComment⟩
  rw [skipNoise_of_no_comment absent, stays]

theorem skipNoise_cons
    {c : Char}
    (noisy : isNoise c = true)
    (rest : List Char) :
    skipNoise (c :: rest) = skipNoise rest := by
  have dropped : (c :: rest).dropWhile isNoise = rest.dropWhile isNoise :=
    List.dropWhile_cons_of_pos noisy
  cases found : afterAnyComment? (rest.dropWhile isNoise) with
  | some after =>
      rw [skipNoise_of_comment found]
      exact skipNoise_of_comment (dropped ▸ found)
  | none =>
      rw [skipNoise_of_no_comment found, ← dropped]
      exact skipNoise_of_no_comment (dropped ▸ found)

theorem skipNoise_comment
    {comment : List Char}
    (closed : Comment comment)
    (rest : List Char) :
    skipNoise (comment ++ rest) = skipNoise rest := by
  have stays : (comment ++ rest).dropWhile isNoise = comment ++ rest := by
    cases closed <;> rfl
  apply skipNoise_of_comment
  rw [stays]
  exact afterAnyComment?_eq_some_iff.2 (.inl ⟨comment, closed, rfl⟩)

theorem skipNoise_openComment
    {comment : List Char}
    (unclosed : OpenComment comment) :
    skipNoise comment = [] := by
  have stays : comment.dropWhile isNoise = comment := by
    cases unclosed <;> rfl
  have found : afterAnyComment? (comment.dropWhile isNoise) = some [] := by
    rw [stays]
    exact afterAnyComment?_eq_some_iff.2 (.inr ⟨unclosed, rfl⟩)
  rw [skipNoise_of_comment found, skipNoise_of_startsClean startsClean_nil]

/-- Noise in front of a text is skipped whatever the text is. -/
theorem skipNoise_append
    {noise : List Char}
    (skipped : Noise noise)
    (text : List Char) :
    skipNoise (noise ++ text) = skipNoise text := by
  induction skipped with
  | nil => rfl
  | blank isBlank _ inductionHypothesis =>
      have noisy := isNoise_eq_true_iff.2 (.inl isBlank)
      exact (skipNoise_cons noisy _).trans inductionHypothesis
  | parenthesis _ inductionHypothesis =>
      have noisy := isNoise_eq_true_iff.2 (.inr rfl)
      exact (skipNoise_cons noisy _).trans inductionHypothesis
  | comment closed _ inductionHypothesis =>
      rw [List.append_assoc, skipNoise_comment closed]
      exact inductionHypothesis

/-- Where the search ends, nothing more can be skipped. -/
theorem startsClean_dropWhile
    {text : List Char}
    (absent : afterAnyComment? (text.dropWhile isNoise) = none) :
    StartsClean (text.dropWhile isNoise) := by
  obtain ⟨noLine, noBlock⟩ := afterAnyComment?_eq_none_iff.1 absent
  have quiet (c : Char) (first : (text.dropWhile isNoise).head? = some c) :
      isNoise c = false := by
    have stopped := List.head?_dropWhile_not isNoise text
    rwa [first] at stopped
  exact
    { notBlank := by
        intro c first
        exact (Bool.or_eq_false_iff.1 (quiet c first)).1
      notParenthesis := by
        intro first
        exact absurd (quiet _ first) (by decide)
      notLineComment := noLine
      notBlockComment := noBlock }

/-- What is skipped is noise, by induction on the rounds of the search. -/
theorem skips_skipNoise (text : List Char) : Skips text (skipNoise text) := by
  fun_induction skipNoise text with
  | case1 text after found inductionHypothesis =>
      have behind : Skips (text.dropWhile isNoise) (skipNoise after) := by
        rcases afterAnyComment?_eq_some_iff.1 found with
          ⟨comment, closed, split⟩ | ⟨unclosed, rfl⟩
        · rw [split, ← List.append_nil comment]
          exact .append (.comment closed .nil) inductionHypothesis
        · rw [skipNoise_of_startsClean startsClean_nil]
          exact .unclosed .nil unclosed
      have skips := behind.append (noise_takeWhile text)
      rwa [List.takeWhile_append_dropWhile] at skips
  | case2 text absent =>
      have skips :=
        Skips.closed (noise_takeWhile text) (startsClean_dropWhile absent)
      rwa [List.takeWhile_append_dropWhile] at skips

/-- The rest of a text is what is left of it once all of the noise at its start
is taken away. -/
theorem skipNoise_eq_iff {text rest : List Char} :
    skipNoise text = rest ↔ Skips text rest := by
  constructor
  · rintro rfl
    exact skips_skipNoise text
  · intro skips
    cases skips with
    | closed skipped clean =>
        rw [skipNoise_append skipped, skipNoise_of_startsClean clean]
    | unclosed skipped unclosed =>
        rw [skipNoise_append skipped, skipNoise_openComment unclosed]

/-- One round of the search for the first keyword ends behind a comment. -/
def Round (text after : List Char) : Prop :=
  afterAnyComment? (text.dropWhile isNoise) = some after

/-- After some rounds there is no comment left to skip. -/
theorem exists_last_round (text : List Char) :
    ∃ last,
      Relation.ReflTransGen Round text last ∧
        (∀ after, ¬Round last after) ∧
        skipNoise text = last.dropWhile isNoise := by
  fun_induction skipNoise text with
  | case1 text after found inductionHypothesis =>
      obtain ⟨last, rounds, ended, rest⟩ := inductionHypothesis
      exact ⟨last, .head found rounds, ended, rest⟩
  | case2 text absent =>
      refine ⟨text, .refl, ?_, rfl⟩
      intro after found
      rw [Round, absent] at found
      cases found

/-! ## Capitals -/

/-- The same character, but for the case of a letter. -/
def AlikeUpToCase (c d : Char) : Prop :=
  d = c ∨ d = c.toUpper ∨ d = c.toLower

instance (c d : Char) : Decidable (AlikeUpToCase c d) :=
  inferInstanceAs (Decidable (_ ∨ _))

/-- Apart from ASCII, nothing is a letter or has a case. -/
theorem isAscii_or_caseless (c : Char) :
    (∃ n : Fin 128, c = Char.ofNat n) ∨
      c.isAlpha = false ∧ c.toUpper = c ∧ c.toLower = c := by
  by_cases ascii : c.toNat < 128
  · exact .inl ⟨⟨c.toNat, ascii⟩, (Char.ofNat_toNat c).symm⟩
  · -- Every range of letters ends before the bound.
    have beyond : 128 ≤ c.val.toNat := Nat.le_of_not_lt ascii
    refine .inr ⟨?_, ?_, ?_⟩
    · delta Char.isAlpha Char.isUpper Char.isLower
      simp only [Bool.or_eq_false_iff, Bool.and_eq_false_iff,
        decide_eq_false_iff_not, ge_iff_le, UInt32.le_iff_toNat_le]
      change ¬(65 ≤ c.val.toNat ∧ c.val.toNat ≤ 90) ∧
        (¬97 ≤ c.val.toNat ∨ ¬c.val.toNat ≤ 122)
      omega
    · delta Char.toUpper
      rw [dif_neg]
      rintro ⟨-, small⟩
      have bound : c.val.toNat ≤ 122 := small
      omega
    · delta Char.toLower
      rw [dif_neg]
      rintro ⟨-, small⟩
      have bound : c.val.toNat ≤ 90 := small
      omega

theorem toUpper_toUpper (c : Char) : c.toUpper.toUpper = c.toUpper := by
  rcases isAscii_or_caseless c with ⟨n, rfl⟩ | ⟨-, same, -⟩
  · revert n
    decide
  · rw [same, same]

theorem toUpper_toLower (c : Char) : c.toLower.toUpper = c.toUpper := by
  rcases isAscii_or_caseless c with ⟨n, rfl⟩ | ⟨-, -, same⟩
  · revert n
    decide
  · rw [same]

/-- Capitals are letters, and letters have capitals. -/
theorem isAlpha_toUpper (c : Char) : c.toUpper.isAlpha = c.isAlpha := by
  rcases isAscii_or_caseless c with ⟨n, rfl⟩ | ⟨-, same, -⟩
  · revert n
    decide
  · rw [same]

/-- Texts that are alike up to the case of letters are equal in capitals. -/
theorem map_toUpper_eq_of_alike
    {left right : List Char}
    (alike : List.Forall₂ AlikeUpToCase left right) :
    right.map Char.toUpper = left.map Char.toUpper := by
  induction alike with
  | nil => rfl
  | @cons c d _ _ first _ inductionHypothesis =>
      have same : d.toUpper = c.toUpper := by
        rcases first with rfl | rfl | rfl
        · rfl
        · exact toUpper_toUpper c
        · exact toUpper_toLower c
      rw [List.map_cons, List.map_cons, same, inductionHypothesis]

theorem isBlank_eq_false_of_isAlpha
    {c : Char}
    (letter : c.isAlpha = true) :
    Text.isBlank c = false := by
  rcases isAscii_or_caseless c with ⟨n, rfl⟩ | ⟨noLetter, -, -⟩
  · revert n
    decide
  · rw [noLetter] at letter
    cases letter

/-- Only letters have a case. -/
theorem toUpper_eq_or_isAlpha (c : Char) :
    c.toUpper = c ∨ c.isAlpha = true ∧ c.toUpper.isAlpha = true := by
  rcases isAscii_or_caseless c with ⟨n, rfl⟩ | ⟨-, same, -⟩
  · revert n
    decide
  · exact .inl same

/-- A character that is no letter is the capital of itself only. -/
theorem toUpper_eq_iff
    {m : Char}
    (noLetter : m.isAlpha = false)
    (c : Char) :
    c.toUpper = m ↔ c = m := by
  rcases toUpper_eq_or_isAlpha c with same | ⟨letter, capital⟩
  · rw [same]
  · constructor
    · rintro rfl
      rw [noLetter] at capital
      cases capital
    · rintro rfl
      rw [noLetter] at letter
      cases letter

/-- What is noise has no case. -/
theorem isNoise_toUpper (c : Char) : isNoise c.toUpper = isNoise c := by
  have parenthesis := toUpper_eq_iff (m := '(') (by decide) c
  have blank : Text.isBlank c.toUpper = Text.isBlank c := by
    rcases toUpper_eq_or_isAlpha c with same | ⟨letter, capital⟩
    · rw [same]
    · rw [isBlank_eq_false_of_isAlpha letter,
        isBlank_eq_false_of_isAlpha capital]
  rw [Bool.eq_iff_iff, isNoise_eq_true_iff, isNoise_eq_true_iff, blank,
    parenthesis]

/-- The marks of comments have no letters, so comments are found in capitals at
the same places. -/
theorem afterComment?_map_toUpper
    {mark ending : List Char}
    (noLetters : (mark ++ ending).any Char.isAlpha = false)
    (text : List Char) :
    afterComment? mark ending (text.map Char.toUpper) =
      (afterComment? mark ending text).map (List.map Char.toUpper) := by
  have kept (m : Char) (member : m ∈ mark ++ ending) :
      ∀ c : Char, c.toUpper = m ↔ c = m :=
    toUpper_eq_iff
      (Bool.eq_false_iff.2 (List.any_eq_false.1 noLetters m member))
  have keptMark (m : Char) (member : m ∈ mark) :=
    kept m (List.mem_append_left ending member)
  have keptEnding (m : Char) (member : m ∈ ending) :=
    kept m (List.mem_append_right mark member)
  rw [afterComment?, afterComment?, Text.dropStart_map keptMark]
  cases Text.dropStart mark text with
  | none => rfl
  | some comment =>
      simp only [Option.map_some, Text.cutAt_map keptEnding]
      cases Text.cutAt ending comment <;> rfl

theorem afterAnyComment?_map_toUpper (text : List Char) :
    afterAnyComment? (text.map Char.toUpper) =
      (afterAnyComment? text).map (List.map Char.toUpper) := by
  rw [afterAnyComment?, afterComment?_map_toUpper rfl,
    afterComment?_map_toUpper rfl, afterAnyComment?, Option.map_or]

/-- The same noise is skipped in capitals. -/
theorem skipNoise_map_toUpper (text : List Char) :
    skipNoise (text.map Char.toUpper) = (skipNoise text).map Char.toUpper := by
  have dropped (text : List Char) :
      (text.map Char.toUpper).dropWhile isNoise =
        (text.dropWhile isNoise).map Char.toUpper := by
    rw [List.dropWhile_map, show isNoise ∘ Char.toUpper = isNoise from
      funext isNoise_toUpper]
  fun_induction skipNoise text with
  | case1 text after found inductionHypothesis =>
      rw [← inductionHypothesis]
      apply skipNoise_of_comment
      rw [dropped, afterAnyComment?_map_toUpper, found]
      rfl
  | case2 text absent =>
      rw [← dropped]
      apply skipNoise_of_no_comment
      rw [dropped, afterAnyComment?_map_toUpper, absent]
      rfl

theorem keyword_map_toUpper (text : List Char) :
    keyword (text.map Char.toUpper) = keyword text := by
  have letters : Char.isAlpha ∘ Char.toUpper = Char.isAlpha :=
    funext isAlpha_toUpper
  have twice : Char.toUpper ∘ Char.toUpper = Char.toUpper :=
    funext toUpper_toUpper
  rw [keyword, keyword, List.takeWhile_map, letters, List.map_map, twice]

/-! ## The kind of a statement -/

/-- The letters that follow the noise at the start of a text. -/
def firstWord (text : String) : List Char :=
  (skipNoise text.toList).takeWhile Char.isAlpha

/-- The kind of a statement is told by its first word. -/
theorem detect_eq_of_firstWord
    {text other : String}
    (alike :
      List.Forall₂ AlikeUpToCase (firstWord text) (firstWord other)) :
    detect other = detect text :=
  congrArg (fun letters => ofKeyword (String.ofList letters))
    (map_toUpper_eq_of_alike alike)

/-- Noise in front of a statement does not change its kind. -/
theorem detect_append
    {noise : String}
    (skipped : Noise noise.toList)
    (text : String) :
    detect (noise ++ text) = detect text := by
  rw [detect, String.toList_append, skipNoise_append skipped]
  rfl

theorem detect_eq_of_alike
    {text other : String}
    (alike : List.Forall₂ AlikeUpToCase text.toList other.toList) :
    detect other = detect text := by
  have capitals := map_toUpper_eq_of_alike alike
  rw [detect, ← keyword_map_toUpper, ← skipNoise_map_toUpper, capitals,
    skipNoise_map_toUpper, keyword_map_toUpper]
  rfl

/-- The search for the first keyword ends, and it skips the noise at the start
of the text and nothing else.  The kind of a statement depends on the word that
is found there in capitals or not, so it does not change with noise in front of
the text, or with the case of letters. -/
theorem detect_skips_noise (text : String) :
    (∃ last,
      Relation.ReflTransGen Round text.toList last ∧
        (∀ after, ¬Round last after) ∧
        skipNoise text.toList = last.dropWhile isNoise) ∧
      (∀ rest, skipNoise text.toList = rest ↔ Skips text.toList rest) ∧
      (∀ other,
        List.Forall₂ AlikeUpToCase (firstWord text) (firstWord other) →
          detect other = detect text) ∧
      (∀ noise : String,
        Noise noise.toList → detect (noise ++ text) = detect text) ∧
      ∀ other : String,
        List.Forall₂ AlikeUpToCase text.toList other.toList →
          detect other = detect text :=
  ⟨exists_last_round text.toList, fun _ => skipNoise_eq_iff,
    fun _ => detect_eq_of_firstWord,
    fun _ skipped => detect_append skipped text, fun _ => detect_eq_of_alike⟩

/-- A comment opener inside of another comment is part of that comment. -/
theorem detect_skips_noise_select :
    Noise "-- /*\n(/* -- */".toList ∧
      List.Forall₂ AlikeUpToCase (firstWord "SELECT 1") (firstWord "select*") ∧
      List.Forall₂ AlikeUpToCase "SELECT 1".toList "Select 1".toList ∧
      detect "SELECT 1" = select ∧
      detect "select*" = select ∧
      detect ("-- /*\n(/* -- */" ++ "SELECT 1") = select ∧
      detect "Select 1" = select := by
  have split :
      "-- /*\n(/* -- */".toList =
        '-' :: '-' :: ([' ', '/', '*'] ++ ['\n']) ++
          '(' :: ('/' :: '*' :: ([' ', '-', '-', ' '] ++ ['*', '/']) ++ []) := by
    decide +kernel
  have noise : Noise "-- /*\n(/* -- */".toList := by
    rw [split]
    exact .comment (.line (by decide))
      (.parenthesis (.comment (.block (by decide)) .nil))
  have sameWord :
      List.Forall₂ AlikeUpToCase (firstWord "SELECT 1")
        (firstWord "select*") := by
    decide +kernel
  have sameText :
      List.Forall₂ AlikeUpToCase "SELECT 1".toList "Select 1".toList := by
    decide +kernel
  have query : detect "SELECT 1" = select := by decide +kernel
  obtain ⟨-, -, byWord, behindNoise, byCase⟩ := detect_skips_noise "SELECT 1"
  exact ⟨noise, sameWord, sameText, query, (byWord _ sameWord).trans query,
    (behindNoise _ noise).trans query, (byCase _ sameText).trans query⟩

end StatementKind
end TypedSql
