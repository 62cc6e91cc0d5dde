import TypedSql.Catalog.Driver

/-!
# Quoted identifiers

A quoted identifier is read from its opening mark up to the first mark behind
it that is not doubled.  What is read is the identifier that was quoted, as
long as the text behind it does not start with a mark, so no identifier can
end its own quotation.
-/

namespace TypedSql
namespace Dialect

/-! ## Reading -/

/-- The characters up to the first mark that is not doubled, with one mark for
every doubled one, and what follows the mark that ends them. -/
def readQuoted : List Char → Option (List Char × List Char)
  | [] => none
  | [c] => if c = quoteMark then some ([], []) else none
  | c :: d :: rest =>
    if c = quoteMark then
      if d = quoteMark then
        (readQuoted rest).map fun (identifier, after) =>
          (quoteMark :: identifier, after)
      else
        some ([], d :: rest)
    else
      (readQuoted (d :: rest)).map fun (identifier, after) =>
        (c :: identifier, after)

/-- The quoted identifier at the start of a text, and what follows it. -/
def readIdentifier : List Char → Option (String × List Char)
  | [] => none
  | c :: rest =>
    if c = quoteMark then
      (readQuoted rest).map fun (identifier, after) =>
        (String.ofList identifier, after)
    else
      none

theorem readQuoted_mark
    {rest : List Char}
    (ends : rest.head? ≠ some quoteMark) :
    readQuoted (quoteMark :: rest) = some ([], rest) := by
  cases rest with
  | nil => rfl
  | cons d others =>
      have single : d ≠ quoteMark := fun same => ends (congrArg some same)
      rw [readQuoted, if_pos rfl, if_neg single]

theorem readQuoted_cons_of_ne
    {c : Char}
    (plain : c ≠ quoteMark)
    (rest : List Char) :
    readQuoted (c :: rest) =
      (readQuoted rest).map fun (identifier, after) =>
        (c :: identifier, after) := by
  cases rest with
  | nil => exact if_neg plain
  | cons d others => rw [readQuoted, if_neg plain]

/-- Doubled marks are read as single ones. -/
theorem readQuoted_doubleMarks
    (identifier : List Char)
    {rest : List Char}
    (ends : rest.head? ≠ some quoteMark) :
    readQuoted (doubleMarks identifier ++ quoteMark :: rest) =
      some (identifier, rest) := by
  induction identifier with
  | nil => exact readQuoted_mark ends
  | cons c others inductionHypothesis =>
      rw [doubleMarks_cons]
      split
      next isMark =>
        subst isMark
        change readQuoted (quoteMark :: quoteMark ::
          (doubleMarks others ++ quoteMark :: rest)) = _
        rw [readQuoted, if_pos rfl, if_pos rfl, inductionHypothesis]
        rfl
      next plain =>
        change readQuoted (c :: (doubleMarks others ++ quoteMark :: rest)) = _
        rw [readQuoted_cons_of_ne plain, inductionHypothesis]
        rfl

/-- Only what was quoted is read. -/
theorem eq_doubleMarks_of_readQuoted
    {text identifier rest : List Char}
    (read : readQuoted text = some (identifier, rest)) :
    text = doubleMarks identifier ++ quoteMark :: rest ∧
      rest.head? ≠ some quoteMark := by
  fun_induction readQuoted text generalizing identifier with
  | case1 => cases read
  | case2 => cases read; exact ⟨rfl, nofun⟩
  | case3 => cases read
  | case4 others inductionHypothesis =>
      obtain ⟨⟨found, after⟩, readOthers, parts⟩ :=
        Option.map_eq_some_iff.1 read
      cases parts
      obtain ⟨split, ends⟩ := inductionHypothesis readOthers
      exact ⟨congrArg (quoteMark :: quoteMark :: ·) split, ends⟩
  | case5 d others single =>
      cases read
      exact ⟨rfl, fun same => single (Option.some.inj same)⟩
  | case6 c d others plain inductionHypothesis =>
      obtain ⟨⟨found, after⟩, readOthers, parts⟩ :=
        Option.map_eq_some_iff.1 read
      cases parts
      obtain ⟨split, ends⟩ := inductionHypothesis readOthers
      rw [doubleMarks_cons, if_neg plain]
      exact ⟨congrArg (c :: ·) split, ends⟩

/-- Reading accepts what quoting writes, in front of everything but another
mark. -/
theorem readIdentifier_eq_some_iff
    (dialect : Dialect)
    {text rest : List Char}
    {identifier : String} :
    readIdentifier text = some (identifier, rest) ↔
      text = (dialect.quote identifier).toList ++ rest ∧
        rest.head? ≠ some quoteMark := by
  have written :
      (dialect.quote identifier).toList ++ rest =
        quoteMark :: (doubleMarks identifier.toList ++ quoteMark :: rest) := by
    rw [quote_eq, String.toList_ofList]
    simp
  rw [written]
  constructor
  · intro read
    cases text with
    | nil => cases read
    | cons c others =>
        rw [readIdentifier] at read
        split at read
        next isMark =>
          obtain ⟨⟨found, after⟩, quoted, parts⟩ :=
            Option.map_eq_some_iff.1 read
          cases parts
          obtain ⟨split, ends⟩ := eq_doubleMarks_of_readQuoted quoted
          rw [String.toList_ofList, isMark, split]
          exact ⟨rfl, ends⟩
        next => cases read
  · rintro ⟨rfl, ends⟩
    rw [readIdentifier, if_pos rfl, readQuoted_doubleMarks _ ends]
    exact congrArg (fun found => some (found, rest)) String.ofList_toList

/-- Different identifiers are quoted differently. -/
theorem quote_injective (dialect : Dialect) :
    Function.Injective dialect.quote := by
  intro left right equal
  have readBack (identifier : String) :
      readIdentifier (dialect.quote identifier).toList =
        some (identifier, []) :=
    (readIdentifier_eq_some_iff dialect).2 ⟨(List.append_nil _).symm, nofun⟩
  have same := readBack left
  rw [equal, readBack right] at same
  cases same
  rfl

/-- All dialects of the family quote alike. -/
theorem quote_congr (left right : Dialect) : left.quote = right.quote := by
  funext identifier
  rw [quote_eq, quote_eq]

end Dialect

namespace Catalog

/-- The table can be told from the query for its columns. -/
theorem columnsQuery_injective : Function.Injective columnsQuery := by
  intro left right equal
  exact (String.append_right_inj _).1 equal

end Catalog

/-! ## Unambiguous quotations -/

namespace Dialect

open Catalog (columnsQuery columnsQuery_injective)

/-- A quoted identifier is read back as it was, and all of the text behind it
is left, unless that starts with another mark.  So different identifiers have
different quotations, and different tables are asked for their columns by
different queries. -/
theorem quote_unambiguous
    (dialect : Dialect)
    (identifier : String)
    {rest : String}
    (ends : rest.toList.head? ≠ some quoteMark) :
    readIdentifier (dialect.quote identifier ++ rest).toList =
        some (identifier, rest.toList) ∧
      Function.Injective dialect.quote ∧
      ∀ table other : String, table ≠ other →
        columnsQuery (dialect.quote table) ≠
          columnsQuery (dialect.quote other) := by
  refine ⟨?_, dialect.quote_injective, ?_⟩
  · rw [String.toList_append]
    exact (readIdentifier_eq_some_iff dialect).2 ⟨rfl, ends⟩
  · intro table other differ same
    exact differ (dialect.quote_injective (columnsQuery_injective same))

/-- Marks at both ends of an identifier do not end its quotation. -/
theorem quote_unambiguous_marked :
    ".id".toList.head? ≠ some quoteMark ∧
      tiDb.quote "\x60a\x60\x60" = "\x60\x60\x60a\x60\x60\x60\x60\x60" ∧
      readIdentifier (tiDb.quote "\x60a\x60\x60" ++ ".id").toList =
        some ("\x60a\x60\x60", ".id".toList) ∧
      Function.Injective tiDb.quote ∧
      ∀ table other : String, table ≠ other →
        columnsQuery (tiDb.quote table) ≠ columnsQuery (tiDb.quote other) :=
  have ends : ".id".toList.head? ≠ some quoteMark := by decide +kernel
  ⟨ends, by decide +kernel, quote_unambiguous tiDb "\x60a\x60\x60" ends⟩

end Dialect
end TypedSql
