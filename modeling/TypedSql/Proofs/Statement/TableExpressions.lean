import TypedSql.Proofs.Catalog.Soundness
import TypedSql.Proofs.Statement.Compilation
import TypedSql.Proofs.Statement.LeadingNoise

/-!
# Common table expressions

The kind of a statement is told by its first word alone.  So a statement that
starts with the definition of a common table expression counts as a query, no
matter what the statement behind the definition does, and it is probed like
one.
-/

namespace TypedSql
namespace StatementKind

/-! ## First words -/

/-- A text that starts with a letter has nothing in front of its first
keyword. -/
theorem startsClean_of_letter
    {c : Char}
    (letter : c.isAlpha = true)
    (rest : List Char) :
    StartsClean (c :: rest) where
  notBlank := by
    rintro _ ⟨⟩
    exact isBlank_eq_false_of_isAlpha letter
  notParenthesis := by
    rintro ⟨⟩
    exact absurd letter (by decide)
  notLineComment opened := by
    obtain ⟨rfl, -⟩ := List.cons_prefix_cons.1 opened
    exact absurd letter (by decide)
  notBlockComment opened := by
    obtain ⟨rfl, -⟩ := List.cons_prefix_cons.1 opened
    exact absurd letter (by decide)

/-- Nothing behind the first word of a text has an influence on its kind. -/
theorem detect_of_word
    {text word rest : List Char}
    (split : text = word ++ rest)
    (nonempty : word ≠ [])
    (letters : ∀ c ∈ word, c.isAlpha = true)
    (ended : ∀ c, rest.head? = some c → c.isAlpha = false) :
    detect (String.ofList text) =
      ofKeyword (String.ofList (word.map Char.toUpper)) := by
  have clean : StartsClean text := by
    obtain ⟨c, others, rfl⟩ := List.exists_cons_of_ne_nil nonempty
    rw [split]
    exact startsClean_of_letter (letters c List.mem_cons_self) _
  have taken : text.takeWhile Char.isAlpha = word := by
    have stopped : rest.takeWhile Char.isAlpha = [] := by
      cases rest with
      | nil => rfl
      | cons c others =>
          rw [List.takeWhile_cons_of_neg]
          simp [ended c rfl]
    rw [split, List.takeWhile_append_of_pos letters, stopped, List.append_nil]
  rw [detect, String.toList_ofList, skipNoise_of_startsClean clean, keyword,
    taken]

/-! ## Definitions in front of a statement -/

/-- A statement behind the definition of one common table expression. -/
def behindDefinition (name body statement : String) : String :=
  "WITH " ++ name ++ " AS (" ++ body ++ ") " ++ statement

/-- A body in which nothing is quoted, nested or commented. -/
def IsPlainBody (body : String) : Prop :=
  (∀ c ∈ "()'\"`#".toList, c ∉ body.toList) ∧
    ¬['-', '-'] <:+: body.toList ∧ ¬['/', '*'] <:+: body.toList

/-- The first word decides, and it is the one that introduces the definition. -/
theorem detect_behindDefinition (name body statement : String) :
    detect (behindDefinition name body statement) = select := by
  have split :
      (behindDefinition name body statement).toList =
        ['W', 'I', 'T', 'H'] ++
          (' ' :: (name ++ " AS (" ++ body ++ ") " ++ statement).toList) := by
    simp [behindDefinition]
  have kind :=
    detect_of_word split (List.cons_ne_nil _ _)
      (List.all_eq_true.1 (by decide)) (by
        rintro _ ⟨⟩
        rfl)
  rw [String.ofList_toList] at kind
  rw [kind]
  decide +kernel

/-- The statement behind a definition does not decide. -/
theorem not_detect_eq_behindDefinition :
    ¬∀ name body statement : String,
      (∀ c ∈ name.toList, c.isAlpha = true) →
        IsPlainBody body →
        detect statement ∈ [select, update, delete] →
        detect (behindDefinition name body statement) = detect statement := by
  intro same
  have plain : IsPlainBody "SELECT 1" :=
    ⟨by simp, by decide +kernel⟩
  have contradiction := same "t" "SELECT 1" "DELETE FROM u"
    (List.all_eq_true.1 (by decide)) plain (by decide +kernel)
  rw [detect_behindDefinition] at contradiction
  exact absurd contradiction (by decide +kernel)

end StatementKind

namespace Statement

open Catalog (Connection Driver)
open StatementKind (behindDefinition detect detect_behindDefinition)

/-- A statement behind a definition is a query, whatever its own kind is, and
the database describes its probe. -/
theorem probes_behind_definition (name body statement : String) :
    detect (behindDefinition name body statement) = .select ∧
      (detect (behindDefinition name body statement) = detect statement ↔
        detect statement = .select) ∧
      ∀ (driver : Driver) (document : String) (chain : Chain) (probe : String),
        chain.final = .ok (behindDefinition name body statement) →
          chain.probe = .ok probe →
          ∀ {σ : Type} (connection : Connection σ) (state : σ),
            (compile driver document chain).exchanges connection state =
              [.described probe (connection.describe probe state).1] := by
  have query := detect_behindDefinition name body statement
  refine ⟨query, ?_, ?_⟩
  · rw [query]
    exact eq_comm
  · intro driver document chain probe assembled probed σ connection state
    have probes : probes chain = [probe] := by
      simp only [Statement.probes, assembled, probed, if_pos query]
    rw [exchanges_compile, probes]
    rfl

/-- A deletion behind a definition. -/
def purgeText : String :=
  behindDefinition "t" "SELECT 1" "DELETE FROM u"

/-- The statement that consists of this text. -/
def purge : Chain where
  name := "Purge"
  hints := ∅
  position := .start
  directives := [.ofTexts purgeText purgeText]
  arguments := []

/-- A deletion behind a definition is probed, though by itself it would not
be. -/
theorem probes_purge :
    purge.final = .ok purgeText ∧
      purge.probe = .ok purgeText ∧
      detect "DELETE FROM u" = .delete ∧
      detect purgeText = .select ∧
      (compile (Catalog.MySql.driver .mySql) "app.xml" purge).exchanges
          Catalog.staffConnection [] =
        [.described purgeText
          (Catalog.staffConnection.describe purgeText []).1] := by
  have joined : String.join [purgeText] = purgeText := by decide +kernel
  have assembled : purge.final = .ok purgeText := congrArg Except.ok joined
  have probed : purge.probe = .ok purgeText := congrArg Except.ok joined
  obtain ⟨query, -, trips⟩ :=
    probes_behind_definition "t" "SELECT 1" "DELETE FROM u"
  exact ⟨assembled, probed, by decide +kernel, query,
    trips (Catalog.MySql.driver .mySql) "app.xml" purge purgeText assembled
      probed Catalog.staffConnection []⟩

end Statement
end TypedSql
