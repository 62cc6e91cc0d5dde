import Mathlib.Data.List.FinRange
import TypedSql.Proofs.Catalog.Script
import TypedSql.Statement.Compilation

/-!
# Independence of statements

The statements of a document are compiled one after the other over a single
connection.  Since a scripted connection answers in the same way however often
it was asked, each of them comes to what it would come to by itself, whether
or not others fail, and the record gets the queries of each of them in turn.
-/

namespace TypedSql
namespace Statement

open Catalog (Driver Script)

/-- The statements of a document in another order. -/
def reorder
    (chains : List Chain)
    (order : Equiv.Perm (Fin chains.length)) :
    List Chain :=
  List.ofFn (chains.get ∘ order)

/-- Reordering keeps all statements. -/
theorem reorder_perm
    (chains : List Chain)
    (order : Equiv.Perm (Fin chains.length)) :
    (reorder chains order).Perm chains := by
  have permuted := order.ofFn_comp_perm chains.get
  rwa [List.ofFn_get] at permuted

/-- Each place gets the statement that the order says. -/
theorem getElem?_reorder
    (chains : List Chain)
    (order : Equiv.Perm (Fin chains.length))
    (place : Fin chains.length) :
    (reorder chains order)[(place : Nat)]? = chains[(order place : Nat)]? := by
  rw [reorder, List.getElem?_ofFn, dif_pos place.isLt,
    List.getElem?_eq_getElem (order place).isLt]
  rfl

section Together

variable
  (driver : Driver)
  (document : String)
  (script : Script)

/-- What a statement comes to when it is compiled by itself. -/
def resultAlone (chain : Chain) : Except Failure Compiled :=
  ((compile driver document chain).run Script.connection script).1

/-- The queries that a statement asks when it is compiled by itself. -/
def queriesAlone (chain : Chain) : List String :=
  ((compile driver document chain).exchanges Script.connection script).map
    (·.query)

/-- Statements that are compiled one after the other have the results that they
have alone, and the record holds all of their queries. -/
theorem run_compileAll (chains : List Chain) :
    (compileAll driver document chains).run Script.connection script =
      (chains.map (resultAlone driver document script),
        script.recordAll
          (chains.flatMap (queriesAlone driver document script))) := by
  rw [Script.run_connection, compileAll, Script.value_mapM, Script.queries_mapM]
  unfold resultAlone queriesAlone
  simp only [Script.run_connection, Script.map_query_exchanges]

/-- Every statement of a document comes to what it comes to by itself, and the
record gets the queries that the statements ask by themselves, in order.  In
another order the statements have the same results, and nothing else changes
but the order in the record. -/
theorem compileAll_independent (chains : List Chain) :
    (compileAll driver document chains).run Script.connection script =
        (chains.map (resultAlone driver document script),
          script.recordAll
            (chains.flatMap (queriesAlone driver document script))) ∧
      ∀ order : Equiv.Perm (Fin chains.length),
        (∀ place : Fin chains.length,
          ((compileAll driver document (reorder chains order)).run
              Script.connection script).1[(place : Nat)]? =
            ((compileAll driver document chains).run Script.connection
              script).1[(order place : Nat)]?) ∧
          ∃ issued,
            ((compileAll driver document (reorder chains order)).run
                Script.connection script).2 =
              { ((compileAll driver document chains).run Script.connection
                  script).2 with issued } ∧
              issued.Perm
                ((compileAll driver document chains).run Script.connection
                  script).2.issued := by
  refine ⟨run_compileAll driver document script chains, fun order => ⟨?_, ?_⟩⟩
  · intro place
    rw [run_compileAll, run_compileAll, List.getElem?_map, List.getElem?_map,
      getElem?_reorder]
  · rw [run_compileAll, run_compileAll]
    exact ⟨_, rfl, ((reorder_perm chains order).flatMap_right _).append_left _⟩

end Together

end Statement
end TypedSql
