import TypedSql.Text.Blank
import TypedSql.Text.Search

/-!
# Kinds of statements

The kind of a statement is told by the first keyword of its text, behind
blanks, opening parentheses and comments.  Only queries have result columns.
-/

namespace TypedSql

/-- What a statement does. -/
inductive StatementKind where
  | select
  | insert
  | update
  | delete
  | replace
  | other
  deriving DecidableEq, Repr

namespace StatementKind

/-- The name of the kind in reports. -/
def name : StatementKind → String
  | select => "select"
  | insert => "insert"
  | update => "update"
  | delete => "delete"
  | replace => "replace"
  | other => "other"

/-- A character that may stand before the first keyword. -/
def isNoise (c : Char) : Bool :=
  Text.isBlank c || c == '('

/-- What follows a comment that stands at the start of a text.  A comment
without an end takes all of the rest. -/
def afterComment? (mark ending text : List Char) : Option (List Char) :=
  (Text.dropStart mark text).map fun comment =>
    match Text.cutAt ending comment with
    | some (_, after) => after
    | none => []

theorem length_lt_of_afterComment
    {mark ending text after : List Char}
    (nonempty : mark ≠ [])
    (found : afterComment? mark ending text = some after) :
    after.length < text.length := by
  obtain ⟨comment, opened, closed⟩ := Option.map_eq_some_iff.1 found
  have parts := congrArg List.length (Text.dropStart_eq_some_iff.1 opened)
  have positive := List.length_pos_iff.2 nonempty
  have notLonger : after.length ≤ comment.length := by
    split at closed
    next before rest cut =>
      have whole := congrArg List.length (Text.eq_append_of_cutAt cut)
      simp only [List.length_append] at whole
      rw [← closed]
      omega
    next => simp [← closed]
  simp only [List.length_append] at parts
  omega

/-- What follows a comment of one of the two forms. -/
def afterAnyComment? (text : List Char) : Option (List Char) :=
  (afterComment? ['-', '-'] ['\n'] text).or
    (afterComment? ['/', '*'] ['*', '/'] text)

theorem length_lt_of_afterAnyComment
    {text after : List Char}
    (found : afterAnyComment? text = some after) :
    after.length < text.length := by
  rcases Option.or_eq_some_iff.1 found with line | ⟨_, block⟩
  · exact length_lt_of_afterComment (List.cons_ne_nil _ _) line
  · exact length_lt_of_afterComment (List.cons_ne_nil _ _) block

/-- The text of a statement from its first keyword on. -/
def skipNoise (text : List Char) : List Char :=
  match _skipped : afterAnyComment? (text.dropWhile isNoise) with
  | some after => skipNoise after
  | none => text.dropWhile isNoise
termination_by text.length
decreasing_by
  exact Nat.lt_of_lt_of_le (length_lt_of_afterAnyComment _skipped)
    (List.dropWhile_sublist isNoise).length_le

/-- The kind that a keyword in capitals tells.  A query may start with the
definition of common table expressions. -/
def ofKeyword : String → StatementKind
  | "SELECT" | "WITH" => select
  | "INSERT" => insert
  | "UPDATE" => update
  | "DELETE" => delete
  | "REPLACE" => replace
  | _ => other

/-- The letters at the start of a text, in capitals. -/
def keyword (text : List Char) : String :=
  String.ofList ((text.takeWhile Char.isAlpha).map Char.toUpper)

/-- The kind of a statement. -/
def detect (text : String) : StatementKind :=
  ofKeyword (keyword (skipNoise text.toList))

end StatementKind
end TypedSql
