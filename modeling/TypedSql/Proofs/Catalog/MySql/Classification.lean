import Mathlib.Data.List.Basic
import TypedSql.Catalog.MySql.Classification

/-!
# Classification of rendered types

The type name that the server renders and the unsigned flag declare the
canonical type of a column.  A column that may be NULL decodes into a wrapper,
whose width only the type name tells, and another one into a type of its own
width; both are classified alike.  An unsigned column may be told by its flag
or by the mark in its type name.
-/

namespace TypedSql
namespace Catalog
namespace MySql

/-! ## Rendered type names -/

/-- A rendered type name stands for a bare name, tells whether the column is a
single digit wide, and whether it carries the unsigned mark. -/
inductive Renders : String → String → Bool → Bool → Prop where
  | oneWide : Renders "BOOLEAN" "TINYINT" true false
  | marked (bare : String) : Renders (bare ++ unsignedMark) bare false true
  | plain
      {rendered : String}
      (notBoolean : rendered ≠ "BOOLEAN")
      (unmarked : ∀ bare, rendered ≠ bare ++ unsignedMark) :
      Renders rendered rendered false false

/-- What is left of a name without the mark of unsigned numbers is the name in
front of it. -/
theorem isSuffixOf?_unsignedMark_eq_some_iff
    {rendered : String}
    {bare : List Char} :
    unsignedMark.toList.isSuffixOf? rendered.toList = some bare ↔
      rendered = String.ofList bare ++ unsignedMark := by
  rw [List.isSuffixOf?_eq_some_iff_append_eq, ← String.toList_inj,
    String.toList_append, String.toList_ofList, eq_comm]

theorem isSuffixOf?_unsignedMark_eq_none_iff {rendered : String} :
    unsignedMark.toList.isSuffixOf? rendered.toList = none ↔
      ∀ bare, rendered ≠ bare ++ unsignedMark := by
  simp only [Option.eq_none_iff_forall_ne_some, Ne,
    isSuffixOf?_unsignedMark_eq_some_iff]
  constructor
  · intro unmarked bare marked
    exact unmarked bare.toList (by rw [String.ofList_toList, marked])
  · intro unmarked bare
    exact unmarked (String.ofList bare)

/-- The mark is no ending of the name that is rendered for one digit. -/
theorem append_unsignedMark_ne_boolean (bare : String) :
    bare ++ unsignedMark ≠ "BOOLEAN" := by
  intro equal
  have unmarked :
      unsignedMark.toList.isSuffixOf? "BOOLEAN".toList = none := by
    decide
  exact isSuffixOf?_unsignedMark_eq_none_iff.1 unmarked bare equal.symm

/-- A rendered name is split into what it was rendered from. -/
theorem splitTypeName_of_renders
    {rendered bare : String}
    {oneWide marked : Bool}
    (renders : Renders rendered bare oneWide marked) :
    splitTypeName rendered =
      (bare, marked, if oneWide then some 1 else none) := by
  cases renders with
  | oneWide => rfl
  | marked =>
      have found :
          unsignedMark.toList.isSuffixOf? (bare ++ unsignedMark).toList =
            some bare.toList := by
        rw [isSuffixOf?_unsignedMark_eq_some_iff, String.ofList_toList]
      rw [splitTypeName, if_neg (append_unsignedMark_ne_boolean bare), found]
      simp
  | plain notBoolean unmarked =>
      rw [splitTypeName, if_neg notBoolean,
        isSuffixOf?_unsignedMark_eq_none_iff.2 unmarked]
      rfl

/-- Every type name can be taken apart. -/
theorem exists_renders (rendered : String) :
    ∃ bare oneWide marked, Renders rendered bare oneWide marked := by
  by_cases boolean : rendered = "BOOLEAN"
  · subst boolean
    exact ⟨_, _, _, .oneWide⟩
  · by_cases marked : ∃ bare, rendered = bare ++ unsignedMark
    · obtain ⟨bare, rfl⟩ := marked
      exact ⟨_, _, _, .marked bare⟩
    · exact ⟨_, _, _, .plain boolean (not_exists.1 marked)⟩

/-! ## Declared types -/

/-- The bare names of integer types with their width in bits. -/
def integerNames : List (String × IntegerWidth) :=
  [("TINYINT", .eight), ("SMALLINT", .sixteen), ("YEAR", .sixteen),
    ("MEDIUMINT", .thirtyTwo), ("INT", .thirtyTwo), ("BIGINT", .sixtyFour)]

/-- The other bare names that do not stand for text. -/
def fixedNames : List (String × CanonicalType) :=
  [("FLOAT", .float32), ("DOUBLE", .float64), ("DATE", .time),
    ("TIME", .time), ("DATETIME", .time), ("TIMESTAMP", .time),
    ("BIT", .bit), ("JSON", .json)]

/-- The bare name of the type of a bare NULL. -/
def nullName : String := "NULL"

/-- The canonical type that a bare name declares, given whether the column is
a single digit wide and whether it is unsigned. -/
inductive Declares : String → Bool → Bool → CanonicalType → Prop where
  | truth : Declares "TINYINT" true false .bool
  | integer
      {bare : String}
      {width : IntegerWidth}
      {oneWide unsigned : Bool}
      (listed : (bare, width) ∈ integerNames)
      (noTruth : bare = "TINYINT" → oneWide = true → unsigned = true) :
      Declares bare oneWide unsigned (.integer unsigned width)
  | fixed
      {bare : String}
      {type : CanonicalType}
      (listed : (bare, type) ∈ fixedNames)
      (oneWide unsigned : Bool) :
      Declares bare oneWide unsigned type
  | text
      {bare : String}
      (notInteger : bare ∉ integerNames.map Prod.fst)
      (notFixed : bare ∉ fixedNames.map Prod.fst)
      (notNull : bare ≠ nullName)
      (oneWide unsigned : Bool) :
      Declares bare oneWide unsigned .string

/-- The canonical type of a family of types. -/
def TypeFamily.declared (oneWide unsigned : Bool) :
    TypeFamily → Option CanonicalType
  | integer width =>
    if !unsigned && width = .eight && oneWide then
      some .bool
    else
      some (.integer unsigned width)
  | float => some .float32
  | double => some .float64
  | temporal => some .time
  | bit => some .bit
  | json => some .json
  | null => none
  | textual => some .string

section Names

variable {bare : String} {oneWide unsigned : Bool}

theorem ofName_of_mem_integerNames
    {width : IntegerWidth}
    (listed : (bare, width) ∈ integerNames) :
    TypeFamily.ofName bare = .integer width := by
  simp only [integerNames, List.mem_cons, Prod.mk.injEq, List.not_mem_nil,
    or_false] at listed
  rcases listed with
    ⟨rfl, rfl⟩ | ⟨rfl, rfl⟩ | ⟨rfl, rfl⟩ | ⟨rfl, rfl⟩ | ⟨rfl, rfl⟩ | ⟨rfl, rfl⟩
  all_goals rfl

/-- A name with one type stands for this type, whatever the length and the sign
are. -/
theorem declared_of_mem_fixedNames
    {type : CanonicalType}
    (listed : (bare, type) ∈ fixedNames) :
    (TypeFamily.ofName bare).declared oneWide unsigned = some type := by
  simp only [fixedNames, List.mem_cons, Prod.mk.injEq, List.not_mem_nil,
    or_false] at listed
  rcases listed with
    ⟨rfl, rfl⟩ | ⟨rfl, rfl⟩ | ⟨rfl, rfl⟩ | ⟨rfl, rfl⟩ | ⟨rfl, rfl⟩ |
      ⟨rfl, rfl⟩ | ⟨rfl, rfl⟩ | ⟨rfl, rfl⟩
  all_goals rfl

/-- All other names are taken for those of texts. -/
theorem ofName_of_unlisted
    (notInteger : bare ∉ integerNames.map Prod.fst)
    (notFixed : bare ∉ fixedNames.map Prod.fst)
    (notNull : bare ≠ nullName) :
    TypeFamily.ofName bare = .textual := by
  simp only [integerNames, fixedNames, nullName, List.map_cons, List.map_nil,
    List.mem_cons, List.not_mem_nil, or_false, not_or]
    at notInteger notFixed notNull
  simp [TypeFamily.ofName, *]

/-- Only one integer type is eight bits wide. -/
theorem eq_of_mem_integerNames_eight
    (listed : (bare, IntegerWidth.eight) ∈ integerNames) :
    bare = "TINYINT" := by
  simpa [integerNames] using listed

/-- What a name declares is the type that its family has. -/
theorem declared_ofName_of_declares
    {type : CanonicalType}
    (declares : Declares bare oneWide unsigned type) :
    (TypeFamily.ofName bare).declared oneWide unsigned = some type := by
  cases declares with
  | truth => rfl
  | @integer _ width _ _ listed noTruth =>
      have noBool : ¬(!unsigned && width = .eight && oneWide) = true := by
        simp only [Bool.and_eq_true, Bool.not_eq_true', decide_eq_true_eq]
        rintro ⟨⟨rfl, rfl⟩, wide⟩
        cases noTruth (eq_of_mem_integerNames_eight listed) wide
      rw [ofName_of_mem_integerNames listed, TypeFamily.declared, if_neg noBool]
  | fixed listed => exact declared_of_mem_fixedNames listed
  | text notInteger notFixed notNull =>
      rw [ofName_of_unlisted notInteger notFixed notNull, TypeFamily.declared]

/-- Every name but that of a bare NULL declares a type. -/
theorem exists_declares_of_ne
    (notNull : bare ≠ nullName)
    (oneWide unsigned : Bool) :
    ∃ type, Declares bare oneWide unsigned type := by
  by_cases integer : bare ∈ integerNames.map Prod.fst
  · obtain ⟨⟨name, width⟩, listed, rfl⟩ := List.mem_map.1 integer
    by_cases truth :
        name = "TINYINT" ∧ oneWide = true ∧ unsigned = false
    · obtain ⟨rfl, rfl, rfl⟩ := truth
      exact ⟨.bool, .truth⟩
    · refine ⟨_, .integer listed ?_⟩
      intro tiny wide
      rw [← Bool.not_eq_false]
      exact fun signed => truth ⟨tiny, wide, signed⟩
  · by_cases fixed : bare ∈ fixedNames.map Prod.fst
    · obtain ⟨⟨_, type⟩, listed, rfl⟩ := List.mem_map.1 fixed
      exact ⟨type, .fixed listed oneWide unsigned⟩
    · exact ⟨.string, .text integer fixed notNull oneWide unsigned⟩

/-- A bare name declares what its family does. -/
theorem declared_ofName_eq_some_iff {type : CanonicalType} :
    (TypeFamily.ofName bare).declared oneWide unsigned = some type ↔
      Declares bare oneWide unsigned type := by
  refine ⟨?_, declared_ofName_of_declares⟩
  intro declared
  by_cases null : bare = nullName
  · subst null
    cases declared
  · obtain ⟨other, declares⟩ := exists_declares_of_ne null oneWide unsigned
    rw [declared_ofName_of_declares declares] at declared
    cases declared
    exact declares

/-- The type of no values at all is the only one that declares nothing. -/
theorem declared_ofName_eq_none_iff :
    (TypeFamily.ofName bare).declared oneWide unsigned = none ↔
      bare = nullName := by
  constructor
  · intro undeclared
    refine Decidable.byContradiction fun notNull => ?_
    obtain ⟨type, declares⟩ := exists_declares_of_ne notNull oneWide unsigned
    rw [declared_ofName_of_declares declares] at undeclared
    cases undeclared
  · rintro rfl
    rfl

end Names

/-! ## Classified columns -/

/-- An integer type is found by its length, width and sign alone. -/
theorem declared_integer_of_length
    {column : RawColumn}
    {oneWide : Bool}
    (length_eq : column.length? = if oneWide then some 1 else none)
    (unsigned : Bool)
    (width : IntegerWidth) :
    (TypeFamily.integer width).declared oneWide unsigned =
      some (classify.integerType column unsigned width) := by
  have wide : decide (column.length? = some 1) = oneWide := by
    rw [length_eq]
    cases oneWide <;> rfl
  rw [TypeFamily.declared, classify.integerType, wide, apply_ite some]

/-- Both ways of decoding a column lead to the type of its family. -/
theorem classify_of_scanType
    {column : RawColumn}
    {oneWide unsigned nullable : Bool}
    (scanned :
      column.scanType =
        (TypeFamily.ofName column.typeName).scanType unsigned nullable)
    (flagged : column.isUnsigned = unsigned)
    (length_eq : column.length? = if oneWide then some 1 else none) :
    classify column =
      match (TypeFamily.ofName column.typeName).declared oneWide unsigned with
      | some type => .ok type
      | none =>
        .error (.unclassifiedColumn column.name "unknown" column.typeName) := by
  rw [classify, scanned]
  cases TypeFamily.ofName column.typeName with
  | integer width =>
      rw [declared_integer_of_length length_eq, ← flagged]
      cases nullable <;> rfl
  | _ => cases nullable <;> rfl

/-- A column is classified by the name that was rendered and by the sign.  That
it may hold nulls does not occur on the right. -/
theorem classify_rawColumn
    {rendered bare : String}
    {oneWide marked : Bool}
    (renders : Renders rendered bare oneWide marked)
    (column : String)
    (nullable : Option Bool)
    (unsignedFlag : Bool) :
    classify (rawColumn column rendered nullable unsignedFlag) =
      match (TypeFamily.ofName bare).declared oneWide
        (unsignedFlag || marked || bare == "YEAR") with
      | some type => .ok type
      | none => .error (.unclassifiedColumn column "unknown" bare) := by
  rw [rawColumn, splitTypeName_of_renders renders]
  exact classify_of_scanType rfl rfl rfl

/-- An unsigned column may be told by the mark in its type name or by its
flag. -/
theorem rawColumn_unsignedMark
    {bare : String}
    (notBoolean : bare ≠ "BOOLEAN")
    (unmarked : ∀ shorter, bare ≠ shorter ++ unsignedMark)
    (column : String)
    (nullable : Option Bool) :
    rawColumn column (bare ++ unsignedMark) nullable false =
      rawColumn column bare nullable true := by
  rw [rawColumn, rawColumn, splitTypeName_of_renders (.marked bare),
    splitTypeName_of_renders (.plain notBoolean unmarked)]
  rfl

/-- The type of a column does not depend on whether it may be NULL: it is what
the type name declares, and only a bare NULL has none.  For an unsigned column
the mark in the name does the same as the flag. -/
theorem classify_ignores_nullability (column rendered : String) :
    (∀ unsignedFlag, ∃ bare oneWide marked answer,
      Renders rendered bare oneWide marked ∧
        (∀ nullable,
          classify (rawColumn column rendered nullable unsignedFlag) =
            answer) ∧
        (∀ type,
          answer = .ok type ↔
            Declares bare oneWide
              (unsignedFlag || marked || bare == "YEAR") type) ∧
        ∀ failure,
          answer = .error failure ↔
            bare = nullName ∧
              failure = .unclassifiedColumn column "unknown" nullName) ∧
      (rendered ≠ "BOOLEAN" →
        (∀ bare, rendered ≠ bare ++ unsignedMark) →
          ∀ nullable,
            rawColumn column (rendered ++ unsignedMark) nullable false =
              rawColumn column rendered nullable true) := by
  refine ⟨?_, fun notBoolean unmarked =>
    rawColumn_unsignedMark notBoolean unmarked column⟩
  intro unsignedFlag
  obtain ⟨bare, oneWide, marked, renders⟩ := exists_renders rendered
  refine ⟨bare, oneWide, marked, _, renders,
    fun nullable => classify_rawColumn renders column nullable unsignedFlag,
    ?_, ?_⟩
  · intro type
    rw [← declared_ofName_eq_some_iff]
    cases (TypeFamily.ofName bare).declared oneWide
      (unsignedFlag || marked || bare == "YEAR") <;> simp
  · intro failure
    cases known : (TypeFamily.ofName bare).declared oneWide
      (unsignedFlag || marked || bare == "YEAR") with
    | none =>
        obtain rfl := declared_ofName_eq_none_iff.1 known
        simp [eq_comm]
    | some type =>
        have notNull : bare ≠ nullName := by
          rintro rfl
          cases known
        simp [notNull]

end MySql
end Catalog
end TypedSql
