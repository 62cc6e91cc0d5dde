import TypedSql.Proofs.Result
import TypedSql.TypeMap

/-!
# Built type maps

A type map that has been built has for each type the target that was given
under the type's name, and it has one for each type that was wanted.

Nothing else is refused than a name that no type has, of which the first in the
order of texts is reported, and, if all names are known, a lack of types that
are wanted.  The names are in the order of texts and the types in that of their
declaration, but no two names have one type, so no target is lost.
-/

namespace TypedSql

/-- A type is parsed from its own name and nothing else. -/
theorem CanonicalType.parse_eq_ok_iff
    {name : String}
    {type : CanonicalType} :
    CanonicalType.parse name = .ok type ↔ type.name = name := by
  unfold CanonicalType.parse
  cases found : ofName? name with
  | none => simpa using ofName?_eq_none_iff.1 found type
  | some known =>
      rw [Except.ok.injEq, ← name_of_ofName? found]
      constructor
      · rintro rfl
        rfl
      · exact fun same => (name_injective same).symm

/-- What is not parsed is no name of a type, and it is reported as it is. -/
theorem CanonicalType.parse_eq_error_iff
    {name : String}
    {unknown : UnknownCanonicalType} :
    CanonicalType.parse name = .error unknown ↔
      (∀ type : CanonicalType, type.name ≠ name) ∧ unknown = ⟨name⟩ := by
  rw [← ofName?_eq_none_iff, CanonicalType.parse]
  cases ofName? name <;> simp [eq_comm]

namespace TypeMap

/-! ## Reading names -/

/-- Read the name of one pair. -/
def readName (pair : String × String) :
    Except UnknownCanonicalType (CanonicalType × String) := do
  let type ← CanonicalType.parse pair.1
  pure (type, pair.2)

theorem readNames_eq_mapM (pairs : List (String × String)) :
    readNames pairs = pairs.mapM readName := by
  induction pairs with
  | nil => rfl
  | cons pair rest inductionHypothesis =>
      rw [List.mapM_cons, ← inductionHypothesis]
      simp only [readNames, readName, bind_assoc, pure_bind]

theorem readName_eq_ok_iff
    {pair : String × String}
    {entry : CanonicalType × String} :
    readName pair = .ok entry ↔ pair = (entry.1.name, entry.2) := by
  obtain ⟨name, target⟩ := pair
  obtain ⟨type, other⟩ := entry
  simp only [readName, Result.bind_eq_ok_iff, CanonicalType.parse_eq_ok_iff]
  constructor
  · rintro ⟨_, rfl, ⟨⟩⟩
    rfl
  · rintro ⟨⟩
    exact ⟨type, rfl, rfl⟩

theorem readName_eq_error_iff
    {pair : String × String}
    {unknown : UnknownCanonicalType} :
    readName pair = .error unknown ↔
      (∀ type : CanonicalType, type.name ≠ pair.1) ∧ unknown = ⟨pair.1⟩ := by
  simp [readName, Result.bind_eq_error_iff, CanonicalType.parse_eq_error_iff,
    pure, Except.pure]

/-- Names that have been read are those of the types, in order. -/
theorem readNames_eq_ok_iff
    {pairs : List (String × String)}
    {entries : List (CanonicalType × String)} :
    readNames pairs = .ok entries ↔
      pairs = entries.map fun (type, target) => (type.name, target) := by
  rw [readNames_eq_mapM, Result.mapM_eq_ok_iff, ← List.forall₂_eq_eq_eq,
    List.forall₂_map_right_iff]
  simp only [readName_eq_ok_iff]

/-- The first name that no type has is reported. -/
theorem readNames_eq_error_iff
    {pairs : List (String × String)}
    {unknown : UnknownCanonicalType} :
    readNames pairs = .error unknown ↔
      ∃ before pair after,
        pairs = before ++ pair :: after ∧
          (∀ other ∈ before, ∃ type : CanonicalType, type.name = other.1) ∧
          (∀ type : CanonicalType, type.name ≠ pair.1) ∧
          unknown = ⟨pair.1⟩ := by
  have known_iff (pair : String × String) :
      (∃ entry, readName pair = .ok entry) ↔
        ∃ type : CanonicalType, type.name = pair.1 := by
    simp only [readName_eq_ok_iff]
    constructor
    · rintro ⟨entry, rfl⟩
      exact ⟨entry.1, rfl⟩
    · rintro ⟨type, named⟩
      exact ⟨(type, pair.2), by rw [named]⟩
  simp only [readNames_eq_mapM, Result.mapM_eq_error_iff, known_iff,
    readName_eq_error_iff]

/-! ## Collecting entries -/

/-- A name is given in a configuration exactly if it is among its pairs. -/
theorem mem_iff_exists_pair {raw : Std.TreeMap String String} {name : String} :
    name ∈ raw ↔ ∃ pair ∈ raw.toList, pair.1 = name := by
  rw [← Std.TreeMap.mem_keys, ← Std.TreeMap.map_fst_toList_eq_keys,
    List.mem_map]

/-- A map of distinct entries holds these entries and no others. -/
theorem get?_ofEntries_eq_some_iff
    {entries : List (CanonicalType × String)}
    (distinct : ∀ left ∈ entries, ∀ right ∈ entries,
      left.1 = right.1 → left = right)
    {type : CanonicalType}
    {target : String} :
    (ofEntries entries).get? type = some target ↔ (type, target) ∈ entries := by
  have inserted :=
    Result.getElem?_foldl_insert Prod.fst Prod.snd entries ∅ type
  rw [Std.TreeMap.getElem?_emptyc, Option.or_none] at inserted
  have found : (ofEntries entries).get? type = _ := inserted
  rw [found, Option.map_eq_some_iff]
  simp only [Result.find?_reverse_eq_some_iff distinct]
  constructor
  · rintro ⟨⟨_, _⟩, ⟨member, rfl⟩, rfl⟩
    exact member
  · intro member
    exact ⟨(type, target), ⟨member, rfl⟩, rfl⟩

theorem size_ofEntries
    {entries : List (CanonicalType × String)}
    (distinct : entries.Pairwise fun left right => left.1 ≠ right.1) :
    (ofEntries entries).size = entries.length := by
  have apart :
      entries.Pairwise fun left right => ¬compare left.1 right.1 = .eq :=
    distinct.imp fun differ same => differ (Std.compare_eq_iff_eq.1 same)
  have collected :
      (Std.TreeMap.ofList entries compare).Equiv (ofEntries entries).entries :=
    Std.TreeMap.ofList_equiv_foldl
  calc
    (ofEntries entries).size
      = (Std.TreeMap.ofList entries compare).size := collected.size_eq.symm
    _ = entries.length := Std.TreeMap.size_ofList apart

section Named

variable
  {raw : Std.TreeMap String String}
  {entries : List (CanonicalType × String)}
  (named :
    raw.toList = entries.map fun (type, target) => (type.name, target))

include named

/-- The entries that are read carry the targets that were configured. -/
theorem mem_entries_iff {type : CanonicalType} {target : String} :
    (type, target) ∈ entries ↔ raw[type.name]? = some target := by
  rw [← Std.TreeMap.mem_toList_iff_getElem?_eq_some, named, List.mem_map]
  constructor
  · intro member
    exact ⟨_, member, rfl⟩
  · rintro ⟨⟨other, _⟩, member, same⟩
    obtain ⟨sameName, rfl⟩ := Prod.mk.inj same
    rw [← CanonicalType.name_injective sameName]
    exact member

theorem get?_ofEntries (type : CanonicalType) :
    (ofEntries entries).get? type = raw[type.name]? := by
  have distinct :
      ∀ left ∈ entries, ∀ right ∈ entries, left.1 = right.1 → left = right := by
    rintro ⟨type, left⟩ leftMember ⟨_, right⟩ rightMember rfl
    rw [mem_entries_iff named] at leftMember rightMember
    rw [Option.some.inj (leftMember.symm.trans rightMember)]
  apply Option.ext
  intro target
  rw [get?_ofEntries_eq_some_iff distinct, mem_entries_iff named]

/-- No two names have one type, so there are as many types as names. -/
theorem size_ofEntries_eq_size : (ofEntries entries).size = raw.size := by
  have ordered := Std.TreeMap.ordered_keys_toList (t := raw)
  rw [named, List.pairwise_map] at ordered
  have distinct : entries.Pairwise fun left right => left.1 ≠ right.1 := by
    refine ordered.imp fun {left right} before same => ?_
    dsimp only at before
    rw [same, Std.compare_self] at before
    cases before
  rw [size_ofEntries distinct, ← Std.TreeMap.length_toList, named,
    List.length_map]

/-- Once all names are read, each of them is that of a type. -/
theorem exists_type_of_mem {name : String} (present : name ∈ raw) :
    ∃ type : CanonicalType, type.name = name := by
  obtain ⟨pair, member, rfl⟩ := mem_iff_exists_pair.1 present
  rw [named] at member
  obtain ⟨entry, -, rfl⟩ := List.mem_map.1 member
  exact ⟨entry.1, rfl⟩

/-- The missing types are those whose names were not configured, in the order in
which they are wanted. -/
theorem missing_ofEntries (wanted : List CanonicalType) :
    (ofEntries entries).missing wanted =
      wanted.filter fun type => type.name ∉ raw := by
  apply List.filter_congr
  intro type _
  rw [get?_ofEntries named, Bool.eq_iff_iff, decide_eq_true_iff,
    Option.isNone_iff_eq_none, getElem?_eq_none_iff]

end Named

/-! ## Building -/

/-- The first name, in the order of texts, that no canonical type has. -/
structure IsFirstUnknown
    (raw : Std.TreeMap String String)
    (name : String) :
    Prop where
  present : name ∈ raw
  unknown (type : CanonicalType) : type.name ≠ name
  first
    (other : String)
    (alsoPresent : other ∈ raw)
    (alsoUnknown : ∀ type : CanonicalType, type.name ≠ other) :
    name ≤ other

/-- What is built from some names: if there are unknown ones, the first of them
is reported, and only if there are none, the wanted types that lack a
target. -/
inductive BuildsTo
    (raw : Std.TreeMap String String)
    (wanted : List CanonicalType) :
    Except Error TypeMap → Prop where
  | unknown
      {name : String}
      (first : IsFirstUnknown raw name) :
      BuildsTo raw wanted (.error (.unknownType ⟨name⟩))
  | incomplete
      (known : ∀ name ∈ raw, ∃ type : CanonicalType, type.name = name)
      (lacking : ∃ type ∈ wanted, type.name ∉ raw) :
      BuildsTo raw wanted
        (.error (.incomplete (wanted.filter fun type => type.name ∉ raw)))
  | complete
      {map : TypeMap}
      (known : ∀ name ∈ raw, ∃ type : CanonicalType, type.name = name)
      (covered : ∀ type ∈ wanted, type.name ∈ raw)
      (size_eq : map.size = raw.size)
      (target_eq : ∀ type : CanonicalType, map.get? type = raw[type.name]?) :
      BuildsTo raw wanted (.ok map)

/-- The pairs of a configuration are ordered by their names, so the name that is
reported is the smallest of the unknown ones. -/
theorem isFirstUnknown_of_readNames
    {raw : Std.TreeMap String String}
    {unknown : UnknownCanonicalType}
    (read : readNames raw.toList = .error unknown) :
    IsFirstUnknown raw unknown.name := by
  obtain ⟨before, ⟨name, target⟩, after, split, known, foreign, rfl⟩ :=
    readNames_eq_error_iff.1 read
  have ordered := Std.TreeMap.ordered_keys_toList (t := raw)
  rw [split, List.pairwise_append, List.pairwise_cons] at ordered
  obtain ⟨-, ⟨later, -⟩, -⟩ := ordered
  refine ⟨mem_iff_exists_pair.2 ⟨(name, target), by simp [split], rfl⟩, foreign, ?_⟩
  intro other present alsoForeign
  obtain ⟨pair, member, rfl⟩ := mem_iff_exists_pair.1 present
  rw [split] at member
  rcases List.mem_append.1 member with earlier | rest
  · obtain ⟨type, named⟩ := known pair earlier
    exact absurd named (alsoForeign type)
  · rcases List.mem_cons.1 rest with rfl | behind
    · exact Std.le_refl _
    · exact Std.le_of_lt (compareOfLessAndEq_eq_lt.1 (later pair behind))

theorem buildsTo_build
    (raw : Std.TreeMap String String)
    (wanted : List CanonicalType) :
    BuildsTo raw wanted (build raw wanted) := by
  unfold build
  cases read : readNames raw.toList with
  | error unknown => exact .unknown (isFirstUnknown_of_readNames read)
  | ok entries =>
      have named := readNames_eq_ok_iff.1 read
      have known (name : String) (present : name ∈ raw) :
          ∃ type : CanonicalType, type.name = name :=
        exists_type_of_mem named present
      dsimp only
      rw [missing_ofEntries named]
      split
      next covers =>
        refine .complete known ?_ (size_ofEntries_eq_size named)
          (get?_ofEntries named)
        simpa using covers
      next lacks =>
        refine .incomplete known ?_
        simpa using lacks

/-- A built map has the target of each type that was wanted. -/
theorem exists_target_of_build
    {raw : Std.TreeMap String String}
    {wanted : List CanonicalType}
    {map : TypeMap}
    (built : build raw wanted = .ok map)
    {type : CanonicalType}
    (member : type ∈ wanted) :
    ∃ target, raw[type.name]? = some target ∧ map.get? type = some target := by
  have builds := buildsTo_build raw wanted
  rw [built] at builds
  cases builds with
  | complete known covered size_eq target_eq =>
      obtain ⟨target, found⟩ := Option.isSome_iff_exists.1
        (Std.TreeMap.isSome_getElem?_iff_mem.2 (covered type member))
      exact ⟨target, found, (target_eq type).trans found⟩

/-- A type map is built exactly from names of types that cover what is wanted,
and no two names are read as one type. -/
theorem build_validates
    (raw : Std.TreeMap String String)
    (wanted : List CanonicalType) :
    BuildsTo raw wanted (build raw wanted) ∧
      ∀ left right type,
        CanonicalType.parse left = .ok type →
          CanonicalType.parse right = .ok type →
            left = right := by
  refine ⟨buildsTo_build raw wanted, ?_⟩
  intro left right type leftRead rightRead
  rw [CanonicalType.parse_eq_ok_iff] at leftRead rightRead
  exact leftRead.symm.trans rightRead

end TypeMap
end TypedSql
