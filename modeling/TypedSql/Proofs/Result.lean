import Mathlib.Data.List.Forall2
import Std.Data.TreeMap

/-!
# Results of lookups and of fallible steps

The first entry that a lookup accepts is found.  What some steps set and the
others leave alone is decided by the last one that sets it.

A computation in `Except` succeeds when all of its steps do; the lemmas say what
the steps have given when a chain of them, or one step for every item of a list,
has succeeded, and which failures it can have when each step has only some.
-/

namespace TypedSql
namespace Result

variable {ε α β : Type}

/-- Every item of the second list is related to one of the first. -/
theorem exists_of_mem_right
    {relation : α → β → Prop}
    {items : List α}
    {values : List β}
    (related : List.Forall₂ relation items values)
    {value : β}
    (member : value ∈ values) :
    ∃ item ∈ items, relation item value := by
  induction related with
  | nil => cases member
  | cons head _ inductionHypothesis =>
      rcases List.mem_cons.1 member with rfl | later
      · exact ⟨_, List.mem_cons_self, head⟩
      · obtain ⟨item, present, holds⟩ := inductionHypothesis later
        exact ⟨item, List.mem_cons_of_mem _ present, holds⟩

/-- Items at the same place are related. -/
theorem related_of_getElem?
    {relation : α → β → Prop}
    {items : List α}
    {values : List β}
    (related : List.Forall₂ relation items values)
    {place : Nat}
    {item : α}
    {value : β}
    (present : items[place]? = some item)
    (given : values[place]? = some value) :
    relation item value := by
  obtain ⟨inside, rfl⟩ := List.getElem?_eq_some_iff.1 present
  obtain ⟨alsoInside, rfl⟩ := List.getElem?_eq_some_iff.1 given
  exact related.get inside alsoInside

/-- A lookup finds the only recent entry that it accepts, whatever older
entries there are. -/
theorem find?_append_of_unique
    {accepts : α → Bool}
    {recent older : List α}
    {entry : α}
    (member : entry ∈ recent)
    (accepted : accepts entry = true)
    (unique : ∀ other ∈ recent, accepts other = true → other = entry) :
    (recent ++ older).find? accepts = some entry := by
  rw [List.find?_append]
  cases found : recent.find? accepts with
  | none => exact absurd accepted (List.find?_eq_none.1 found entry member)
  | some other =>
      rw [Option.some_or,
        unique other (List.mem_of_find?_eq_some found) (List.find?_some found)]

/-- An item that is told apart by its key is the last one of that key. -/
theorem find?_reverse_eq_some_iff
    {κ : Type}
    [BEq κ]
    [LawfulBEq κ]
    {key : α → κ}
    {items : List α}
    (distinct : ∀ left ∈ items, ∀ right ∈ items,
      key left = key right → left = right)
    {wanted : κ}
    {item : α} :
    items.reverse.find? (key · == wanted) = some item ↔
      item ∈ items ∧ key item = wanted := by
  constructor
  · intro found
    have member := List.mem_of_find?_eq_some found
    have fits := List.find?_some found
    exact ⟨List.mem_reverse.1 member, beq_iff_eq.1 fits⟩
  · rintro ⟨member, rfl⟩
    rw [← List.append_nil items.reverse]
    apply find?_append_of_unique (List.mem_reverse.2 member)
    · exact beq_self_eq_true (key item)
    · intro other present sameKey
      exact distinct other (List.mem_reverse.1 present) item member
        (beq_iff_eq.1 sameKey)

/-- A list is split at its first item or behind it. -/
theorem exists_split_cons_iff
    {holds : List α → α → Prop}
    {first : α}
    {rest : List α} :
    (∃ before item after,
        first :: rest = before ++ item :: after ∧ holds before item) ↔
      holds [] first ∨
        ∃ before item after,
          rest = before ++ item :: after ∧ holds (first :: before) item := by
  constructor
  · rintro ⟨before, item, after, split, held⟩
    cases before with
    | nil =>
        obtain ⟨rfl, rfl⟩ := List.cons.inj split
        exact .inl held
    | cons leading before =>
        obtain ⟨rfl, rfl⟩ := List.cons.inj split
        exact .inr ⟨before, item, after, rfl, held⟩
  · rintro (held | ⟨before, item, after, rfl, held⟩)
    · exact ⟨[], first, rest, rfl, held⟩
    · exact ⟨first :: before, item, after, rfl, held⟩

/-- In a map that items have been inserted into, the last one of a key
counts. -/
theorem getElem?_foldl_insert
    {κ : Type}
    [Ord κ]
    [Std.TransOrd κ]
    [Std.LawfulEqOrd κ]
    [BEq κ]
    [LawfulBEq κ]
    (key : α → κ)
    (value : α → β)
    (items : List α)
    (map : Std.TreeMap κ β)
    (wanted : κ) :
    (items.foldl (fun map item => map.insert (key item) (value item))
        map)[wanted]? =
      ((items.reverse.find? (key · == wanted)).map value).or map[wanted]? := by
  induction items generalizing map with
  | nil => simp
  | cons item rest inductionHypothesis =>
      rw [List.foldl_cons, inductionHypothesis, Std.TreeMap.getElem?_insert,
        List.reverse_cons, List.find?_append, Option.map_or, Option.or_assoc]
      by_cases same : key item = wanted <;> simp [same]

/-! ## Maps that are ordered by texts -/

/-- The keys of a map are the texts under which it holds a value. -/
theorem mem_keys_iff_exists {map : Std.TreeMap String β} {key : String} :
    key ∈ map.keys ↔ ∃ value, map[key]? = some value := by
  rw [Std.TreeMap.mem_keys, ← Std.TreeMap.isSome_getElem?_iff_mem,
    Option.isSome_iff_exists]

/-- Keys are listed in ascending order, so none of them twice. -/
theorem ascending_keys (map : Std.TreeMap String β) :
    map.keys.Pairwise (· < ·) := by
  have ordered := Std.TreeMap.ordered_keys (t := map)
  exact ordered.imp fun before => compareOfLessAndEq_eq_lt.1 before

/-! ## The last item that counts -/

/-- An item is the last one of a list that fits. -/
def IsLast (fits : α → Prop) (items : List α) (item : α) : Prop :=
  ∃ before after,
    items = before ++ item :: after ∧
      fits item ∧ ∀ later ∈ after, ¬fits later

theorem IsLast.mem
    {fits : α → Prop}
    {items : List α}
    {item : α}
    (last : IsLast fits items item) :
    item ∈ items := by
  obtain ⟨before, after, rfl, -⟩ := last
  exact List.mem_append_right before List.mem_cons_self

theorem IsLast.fits
    {fits : α → Prop}
    {items : List α}
    {item : α}
    (last : IsLast fits items item) :
    fits item := by
  obtain ⟨before, after, -, fit, -⟩ := last
  exact fit

/-- The last item that counts is among the later ones, or it is the first one
and no later one counts. -/
theorem isLast_cons_iff
    {fits : α → Prop}
    {first : α}
    {rest : List α}
    {item : α} :
    IsLast fits (first :: rest) item ↔
      IsLast fits rest item ∨
        first = item ∧ fits first ∧ ∀ later ∈ rest, ¬fits later := by
  constructor
  · rintro ⟨before, after, split, fit, others⟩
    cases before with
    | nil =>
        obtain ⟨rfl, rfl⟩ := List.cons.inj split
        exact .inr ⟨rfl, fit, others⟩
    | cons leading before =>
        obtain ⟨rfl, rfl⟩ := List.cons.inj split
        exact .inl ⟨before, after, rfl, fit, others⟩
  · rintro (⟨before, after, rfl, fit, others⟩ | ⟨rfl, fit, others⟩)
    · exact ⟨first :: before, after, rfl, fit, others⟩
    · exact ⟨[], rest, rfl, fit, others⟩

theorem not_isLast_nil {fits : α → Prop} {item : α} :
    ¬IsLast fits [] item := by
  rintro ⟨before, after, split, -⟩
  simp at split

/-- Searching from the end finds the last item that is accepted. -/
theorem find?_reverse_eq_some_iff_isLast
    {accepts : α → Bool}
    {items : List α}
    {item : α} :
    items.reverse.find? accepts = some item ↔
      IsLast (accepts · = true) items item := by
  rw [List.find?_eq_some_iff_append]
  unfold IsLast
  constructor
  · rintro ⟨accepted, after, before, split, others⟩
    refine ⟨before.reverse, after.reverse, ?_, accepted, ?_⟩
    · rw [← List.reverse_reverse items, split, List.reverse_append,
        List.reverse_cons, List.append_assoc, List.singleton_append]
    · simpa using others
  · rintro ⟨before, after, rfl, accepted, others⟩
    refine ⟨accepted, after.reverse, before.reverse, ?_, ?_⟩
    · rw [List.reverse_append, List.reverse_cons, List.append_assoc,
        List.singleton_append]
    · simpa using others

/-- What is observed of a state is set by the items that fit, to a value that
depends on the item alone, and left as it was by all others. -/
structure SetBy
    {σ : Type}
    (observe : σ → β)
    (step : σ → α → σ)
    (fits : α → Prop)
    (gives : α → β → Prop) :
    Prop where
  set
    {state : σ}
    {item : α}
    {value : β}
    (fit : fits item) :
    observe (step state item) = value ↔ gives item value
  left
    {state : σ}
    {item : α}
    (unfit : ¬fits item) :
    observe (step state item) = observe state

/-- After some steps, the last item that fits has decided what is observed, and
if there is none, it is as it was. -/
theorem SetBy.foldl_eq_iff
    {σ : Type}
    {observe : σ → β}
    {step : σ → α → σ}
    {fits : α → Prop}
    {gives : α → β → Prop}
    (setBy : SetBy observe step fits gives)
    {start : σ}
    {items : List α}
    {value : β} :
    observe (items.foldl step start) = value ↔
      (∃ item, IsLast fits items item ∧ gives item value) ∨
        (∀ item ∈ items, ¬fits item) ∧ observe start = value := by
  induction items generalizing start with
  | nil => simp [not_isLast_nil]
  | cons first rest inductionHypothesis =>
      rw [List.foldl_cons, inductionHypothesis]
      simp only [isLast_cons_iff, List.forall_mem_cons]
      by_cases fit : fits first
      · rw [setBy.set fit]
        constructor
        · rintro (⟨item, last, given⟩ | ⟨none, given⟩)
          · exact .inl ⟨item, .inl last, given⟩
          · exact .inl ⟨first, .inr ⟨rfl, fit, none⟩, given⟩
        · rintro (⟨item, last | ⟨rfl, -, none⟩, given⟩ | ⟨⟨unfit, -⟩, -⟩)
          · exact .inl ⟨item, last, given⟩
          · exact .inr ⟨none, given⟩
          · exact absurd fit unfit
      · rw [setBy.left fit]
        constructor
        · rintro (⟨item, last, given⟩ | ⟨none, unchanged⟩)
          · exact .inl ⟨item, .inl last, given⟩
          · exact .inr ⟨⟨fit, none⟩, unchanged⟩
        · rintro (⟨item, last | ⟨-, fitsToo, -⟩, given⟩ |
            ⟨⟨-, none⟩, unchanged⟩)
          · exact .inl ⟨item, last, given⟩
          · exact absurd fitsToo fit
          · exact .inr ⟨none, unchanged⟩

/-! ## Chains of steps -/

/-- Two steps succeed if the first one does and the second one does with what
the first one gave. -/
theorem bind_eq_ok_iff
    {result : Except ε α}
    {next : α → Except ε β}
    {value : β} :
    (result >>= next) = .ok value ↔
      ∃ middle, result = .ok middle ∧ next middle = .ok value := by
  cases result with
  | error failure =>
      constructor
      · intro impossible
        cases impossible
      · rintro ⟨middle, impossible, _⟩
        cases impossible
  | ok found =>
      constructor
      · intro succeeded
        exact ⟨found, rfl, succeeded⟩
      · rintro ⟨middle, equal, succeeded⟩
        cases equal
        exact succeeded

/-- Two steps fail if the first one does, or the second one with what the first
one gave. -/
theorem bind_eq_error_iff
    {result : Except ε α}
    {next : α → Except ε β}
    {failure : ε} :
    (result >>= next) = .error failure ↔
      result = .error failure ∨
        ∃ middle, result = .ok middle ∧ next middle = .error failure := by
  cases result with
  | error other =>
      constructor
      · intro failed
        exact .inl (congrArg _ (Except.error.inj failed))
      · rintro (failed | ⟨middle, impossible, _⟩)
        · exact congrArg _ (Except.error.inj failed)
        · cases impossible
  | ok found =>
      constructor
      · intro failed
        exact .inr ⟨found, rfl, failed⟩
      · rintro (impossible | ⟨middle, equal, failed⟩)
        · cases impossible
        · cases equal
          exact failed

/-- What follows a step only matters for what the step has given. -/
theorem bind_congr_of_ok
    {result : Except ε α}
    {first second : α → Except ε β}
    (same : ∀ value, result = .ok value → first value = second value) :
    (result >>= first) = result >>= second := by
  cases result with
  | error failure => rfl
  | ok value => exact same value rfl

/-- Steps that each come to a result come to one together. -/
theorem run_bind_eq_some
    {step : ExceptT ε Option α}
    {next : α → ExceptT ε Option β}
    {result : Except ε α}
    {onward : α → Except ε β}
    (first : step.run = some result)
    (second : ∀ value, result = .ok value →
      (next value).run = some (onward value)) :
    (step >>= next).run = some (result >>= onward) := by
  rw [ExceptT.run_bind, first]
  cases result with
  | error failure => rfl
  | ok value => exact second value rfl

theorem mapError_eq_ok_iff
    {δ : Type}
    {explain : ε → δ}
    {result : Except ε α}
    {value : α} :
    result.mapError explain = .ok value ↔ result = .ok value := by
  cases result with
  | error failure =>
      constructor
      · intro impossible
        cases impossible
      · intro impossible
        cases impossible
  | ok found =>
      constructor
      · intro equal
        cases equal
        rfl
      · intro equal
        cases equal
        rfl

theorem mapError_eq_error_iff
    {δ : Type}
    {explain : ε → δ}
    {result : Except ε α}
    {explained : δ} :
    result.mapError explain = .error explained ↔
      ∃ failure, result = .error failure ∧ explained = explain failure := by
  cases result with
  | error failure =>
      constructor
      · intro equal
        cases equal
        exact ⟨failure, rfl, rfl⟩
      · rintro ⟨_, ⟨⟩, rfl⟩
        rfl
  | ok found =>
      constructor
      · intro impossible
        cases impossible
      · rintro ⟨_, ⟨⟩, _⟩

/-- A step succeeds on all items if it does on each of them, and the values are
collected in order. -/
theorem mapM_eq_ok_iff
    {step : α → Except ε β}
    {items : List α}
    {values : List β} :
    items.mapM step = .ok values ↔
      List.Forall₂ (fun item value => step item = .ok value) items values := by
  induction items generalizing values with
  | nil =>
      rw [List.mapM_nil, List.forall₂_nil_left_iff]
      constructor
      · intro equal
        exact (Except.ok.inj equal).symm
      · intro empty
        rw [empty]
        rfl
  | cons item rest inductionHypothesis =>
      rw [List.mapM_cons, bind_eq_ok_iff, List.forall₂_cons_left_iff]
      constructor
      · rintro ⟨value, stepped, remaining⟩
        obtain ⟨others, traversed, equal⟩ := bind_eq_ok_iff.1 remaining
        exact ⟨value, others, stepped, inductionHypothesis.1 traversed,
          (Except.ok.inj equal).symm⟩
      · rintro ⟨value, others, stepped, related, rfl⟩
        exact ⟨value, stepped, bind_eq_ok_iff.2
          ⟨others, inductionHypothesis.2 related, rfl⟩⟩

/-- Whether a step succeeds on all items does not depend on what the values
are. -/
theorem exists_mapM_eq_ok_iff
    {step : α → Except ε β}
    {items : List α} :
    (∃ values, items.mapM step = .ok values) ↔
      ∀ item ∈ items, ∃ value, step item = .ok value := by
  simp only [mapM_eq_ok_iff]
  induction items with
  | nil => simp
  | cons item rest inductionHypothesis =>
      rw [List.forall_mem_cons, ← inductionHypothesis]
      constructor
      · rintro ⟨_, related⟩
        obtain ⟨value, values, stepped, traversed, -⟩ :=
          List.forall₂_cons_left_iff.1 related
        exact ⟨⟨value, stepped⟩, ⟨values, traversed⟩⟩
      · rintro ⟨⟨value, stepped⟩, ⟨values, traversed⟩⟩
        exact ⟨value :: values, .cons stepped traversed⟩

/-- The first item whose step fails decides the failure. -/
theorem mapM_eq_error_iff
    {step : α → Except ε β}
    {items : List α}
    {failure : ε} :
    items.mapM step = .error failure ↔
      ∃ earlier item later,
        items = earlier ++ item :: later ∧
          (∀ other ∈ earlier, ∃ value, step other = .ok value) ∧
          step item = .error failure := by
  induction items with
  | nil =>
      constructor
      · intro impossible
        cases impossible
      · rintro ⟨earlier, item, later, split, _⟩
        exact absurd split.symm
          (List.append_ne_nil_of_right_ne_nil _ (List.cons_ne_nil _ _))
  | cons item rest inductionHypothesis =>
      rw [List.mapM_cons, bind_eq_error_iff, exists_split_cons_iff]
      apply or_congr
      · rw [and_iff_right (List.forall_mem_nil _)]
      · simp only [bind_eq_error_iff, inductionHypothesis, List.forall_mem_cons]
        constructor
        · rintro ⟨value, stepped, failed | ⟨_, _, impossible⟩⟩
          · obtain ⟨earlier, found, later, split, succeeded, failed⟩ := failed
            exact ⟨earlier, found, later, split,
              ⟨⟨value, stepped⟩, succeeded⟩, failed⟩
          · cases impossible
        · rintro ⟨earlier, found, later, split, ⟨⟨value, stepped⟩, succeeded⟩,
            failed⟩
          exact ⟨value, stepped,
            .inl ⟨earlier, found, later, split, succeeded, failed⟩⟩

/-- A step that is known to give the image of each item gives the images of all
of them. -/
theorem mapM_eq_ok
    {step : α → Except ε β}
    {image : α → β}
    {items : List α}
    (each : ∀ item ∈ items, step item = .ok (image item)) :
    items.mapM step = .ok (items.map image) :=
  mapM_eq_ok_iff.2
    (List.forall₂_map_right_iff.2 (List.forall₂_same.2 each))

/-- When every step gives its image as long as the item fits, all steps give
the images as long as all items fit. -/
theorem mapM_eq_ok_iff_of_fits
    {step : α → Except ε β}
    {fits : α → Prop}
    {image : α → β}
    {items : List α}
    (each : ∀ item ∈ items, ∀ value,
      step item = .ok value ↔ fits item ∧ value = image item)
    (values : List β) :
    items.mapM step = .ok values ↔
      (∀ item ∈ items, fits item) ∧ values = items.map image := by
  rw [mapM_eq_ok_iff]
  induction items generalizing values with
  | nil => simp
  | cons item rest inductionHypothesis =>
      obtain ⟨first, others⟩ := List.forall_mem_cons.1 each
      simp only [List.forall₂_cons_left_iff, first, inductionHypothesis others,
        List.forall_mem_cons, List.map_cons]
      constructor
      · rintro ⟨_, _, ⟨fit, rfl⟩, ⟨allFit, rfl⟩, rfl⟩
        exact ⟨⟨fit, allFit⟩, rfl⟩
      · rintro ⟨⟨fit, allFit⟩, rfl⟩
        exact ⟨_, _, ⟨fit, rfl⟩, ⟨allFit, rfl⟩, rfl⟩

/-- The same for steps that see the place of their item. -/
theorem mapM_zipIdx_eq_ok_iff
    {step : α × Nat → Except ε β}
    {fits : Nat → α → Prop}
    {image : α → β}
    (each : ∀ place item value,
      step (item, place) = .ok value ↔ fits place item ∧ value = image item)
    {items : List α}
    {values : List β} :
    items.zipIdx.mapM step = .ok values ↔
      (∀ place item, items[place]? = some item → fits place item) ∧
        values = items.map image := by
  have entries (entry : α × Nat) (value : β) :
      step entry = .ok value ↔
        fits entry.2 entry.1 ∧ value = image entry.1 :=
    each entry.2 entry.1 value
  have images :
      items.zipIdx.map (fun entry => image entry.1) = items.map image :=
    calc
      items.zipIdx.map (fun entry => image entry.1)
        = (items.zipIdx.map Prod.fst).map image := List.map_map.symm
      _ = items.map image := by rw [List.zipIdx_map_fst]
  rw [mapM_eq_ok_iff_of_fits fun entry _ => entries entry, images]
  apply and_congr_left'
  constructor
  · intro all place item present
    exact all (item, place) (List.mk_mem_zipIdx_iff_getElem?.2 present)
  · rintro all ⟨item, place⟩ member
    exact all place item (List.mk_mem_zipIdx_iff_getElem?.1 member)

/-- The first place whose step fails decides the failure. -/
theorem mapM_zipIdx_eq_error_iff
    {step : α × Nat → Except ε β}
    {items : List α}
    {failure : ε} :
    items.zipIdx.mapM step = .error failure ↔
      ∃ before item after,
        items = before ++ item :: after ∧
          (∀ place other, before[place]? = some other →
            ∃ value, step (other, place) = .ok value) ∧
          step (item, before.length) = .error failure := by
  rw [mapM_eq_error_iff]
  constructor
  · rintro ⟨earlier, entry, later, split, succeeded, failed⟩
    obtain ⟨before, others, rfl, rfl, rest⟩ :=
      List.zipIdx_eq_append_iff.1 split
    obtain ⟨item, after, rfl, rfl, -⟩ := List.zipIdx_eq_cons_iff.1 rest.symm
    rw [Nat.zero_add] at failed
    refine ⟨before, item, after, rfl, ?_, failed⟩
    intro place other present
    exact succeeded _ (List.mk_mem_zipIdx_iff_getElem?.2 present)
  · rintro ⟨before, item, after, rfl, succeeded, failed⟩
    refine ⟨before.zipIdx, (item, before.length),
      after.zipIdx (before.length + 1), ?_, ?_, failed⟩
    · rw [List.zipIdx_append, Nat.zero_add, List.zipIdx_cons]
    · rintro ⟨other, place⟩ member
      exact succeeded place other (List.mk_mem_zipIdx_iff_getElem?.1 member)

/-- A check passes on all items if it does on each of them. -/
theorem forM_eq_ok_iff
    {check : α → Except ε Unit}
    {items : List α} :
    items.forM check = .ok () ↔ ∀ item ∈ items, check item = .ok () := by
  induction items with
  | nil =>
      simp only [List.not_mem_nil, false_implies, implies_true, iff_true]
      rfl
  | cons item rest inductionHypothesis =>
      change (check item >>= fun _ => rest.forM check) = _ ↔ _
      rw [bind_eq_ok_iff, List.forall_mem_cons]
      constructor
      · rintro ⟨_, checked, remaining⟩
        exact ⟨checked, inductionHypothesis.1 remaining⟩
      · rintro ⟨checked, remaining⟩
        exact ⟨(), checked, inductionHypothesis.2 remaining⟩

/-! ## Failures -/

/-- The failure of a result, if it is one. -/
def failure? : Except ε α → Option ε
  | .ok _ => none
  | .error failure => some failure

@[simp] theorem failure?_ok (value : α) :
    failure? (.ok value : Except ε α) = none :=
  rfl

@[simp] theorem failure?_error (failure : ε) :
    failure? (.error failure : Except ε α) = some failure :=
  rfl

/-- The failure of a result is that of which the result is an error. -/
theorem failure?_eq_some_iff {result : Except ε α} {failure : ε} :
    failure? result = some failure ↔ result = .error failure := by
  cases result with
  | error other => rw [failure?_error, Option.some.injEq, Except.error.injEq]
  | ok value => simp

/-- If a result is a failure, it is one that is allowed. -/
def FailsWithin (allowed : ε → Prop) (result : Except ε α) : Prop :=
  ∀ failure, result = .error failure → allowed failure

section FailsWithin

variable {allowed : ε → Prop}

theorem failsWithin_ok (value : α) :
    FailsWithin allowed (.ok value : Except ε α) := by
  intro failure impossible
  cases impossible

theorem failsWithin_error {failure : ε} (accepted : allowed failure) :
    FailsWithin allowed (.error failure : Except ε α) := by
  intro other equal
  cases equal
  exact accepted

/-- Two steps fail in allowed ways only, if each of them does. -/
theorem FailsWithin.bind
    {result : Except ε α}
    {next : α → Except ε β}
    (first : FailsWithin allowed result)
    (second : ∀ value, FailsWithin allowed (next value)) :
    FailsWithin allowed (result >>= next) := by
  intro failure failed
  rcases bind_eq_error_iff.1 failed with atOnce | ⟨value, -, later⟩
  · exact first failure atOnce
  · exact second value failure later

theorem failsWithin_mapM
    {step : α → Except ε β}
    (each : ∀ item, FailsWithin allowed (step item))
    (items : List α) :
    FailsWithin allowed (items.mapM step) := by
  intro failure failed
  obtain ⟨_, item, _, -, -, stepFailed⟩ := mapM_eq_error_iff.1 failed
  exact each item failure stepFailed

theorem failsWithin_forM
    {check : α → Except ε Unit}
    (each : ∀ item, FailsWithin allowed (check item))
    (items : List α) :
    FailsWithin allowed (items.forM check) := by
  induction items with
  | nil => exact failsWithin_ok ()
  | cons item rest inductionHypothesis =>
      exact (each item).bind fun _ => inductionHypothesis

end FailsWithin

end Result
end TypedSql
