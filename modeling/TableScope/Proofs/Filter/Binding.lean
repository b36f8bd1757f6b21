import Mathlib.Data.List.Forall2
import Mathlib.Order.Bounds.Defs
import TableScope.Proofs.Filter.Building

/-! # What conditions are bound to

The text of a condition is wrong on a schema if it is no condition or asks for a column that is not there
(`Faulty`), and in all other cases it has one predicate, at the first column of its name (`Binds`). A
filter is built condition by condition: the first wrong one is its error, whatever follows, and without
one the predicates are those of the conditions (`build_in_order`).
-/
set_option autoImplicit false

namespace TableScope

theorem Schema.position?_eq_some_iff {schema : Schema} {name : String} {position : Nat} :
    schema.position? name = some position ↔ IsLeast {i | schema.names[i]? = some name} position := by
  have hnames : ∀ i, schema.names[i]? = some name ↔
      ∃ h : i < schema.length, schema[i].name = name := by
    intro i
    rw [Schema.names, List.getElem?_map, Option.map_eq_some_iff]
    constructor
    · rintro ⟨column, hcolumn, rfl⟩
      obtain ⟨hi, rfl⟩ := List.getElem?_eq_some_iff.mp hcolumn
      exact ⟨hi, rfl⟩
    · rintro ⟨hi, hname⟩
      exact ⟨schema[i], List.getElem?_eq_getElem hi, hname⟩
  rw [Schema.position?, List.findIdx?_eq_some_iff_getElem]
  change _ ↔ schema.names[position]? = some name ∧ _
  rw [hnames]
  constructor
  · rintro ⟨hi, hname, hbefore⟩
    refine ⟨⟨hi, beq_iff_eq.mp hname⟩, fun i hfound => ?_⟩
    obtain ⟨hi', hname'⟩ := (hnames i).mp hfound
    by_contra hlt
    exact hbefore i (Nat.not_le.mp hlt) (beq_iff_eq.mpr hname')
  · rintro ⟨⟨hi, hname⟩, hleast⟩
    refine ⟨hi, beq_iff_eq.mpr hname, fun i hlt hname' => ?_⟩
    have hfound : schema.names[i]? = some name := (hnames i).mpr
      ⟨Nat.lt_trans hlt hi, beq_iff_eq.mp hname'⟩
    exact absurd (hleast hfound) (Nat.not_le.mpr hlt)

theorem Schema.position?_eq_none_iff {schema : Schema} {name : String} :
    schema.position? name = none ↔ name ∉ schema.names := by
  rw [← Schema.hasColumn_iff, Schema.hasColumn, Bool.not_eq_true, Option.isSome_eq_false_iff,
    Option.isNone_iff_eq_none]

/-! ## Predicates in range -/

namespace Predicate

variable {p : Predicate} {cell : Cell} {row : Row} {position width : Nat}

/-- A cell gives no error but a mismatch. -/
theorem test_ne_out_of_bounds : p.test cell ≠ .error (.positionOutOfBounds position width) := by
  unfold test
  split
  · exact nofun
  · exact nofun
  · exact nofun
  · split <;> exact nofun

theorem evaluate_ne_out_of_bounds (h : p.position < row.length) :
    p.evaluate row ≠ .error (.positionOutOfBounds position width) := by
  rw [evaluate, List.getElem?_eq_getElem h]
  exact test_ne_out_of_bounds

end Predicate

namespace Filter

/-- What is wrong with the text of a condition on a schema. -/
inductive Faulty (schema : Schema) (text : String) : FilterError → Prop
  | unread (h : ∀ condition, Condition.parse text ≠ .ok condition) :
    Faulty schema text (.invalidCondition text)
  | unknown (condition : Condition) (hp : Condition.parse text = .ok condition)
    (hc : condition.column ∉ schema.names) : Faulty schema text (.unknownColumn condition.column)

/-- The predicate of a condition, bound to the first column of its name. -/
inductive Binds (schema : Schema) (text : String) : Predicate → Prop
  | intro (condition : Condition) (position : Nat) (hp : Condition.parse text = .ok condition)
    (hl : IsLeast {i | schema.names[i]? = some condition.column} position) :
    Binds schema text
      ⟨condition.column, position, condition.operator, .ofText condition.literal.toList⟩

variable {schema : Schema} {text : String} {conditions : List String} {p : Predicate}
  {predicates : Filter} {e : FilterError}

/-! ## One condition -/

theorem predicate_of_parse {condition : Condition} (h : Condition.parse text = .ok condition) :
    predicate schema text = Predicate.bind schema condition := by
  rw [predicate, h]
  rfl

theorem predicate_of_unread (h : ∀ condition, Condition.parse text ≠ .ok condition) :
    predicate schema text = .error (.invalidCondition text) := by
  cases hp : Condition.parse text with
  | ok condition => exact absurd hp (h condition)
  | error e =>
    rw [predicate, hp]
    rw [Condition.parse] at hp
    split at hp <;> cases hp
    rfl

theorem predicate_eq_ok_iff : predicate schema text = .ok p ↔ Binds schema text p := by
  constructor
  · intro h
    obtain ⟨condition, hp, hb⟩ := exists_ok_of_bind h
    rw [Predicate.bind] at hb
    split at hb <;> cases hb
    next position hposition =>
      exact .intro condition position hp (Schema.position?_eq_some_iff.mp hposition)
  · rintro ⟨condition, position, hp, hl⟩
    rw [predicate_of_parse hp, Predicate.bind, Schema.position?_eq_some_iff.mpr hl]

theorem predicate_eq_error_iff : predicate schema text = .error e ↔ Faulty schema text e := by
  constructor
  · intro h
    by_cases hread : ∃ condition, Condition.parse text = .ok condition
    · obtain ⟨condition, hp⟩ := hread
      rw [predicate_of_parse hp, Predicate.bind] at h
      split at h <;> cases h
      next hposition => exact .unknown condition hp (Schema.position?_eq_none_iff.mp hposition)
    · have hunread := not_exists.mp hread
      rw [predicate_of_unread hunread] at h
      cases h
      exact .unread hunread
  · rintro (h | ⟨condition, hp, hc⟩)
    · exact predicate_of_unread h
    · rw [predicate_of_parse hp, Predicate.bind, Schema.position?_eq_none_iff.mpr hc]

/-- A condition that is not wrong is bound, and one that is bound is not wrong. -/
theorem forall_not_faulty_iff : (∀ e, ¬ Faulty schema text e) ↔ ∃ p, Binds schema text p := by
  simp only [← predicate_eq_error_iff, ← predicate_eq_ok_iff]
  cases predicate schema text with
  | error e => exact ⟨fun h => absurd rfl (h e), fun ⟨_, h⟩ => nomatch h⟩
  | ok p => exact ⟨fun _ => ⟨p, rfl⟩, fun _ => nofun⟩

/-! ## All conditions -/

theorem build_eq_ok_iff : build schema conditions = .ok predicates ↔
    List.Forall₂ (Binds schema) conditions predicates := by
  induction conditions generalizing predicates with
  | nil =>
    rw [List.forall₂_nil_left_iff]
    exact ⟨fun h => (Except.ok.inj h).symm, fun h => h ▸ rfl⟩
  | cons text others ih =>
    constructor
    · intro h
      obtain ⟨first, hf, h⟩ := exists_ok_of_bind h
      obtain ⟨rest, hr, h⟩ := exists_ok_of_bind h
      cases h
      exact .cons (predicate_eq_ok_iff.mp hf) (ih.mp hr)
    · intro h
      cases h with
      | cons hf hr =>
        rw [build, predicate_eq_ok_iff.mpr hf, ih.mpr hr]
        rfl

theorem build_append (first second : List String) :
    build schema (first ++ second) = do
      let predicates ← build schema first
      let others ← build schema second
      return predicates ++ others := by
  induction first with
  | nil =>
    rw [List.nil_append, build]
    cases build schema second <;> rfl
  | cons text first ih =>
    rw [List.cons_append, build, build, ih]
    cases predicate schema text with
    | error e => rfl
    | ok p =>
      cases build schema first with
      | error e => rfl
      | ok predicates => cases build schema second <;> rfl

theorem exists_build (h : ∀ text ∈ conditions, ∀ e, ¬ Faulty schema text e) :
    ∃ predicates, build schema conditions = .ok predicates := by
  induction conditions with
  | nil => exact ⟨[], rfl⟩
  | cons text others ih =>
    obtain ⟨ht, ho⟩ := List.forall_mem_cons.mp h
    obtain ⟨p, hp⟩ := forall_not_faulty_iff.mp ht
    obtain ⟨rest, hr⟩ := ih ho
    exact ⟨p :: rest, build_eq_ok_iff.mpr (.cons hp (build_eq_ok_iff.mp hr))⟩

theorem build_of_first_faulty {before after : List String}
    (hb : ∀ text ∈ before, ∀ e, ¬ Faulty schema text e) (hf : Faulty schema text e) :
    build schema (before ++ text :: after) = .error e := by
  obtain ⟨predicates, hok⟩ := exists_build hb
  rw [build_append, hok, build, predicate_eq_error_iff.mpr hf]
  rfl

/-! ## Rows -/

section Rows

variable {row : Row} {position width : Nat}

theorem position_lt_of_build (h : build schema conditions = .ok predicates) :
    ∀ p ∈ predicates, p.position < schema.length :=
  fun p hp => Schema.position?_lt (position?_of_mem_build h p hp)

theorem evaluate_ne_out_of_bounds
    (h : ∀ p ∈ predicates, p.evaluate row ≠ .error (.positionOutOfBounds position width)) :
    predicates.evaluate row ≠ .error (.positionOutOfBounds position width) := by
  induction predicates with
  | nil => exact nofun
  | cons p others ih =>
    obtain ⟨hp, ho⟩ := List.forall_mem_cons.mp h
    have hothers := ih ho
    rw [evaluate]
    cases he : p.evaluate row with
    | error e => exact fun hc => hp (he.trans hc)
    | ok holds =>
      cases hr : evaluate others row with
      | error e => exact fun hc => hothers (hr.trans hc)
      | ok othersHold => exact nofun

end Rows

/-- A filter is built up to the first wrong condition, and of all conditions if none is wrong. -/
theorem build_in_order (schema : Schema) :
    (∀ (before after : List String) (text : String) (e : FilterError),
      (∀ text ∈ before, ∀ e, ¬ Faulty schema text e) → Faulty schema text e →
      build schema (before ++ text :: after) = .error e) ∧
    (∀ conditions : List String, (∀ text ∈ conditions, ∀ e, ¬ Faulty schema text e) →
      ∃ predicates, build schema conditions = .ok predicates ∧
        (predicates.isEmpty = true ↔ conditions = []) ∧
        List.Forall₂ (Binds schema) conditions predicates) ∧
    (∀ first second : List String, build schema (first ++ second) = do
      let predicates ← build schema first
      let others ← build schema second
      return predicates ++ others) ∧
    (∀ (conditions : List String) (predicates : Filter), build schema conditions = .ok predicates →
      ∀ row : Row, row.length = schema.length → ∀ position width : Nat,
        (∀ p ∈ predicates, p.evaluate row ≠ .error (.positionOutOfBounds position width)) ∧
        predicates.evaluate row ≠ .error (.positionOutOfBounds position width)) := by
  refine ⟨fun _ _ _ _ => build_of_first_faulty, fun conditions h => ?_, build_append, ?_⟩
  · obtain ⟨predicates, hbuild⟩ := exists_build h
    have hbinds := build_eq_ok_iff.mp hbuild
    refine ⟨predicates, hbuild, ?_, hbinds⟩
    rw [List.isEmpty_iff, ← List.length_eq_zero_iff, ← List.length_eq_zero_iff, hbinds.length_eq]
  · intro conditions predicates hbuild row hwidth position width
    have hevaluate : ∀ p ∈ predicates,
        p.evaluate row ≠ .error (.positionOutOfBounds position width) := fun p hp =>
      Predicate.evaluate_ne_out_of_bounds (hwidth ▸ position_lt_of_build hbuild p hp)
    exact ⟨hevaluate, evaluate_ne_out_of_bounds hevaluate⟩

/-- A schema with two columns of each name, one of which is empty. -/
def stalls : Schema := [⟨"kind", .string⟩, ⟨"", .int64⟩, ⟨"kind", .int64⟩, ⟨"", .boolean⟩]

theorem build_in_order_stalls :
    let bound := ["kind == x", ">= 2"]
    let predicates : Filter :=
      [⟨"kind", 0, .relation .eq, .string "x"⟩, ⟨"", 1, .relation .ge, .integer 2⟩]
    let row : Row := [.string "x", .null, .int64 1, .null]
    ((∀ text ∈ bound, ∀ e, ¬ Faulty stalls text e) ∧
      Faulty stalls "size < 1" (.unknownColumn "size") ∧
      Faulty stalls "nothing" (.invalidCondition "nothing") ∧
      build stalls (bound ++ "size < 1" :: ["nothing"]) = .error (.unknownColumn "size") ∧
      build stalls (bound ++ "nothing" :: ["size < 1"]) = .error (.invalidCondition "nothing") ∧
      ∃ predicates, build stalls bound = .ok predicates ∧
        (predicates.isEmpty = true ↔ bound = []) ∧ List.Forall₂ (Binds stalls) bound predicates) ∧
    (build stalls bound = .ok predicates ∧ row.length = stalls.length ∧
      predicates.evaluate row ≠ .error (.positionOutOfBounds 1 4)) := by
  intro bound predicates row
  have hkind : predicate stalls "kind == x" = .ok ⟨"kind", 0, .relation .eq, .string "x"⟩ := by rfl
  have hempty : predicate stalls ">= 2" = .ok ⟨"", 1, .relation .ge, .integer 2⟩ := by rfl
  have hsize : predicate stalls "size < 1" = .error (.unknownColumn "size") := by cbv
  have hnothing : predicate stalls "nothing" = .error (.invalidCondition "nothing") := by cbv
  have hbound : ∀ text ∈ bound, ∀ e, ¬ Faulty stalls text e := by
    intro text hm
    rcases List.mem_pair.mp hm with rfl | rfl
    · exact forall_not_faulty_iff.mpr ⟨_, predicate_eq_ok_iff.mp hkind⟩
    · exact forall_not_faulty_iff.mpr ⟨_, predicate_eq_ok_iff.mp hempty⟩
  have hbuild : build stalls bound = .ok predicates :=
    build_eq_ok_iff.mpr
      (.cons (predicate_eq_ok_iff.mp hkind) (.cons (predicate_eq_ok_iff.mp hempty) .nil))
  have hsize := predicate_eq_error_iff.mp hsize
  have hnothing := predicate_eq_error_iff.mp hnothing
  have hwidth : row.length = stalls.length := rfl
  obtain ⟨first, binds, -, rows⟩ := build_in_order stalls
  exact ⟨⟨hbound, hsize, hnothing, first _ _ _ _ hbound hsize, first _ _ _ _ hbound hnothing,
      binds bound hbound⟩,
    hbuild, hwidth, (rows bound predicates hbuild row hwidth 1 4).2⟩

end Filter

end TableScope
