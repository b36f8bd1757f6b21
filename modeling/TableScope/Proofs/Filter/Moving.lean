import TableScope.Proofs.Filter.Building

/-! # Filters on rearranged rows

Selecting columns by name moves the column that a condition is bound to. It is found again by its name
(`Schema.position?_pick`), so a filter built on the selected columns is the filter built on all columns
with its positions moved (`Filter.build_pick`). A filter and a moved one do the same with a row and with
the row that is left of it: `checkSchema_moved` and `evaluate_moved`.
-/
set_option autoImplicit false

namespace TableScope

/-! ## Names among the columns of some names -/

namespace Schema

variable {schema : Schema} {names : List String} {name : String}

theorem exists_pick_cons {first : String} (h : schema.hasColumn first = true) (others : List String) :
    ∃ position column, schema.position? first = some position ∧ schema[position]? = some column ∧
      column.name = first ∧ pick schema ((first :: others).filterMap schema.position?) =
        column :: pick schema (others.filterMap schema.position?) := by
  obtain ⟨position, hp⟩ := Option.isSome_iff_exists.mp h
  obtain ⟨column, hcolumn, hname⟩ := name_of_position? hp
  obtain ⟨hlt, hget⟩ := List.getElem?_eq_some_iff.mp hcolumn
  refine ⟨position, column, hp, hcolumn, hname, ?_⟩
  rw [List.filterMap_cons_some hp, pick_cons schema _ _ hlt, hget]

/-- Among the columns of some names each name stands where it is first asked for. -/
theorem position?_pick (hn : ∀ name ∈ names, schema.hasColumn name = true) (hm : name ∈ names) :
    position? (pick schema (names.filterMap schema.position?)) name =
      (schema.position? name).map fun position =>
        (names.filterMap schema.position?).idxOf position := by
  induction names with
  | nil => cases hm
  | cons first others ih =>
    obtain ⟨position, column, hp, hcolumn, hname, hcons⟩ :=
      exists_pick_cons (hn first List.mem_cons_self) others
    rw [hcons, List.filterMap_cons_some hp]
    by_cases hf : first = name
    · subst hf
      rw [position?, List.findIdx?_cons, hname, beq_self_eq_true, if_pos rfl, hp, Option.map_some,
        List.idxOf_cons_self]
    · have hmo : name ∈ others := (List.mem_cons.mp hm).resolve_left (Ne.symm hf)
      obtain ⟨other, ho⟩ := Option.isSome_iff_exists.mp (hn name hm)
      -- columns found by different names are at different places, so the first one is passed over
      have hne : position ≠ other := by
        rintro rfl
        obtain ⟨column', hcolumn', hname'⟩ := name_of_position? ho
        rw [hcolumn] at hcolumn'
        cases hcolumn'
        exact hf (hname.symm.trans hname')
      have hrest := ih (fun other h => hn other (List.mem_cons_of_mem _ h)) hmo
      rw [position?, List.findIdx?_cons, hname, beq_false_of_ne hf]
      rw [position?] at hrest
      rw [hrest, ho]
      simp [List.idxOf_cons_ne _ hne]

/-- The columns of some names have these names. -/
theorem names_pick (hn : ∀ name ∈ names, schema.hasColumn name = true) :
    Schema.names (pick schema (names.filterMap schema.position?)) = names := by
  induction names with
  | nil => rfl
  | cons first others ih =>
    obtain ⟨-, column, -, -, hname, hcons⟩ := exists_pick_cons (hn first List.mem_cons_self) others
    rw [hcons, Schema.names, List.map_cons, hname]
    exact congrArg (first :: ·) (ih fun other h => hn other (List.mem_cons_of_mem _ h))

end Schema

/-! ## Predicates -/

namespace Predicate

/-- The predicate for what is left of a row at some positions. -/
def moved (positions : List Nat) (p : Predicate) : Predicate :=
  { p with position := positions.idxOf p.position }

variable {p : Predicate} {positions : List Nat} {schema : Schema} {row : Row}

theorem getElem?_pick_moved {α : Type} (items : List α) (hm : p.position ∈ positions)
    (hr : ∀ position ∈ positions, position < items.length) :
    (pick items positions)[(p.moved positions).position]? = items[p.position]? := by
  rw [getElem?_pick items positions hr, moved, List.getElem?_idxOf hm]
  rfl

theorem checkSchema_moved (hm : p.position ∈ positions)
    (hr : ∀ position ∈ positions, position < schema.length) :
    (p.moved positions).checkSchema (pick schema positions) = p.checkSchema schema := by
  have hcolumn := List.getElem?_eq_getElem (hr _ hm)
  have hmoved := getElem?_pick_moved schema hm hr
  rw [hcolumn] at hmoved
  rw [checkSchema, checkSchema, Schema.type?, Schema.type?, hmoved, hcolumn]
  rfl

theorem evaluate_moved (hm : p.position ∈ positions)
    (hr : ∀ position ∈ positions, position < row.length) :
    (p.moved positions).evaluate (pick row positions) = p.evaluate row := by
  have hcell := List.getElem?_eq_getElem (hr _ hm)
  have hmoved := getElem?_pick_moved row hm hr
  rw [hcell] at hmoved
  rw [evaluate, evaluate, hmoved, hcell]
  rfl

end Predicate

/-! ## Filters -/

namespace Filter

variable {predicates : Filter} {positions : List Nat} {schema : Schema}

theorem checkSchema_moved (hm : ∀ p ∈ predicates, p.position ∈ positions)
    (hr : ∀ position ∈ positions, position < schema.length) :
    checkSchema (predicates.map (Predicate.moved positions)) (pick schema positions) =
      checkSchema predicates schema := by
  induction predicates with
  | nil => rfl
  | cons p others ih =>
    obtain ⟨hp, ho⟩ := List.forall_mem_cons.mp hm
    rw [List.map_cons, checkSchema, checkSchema, Predicate.checkSchema_moved hp hr, ih ho]

theorem evaluate_moved {row : Row} (hm : ∀ p ∈ predicates, p.position ∈ positions)
    (hr : ∀ position ∈ positions, position < row.length) :
    evaluate (predicates.map (Predicate.moved positions)) (pick row positions) =
      evaluate predicates row := by
  induction predicates with
  | nil => rfl
  | cons p others ih =>
    obtain ⟨hp, ho⟩ := List.forall_mem_cons.mp hm
    rw [List.map_cons, evaluate, evaluate, Predicate.evaluate_moved hp hr, ih ho]

/-- A condition on one of some names. -/
def About (names : List String) (text : String) : Prop :=
  ∃ condition, Condition.parse text = .ok condition ∧ condition.column ∈ names

variable {names : List String} (hn : ∀ name ∈ names, schema.hasColumn name = true)

include hn

theorem predicate_pick {text : String} (h : About names text) :
    ∃ p, predicate schema text = .ok p ∧ p.position ∈ names.filterMap schema.position? ∧
      predicate (pick schema (names.filterMap schema.position?)) text =
        .ok (p.moved (names.filterMap schema.position?)) := by
  obtain ⟨condition, hp, hm⟩ := h
  obtain ⟨position, hposition⟩ := Option.isSome_iff_exists.mp (hn condition.column hm)
  have hpicked := Schema.position?_pick hn hm
  rw [hposition, Option.map_some] at hpicked
  refine ⟨⟨condition.column, position, condition.operator, .ofText condition.literal.toList⟩, ?_,
    List.mem_filterMap.mpr ⟨condition.column, hm, hposition⟩, ?_⟩
  · rw [predicate, hp]
    simp only [bind, Except.bind, Predicate.bind, hposition]
  · rw [predicate, hp]
    simp only [bind, Except.bind, Predicate.bind, hpicked, Predicate.moved]

theorem build_pick {conditions : List String} (h : ∀ text ∈ conditions, About names text) :
    ∃ predicates, build schema conditions = .ok predicates ∧
      (∀ p ∈ predicates, p.position ∈ names.filterMap schema.position?) ∧
      build (pick schema (names.filterMap schema.position?)) conditions =
        .ok (predicates.map (Predicate.moved (names.filterMap schema.position?))) := by
  induction conditions with
  | nil => exact ⟨[], rfl, nofun, rfl⟩
  | cons text others ih =>
    obtain ⟨ht, ho⟩ := List.forall_mem_cons.mp h
    obtain ⟨p, hp, hm, hp'⟩ := predicate_pick hn ht
    obtain ⟨predicates, hb, hms, hb'⟩ := ih ho
    refine ⟨p :: predicates, ?_, List.forall_mem_cons.mpr ⟨hm, hms⟩, ?_⟩
    · rw [build, hp, hb]
      rfl
    · rw [build, hp', hb']
      rfl

/-- The first condition on another name is an error. -/
theorem build_pick_eq_error {before after : List String} {text : String} {condition : Condition}
    (hb : ∀ text ∈ before, About names text) (hp : Condition.parse text = .ok condition)
    (hm : condition.column ∉ names) :
    build (pick schema (names.filterMap schema.position?)) (before ++ text :: after) =
      .error (.unknownColumn condition.column) := by
  induction before with
  | nil =>
    have hnone : Schema.position? (pick schema (names.filterMap schema.position?))
        condition.column = none := by
      rw [Schema.position?, List.findIdx?_eq_none_iff]
      intro column hc
      rw [beq_eq_false_iff_ne]
      rintro heq
      apply hm
      rw [← heq, ← Schema.names_pick hn]
      exact List.mem_map_of_mem hc
    rw [List.nil_append, build, predicate, hp]
    simp only [bind, Except.bind, Predicate.bind, hnone]
  | cons first others ih =>
    obtain ⟨hfirst, hothers⟩ := List.forall_mem_cons.mp hb
    obtain ⟨p, -, -, hp'⟩ := predicate_pick hn hfirst
    rw [List.cons_append, build, hp', ih hothers]
    rfl

end Filter

end TableScope
