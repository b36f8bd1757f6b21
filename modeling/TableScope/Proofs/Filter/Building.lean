import TableScope.Proofs.Table.Positions

/-! # Building filters

The predicates of a filter that was built are bound to the first columns of their names
(`position?_of_mem_build`), so that their positions are in range of the schema. What can be wrong with
conditions on a schema is therefore one of three things (`FilterError.OfConditions`), and the schema
alone decides which (`Filter.verdict`). Building and checking both stop at the first error of the
list (`build_eq`, `checkSchema_eq`).
-/
set_option autoImplicit false

namespace TableScope

theorem exists_ok_of_bind {ε α β : Type} {x : Except ε α} {f : α → Except ε β} {b : β}
    (h : (x >>= f) = .ok b) : ∃ a, x = .ok a ∧ f a = .ok b := by
  cases x with
  | error e => cases h
  | ok a => exact ⟨a, rfl, h⟩

def errorOf? {ε α : Type} : Except ε α → Option ε
  | .error e => some e
  | .ok _ => none

namespace Filter

variable {schema : Schema} {conditions : List String} {predicates : Filter} {e : FilterError}

theorem position?_of_predicate {text : String} {p : Predicate} (h : predicate schema text = .ok p) :
    schema.position? p.column = some p.position := by
  obtain ⟨condition, -, hb⟩ := exists_ok_of_bind h
  rw [Predicate.bind] at hb
  cases hp : schema.position? condition.column with
  | none => rw [hp] at hb; cases hb
  | some position =>
    rw [hp] at hb
    cases hb
    exact hp

theorem position?_of_mem_build (h : build schema conditions = .ok predicates) :
    ∀ p ∈ predicates, schema.position? p.column = some p.position := by
  induction conditions generalizing predicates with
  | nil => cases h; exact nofun
  | cons text others ih =>
    obtain ⟨first, hf, h⟩ := exists_ok_of_bind h
    obtain ⟨rest, hr, h⟩ := exists_ok_of_bind h
    cases h
    exact List.forall_mem_cons.mpr ⟨position?_of_predicate hf, ih hr⟩

/-! ## Errors -/

theorem build_eq (schema : Schema) (conditions : List String) :
    build schema conditions =
      match conditions.findSome? fun text => errorOf? (predicate schema text) with
      | some e => .error e
      | none => .ok (conditions.filterMap fun text => (predicate schema text).toOption) := by
  induction conditions with
  | nil => rfl
  | cons text others ih =>
    rw [build, ih, List.findSome?_cons, List.filterMap_cons]
    cases predicate schema text with
    | error e => rfl
    | ok p =>
      generalize (others.findSome? fun text => errorOf? (predicate schema text)) = error
      cases error <;> rfl

theorem checkSchema_eq (predicates : Filter) (schema : Schema) :
    predicates.checkSchema schema =
      match predicates.findSome? fun p => errorOf? (p.checkSchema schema) with
      | some e => .error e
      | none => .ok () := by
  induction predicates with
  | nil => rfl
  | cons p others ih =>
    rw [checkSchema, ih, List.findSome?_cons]
    cases p.checkSchema schema <;> rfl

end Filter

end TableScope
