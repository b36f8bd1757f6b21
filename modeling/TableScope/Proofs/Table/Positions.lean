import Mathlib.Data.List.Basic
import TableScope.Table.Basic

/-! # Items at positions

Rows and schemas are rearranged by position, and a position past the end is an error of its own kind.
`pick` is the same rearrangement without the errors: on positions in range it is what
`Row.project` and `Schema.project` return.
-/
set_option autoImplicit false

namespace TableScope

variable {α β : Type}

/-- The items at some positions, in the order of the positions. Positions past the end are left out. -/
def pick (items : List α) (positions : List Nat) : List α :=
  positions.filterMap fun position => items[position]?

theorem pick_cons (items : List α) (position : Nat) (positions : List Nat)
    (h : position < items.length) :
    pick items (position :: positions) = items[position] :: pick items positions := by
  rw [pick, List.filterMap_cons, List.getElem?_eq_getElem h]
  rfl

theorem pick_cons_of_le (items : List α) (position : Nat) (positions : List Nat)
    (h : items.length ≤ position) : pick items (position :: positions) = pick items positions := by
  rw [pick, List.filterMap_cons, List.getElem?_eq_none h]
  rfl

theorem length_pick_congr {items : List α} {others : List β} (h : items.length = others.length)
    (positions : List Nat) : (pick items positions).length = (pick others positions).length := by
  induction positions with
  | nil => rfl
  | cons position positions ih =>
    by_cases hp : position < items.length
    · rw [pick_cons items _ _ hp, pick_cons others _ _ (h ▸ hp)]
      simp [ih]
    · have hp' : items.length ≤ position := Nat.le_of_not_lt hp
      rw [pick_cons_of_le items _ _ hp', pick_cons_of_le others _ _ (h ▸ hp'), ih]

theorem getElem?_pick (items : List α) (positions : List Nat)
    (h : ∀ position ∈ positions, position < items.length) (i : Nat) :
    (pick items positions)[i]? = positions[i]?.bind fun position => items[position]? := by
  induction positions generalizing i with
  | nil => rfl
  | cons position positions ih =>
    have hp : position < items.length := h position (by simp)
    rw [pick_cons items _ _ hp]
    cases i with
    | zero => simp [List.getElem?_eq_getElem hp]
    | succ i =>
      simpa using ih (fun other ho => h other (List.mem_cons_of_mem _ ho)) i

theorem pick_map (f : α → β) (items : List α) (positions : List Nat) :
    pick (items.map f) positions = (pick items positions).map f := by
  simp only [pick, List.map_filterMap, List.getElem?_map]

/-- Rearranging twice is rearranging once, by the positions that the inner positions stand for. -/
theorem pick_pick (items : List α) (outer inner : List Nat)
    (h : ∀ position ∈ outer, position < items.length) :
    pick (pick items outer) inner = pick items (pick outer inner) := by
  rw [pick, pick, pick, pick, List.filterMap_filterMap]
  apply List.filterMap_congr
  intro position _
  exact getElem?_pick items outer h position

theorem pick_range (items : List α) : pick items (List.range items.length) = items := by
  apply List.ext_getElem?
  intro i
  rw [getElem?_pick items _ fun position hp => List.mem_range.mp hp]
  by_cases hi : i < items.length
  · simp [hi]
  · simp [Nat.le_of_not_lt hi]

theorem zip_pick {items : List α} {others : List β} (h : items.length = others.length)
    (positions : List Nat) :
    (pick items positions).zip (pick others positions) = pick (items.zip others) positions := by
  induction positions with
  | nil => rfl
  | cons position positions ih =>
    by_cases hp : position < items.length
    · rw [pick_cons items _ _ hp, pick_cons others _ _ (h ▸ hp), List.zip_cons_cons, ih]
      rw [pick_cons (items.zip others) _ _ (by rw [List.length_zip]; omega), List.getElem_zip]
    · have hp' : items.length ≤ position := Nat.le_of_not_lt hp
      rw [pick_cons_of_le items _ _ hp', pick_cons_of_le others _ _ (h ▸ hp'), ih]
      rw [pick_cons_of_le (items.zip others) _ _ (by rw [List.length_zip]; omega)]

theorem mem_of_mem_pick {items : List α} {positions : List Nat} {item : α}
    (h : item ∈ pick items positions) : item ∈ items := by
  obtain ⟨position, _, hp⟩ := List.mem_filterMap.mp h
  exact List.mem_of_getElem? hp

/-! ## Rearranging rows and schemas -/

theorem Row.project_eq_ok (row : Row) (positions : List Nat)
    (h : ∀ position ∈ positions, position < row.length) :
    Row.project row positions = .ok (pick row positions) := by
  induction positions with
  | nil => rfl
  | cons position positions ih =>
    have hp : position < row.length := h position (by simp)
    rw [Row.project, List.getElem?_eq_getElem hp, pick_cons row _ _ hp]
    rw [ih fun other ho => h other (List.mem_cons_of_mem _ ho)]
    rfl

namespace Schema

theorem project_eq_ok (schema : Schema) (positions : List Nat)
    (h : ∀ position ∈ positions, position < schema.length) :
    schema.project positions = .ok (pick schema positions) := by
  induction positions with
  | nil => rfl
  | cons position positions ih =>
    have hp : position < schema.length := h position (by simp)
    rw [project, List.getElem?_eq_getElem hp, pick_cons schema _ _ hp]
    rw [ih fun other ho => h other (List.mem_cons_of_mem _ ho)]
    rfl

/-- The first position out of range is the one that the error names. -/
theorem project_eq_error (schema : Schema) (positions : List Nat) (position : Nat)
    (h : positions.find? (fun position => decide (schema.length ≤ position)) = some position) :
    schema.project positions = .error (.noColumn position schema.length) := by
  induction positions with
  | nil => cases h
  | cons first positions ih =>
    by_cases hf : schema.length ≤ first
    · rw [List.find?_cons_of_pos (by simpa using hf)] at h
      cases h
      rw [project, List.getElem?_eq_none hf]
    · rw [List.find?_cons_of_neg (by simpa using hf)] at h
      rw [project, List.getElem?_eq_getElem (Nat.lt_of_not_le hf), ih h]
      rfl

theorem hasColumn_iff {schema : Schema} {name : String} :
    schema.hasColumn name = true ↔ name ∈ schema.names := by
  rw [hasColumn, position?, List.findIdx?_isSome, List.any_eq_true, names, List.mem_map]
  simp only [beq_iff_eq]

theorem name_of_position? {schema : Schema} {name : String} {position : Nat}
    (h : schema.position? name = some position) :
    ∃ column, schema[position]? = some column ∧ column.name = name := by
  obtain ⟨hlt, hname, -⟩ := List.findIdx?_eq_some_iff_getElem.mp h
  exact ⟨schema[position], List.getElem?_eq_getElem hlt, by simpa using hname⟩

theorem position?_lt {schema : Schema} {name : String} {position : Nat}
    (h : schema.position? name = some position) : position < schema.length := by
  obtain ⟨_, hcolumn, -⟩ := name_of_position? h
  exact (List.getElem?_eq_some_iff.mp hcolumn).1

theorem positions_eq_ok (schema : Schema) (names : List String)
    (h : ∀ name ∈ names, schema.hasColumn name = true) :
    schema.positions names = .ok (names.filterMap schema.position?) := by
  induction names with
  | nil => rfl
  | cons name names ih =>
    obtain ⟨position, hp⟩ := Option.isSome_iff_exists.mp (h name (by simp))
    rw [positions, hp, List.filterMap_cons, hp]
    simp only
    rw [ih fun other ho => h other (List.mem_cons_of_mem _ ho)]
    rfl

theorem lt_of_mem_positions {schema : Schema} {names : List String} {position : Nat}
    (h : position ∈ names.filterMap schema.position?) : position < schema.length := by
  obtain ⟨_, _, hp⟩ := List.mem_filterMap.mp h
  exact position?_lt hp

end Schema

end TableScope
