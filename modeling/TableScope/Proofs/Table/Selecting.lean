import TableScope.Proofs.Filter.Moving
import TableScope.Proofs.Table.Runs

/-! # Selecting columns twice

The names of a selection are found by first match in the columns of the one before, where a name
stands at the place it was first asked for. The column that it is given there is the one that it has in
the whole table (`Schema.pick_position?_pick`), also where names repeat, so the last of two selections
counts alone (`select_composes`).
-/
set_option autoImplicit false

namespace TableScope

namespace Schema

variable {schema : Schema} {outer inner : List String}

/-- The names find the same columns among some columns that have them as among all columns. -/
theorem pick_position?_pick (ho : ∀ name ∈ outer, schema.hasColumn name = true)
    (hi : inner ⊆ outer) :
    pick (outer.filterMap schema.position?)
        (inner.filterMap (position? (pick schema (outer.filterMap schema.position?)))) =
      inner.filterMap schema.position? := by
  rw [pick, List.filterMap_filterMap]
  apply List.filterMap_congr
  intro name hname
  obtain ⟨position, hposition⟩ := Option.isSome_iff_exists.mp (ho name (hi hname))
  have hmem : position ∈ outer.filterMap schema.position? :=
    List.mem_filterMap.mpr ⟨name, hi hname, hposition⟩
  rw [position?_pick ho (hi hname), hposition]
  exact List.getElem?_idxOf hmem

/-- Names that do not repeat stand for the columns one by one. -/
theorem filterMap_position?_names (h : schema.names.Nodup) :
    schema.names.filterMap schema.position? = List.range schema.length := by
  rw [filterMap_position? fun _ hname => hname]
  have hlength : schema.names.length = schema.length := List.length_map ..
  apply List.ext_getElem
  · rw [List.length_map, List.length_range, hlength]
  · intro i hi hi'
    rw [List.getElem_map, List.getElem_range, h.idxOf_getElem]

end Schema

namespace Table

variable {table : Table} {outer inner : List String}

theorem hasColumn_of_subset (h : outer ⊆ table.schema.names) :
    ∀ name ∈ outer, table.schema.hasColumn name = true :=
  fun _ hname => Schema.hasColumn_iff.mpr (h hname)

theorem picked_picked {positions others : List Nat}
    (h : ∀ position ∈ positions, position < table.schema.length) :
    (table.picked positions).picked others = table.picked (pick positions others) := by
  apply Table.ext
  · exact pick_pick table.schema positions others h
  · change (table.rows.map fun row => pick row positions).map (fun row => pick row others) = _
    rw [List.map_map]
    apply List.map_congr_left
    intro row hrow
    exact pick_pick row positions others fun position hp =>
      (table.rectangular row hrow).symm ▸ h position hp

theorem picked_range : table.picked (List.range table.schema.length) = table := by
  apply Table.ext
  · exact pick_range table.schema
  · have hrow : ∀ row ∈ table.rows, pick row (List.range table.schema.length) = row :=
      fun row hr => table.rectangular row hr ▸ pick_range row
    exact (List.map_congr_left hrow).trans (List.map_id _)

/-- Of two selections the last one counts if it asks for no more than the first. -/
theorem select_select (ho : outer ⊆ table.schema.names) (hi : inner ⊆ outer) :
    (table.select outer >>= fun selected => selected.select inner) = table.select inner := by
  have houter := hasColumn_of_subset ho
  have hinner : inner ⊆ (table.picked (outer.filterMap table.schema.position?)).schema.names := by
    rw [picked, Schema.names_pick houter]
    exact hi
  rw [table.select_eq_ok outer houter,
    table.select_eq_ok inner (hasColumn_of_subset (List.Subset.trans hi ho))]
  change Table.select _ inner = _
  rw [select_eq_ok _ inner (hasColumn_of_subset hinner),
    picked_picked fun _ => Schema.lt_of_mem_positions]
  exact congrArg (fun positions => Except.ok (table.picked positions))
    (Schema.pick_position?_pick houter hi)

/-- A name that was not selected is not found, although the table may have it. -/
theorem select_select_eq_error (ho : outer ⊆ table.schema.names) {name : String}
    (h : inner.find? (fun name => decide (name ∉ outer)) = some name) :
    (table.select outer >>= fun selected => selected.select inner) =
      .error (.unknownColumn name) := by
  have houter := hasColumn_of_subset ho
  rw [table.select_eq_ok outer houter]
  apply select_eq_error
  rw [picked, Schema.names_pick houter]
  exact h

/-- Columns and rows are taken in either order, if the rows are taken by their place alone. -/
theorem select_withRows (keep : List Row → List Row) (hk : ∀ rows, keep rows ⊆ rows)
    (hmap : ∀ (f : Row → Row) (rows : List Row), keep (rows.map f) = (keep rows).map f)
    (names : List String) :
    (table.select names >>= fun selected => .ok (selected.withRows (keep selected.rows) (hk _))) =
      (table.withRows (keep table.rows) (hk _)).select names := by
  generalize hkept : table.withRows (keep table.rows) (hk _) = kept
  have hschema : kept.schema = table.schema := hkept ▸ rfl
  cases hf : names.find? fun name => decide (name ∉ table.schema.names) with
  | some name =>
    rw [table.select_eq_error hf, kept.select_eq_error (hschema ▸ hf)]
    rfl
  | none =>
    have hn : ∀ name ∈ names, table.schema.hasColumn name = true :=
      hasColumn_of_subset fun name hm => by simpa using List.find?_eq_none.mp hf name hm
    rw [table.select_eq_ok names hn, kept.select_eq_ok names (hschema ▸ hn)]
    subst hkept
    exact congrArg Except.ok (Table.ext rfl (hmap _ table.rows))

theorem select_head (names : List String) (count : Nat) :
    (table.select names >>= fun selected => selected.head count) =
      table.head count >>= fun rest => rest.select names := by
  simp only [head_eq_ok]
  exact select_withRows (List.take count) (fun _ => List.take_subset ..)
    (fun _ _ => List.map_take.symm) names

theorem select_tail (names : List String) (count : Nat) :
    (table.select names >>= fun selected => selected.tail count) =
      table.tail count >>= fun rest => rest.select names := by
  simp only [tail_eq_ok]
  refine select_withRows (fun rows => rows.drop (rows.length - count))
    (fun _ => List.drop_subset ..) (fun f rows => ?_) names
  rw [List.length_map, List.map_drop]

/-- All columns in their order are the table, if each is found by its name. -/
theorem select_names (h : table.schema.names.Nodup) : table.select table.schema.names = .ok table := by
  rw [table.select_eq_ok _ (hasColumn_of_subset (List.Subset.refl _)),
    Schema.filterMap_position?_names h, picked_range]

/-- Selections compose, change places with rows taken from either end, and are undone by the names of
the table where no name repeats. -/
theorem select_composes (table : Table) :
    (∀ outer inner : List String, outer ⊆ table.schema.names →
      ((∃ selected, (table.select outer >>= fun selected => selected.select inner) = .ok selected) ↔
        inner ⊆ outer) ∧
      (inner ⊆ outer →
        (table.select outer >>= fun selected => selected.select inner) = table.select inner) ∧
      (∀ name, inner.find? (fun name => decide (name ∉ outer)) = some name →
        (table.select outer >>= fun selected => selected.select inner) =
          .error (.unknownColumn name))) ∧
    (∀ (names : List String) (count : Nat),
      (table.select names >>= fun selected => selected.head count) =
        (table.head count >>= fun rest => rest.select names) ∧
      (table.select names >>= fun selected => selected.tail count) =
        (table.tail count >>= fun rest => rest.select names)) ∧
    (table.schema.names.Nodup →
      table.select table.schema.names = .ok table ∧
      ∀ names : List String, names.Perm table.schema.names →
        (table.select names >>= fun selected => selected.select table.schema.names) =
          .ok table) := by
  refine ⟨fun outer inner ho =>
      ⟨⟨?_, ?_⟩, select_select ho, fun _ => select_select_eq_error ho⟩,
    fun names count => ⟨select_head names count, select_tail names count⟩, fun hd => ⟨?_, ?_⟩⟩
  · rintro ⟨selected, hs⟩ name hname
    by_contra hmissing
    cases hf : inner.find? fun name => decide (name ∉ outer) with
    | none => exact hmissing (by simpa using List.find?_eq_none.mp hf name hname)
    | some first =>
      rw [select_select_eq_error ho hf] at hs
      cases hs
  · intro hi
    rw [select_select ho hi]
    exact ⟨_, table.select_eq_ok inner (hasColumn_of_subset (List.Subset.trans hi ho))⟩
  · exact select_names hd
  · intro names hp
    rw [select_select hp.subset hp.symm.subset, select_names hd]

/-- The name "unit" stands for the first of two columns. -/
def scales : Table where
  schema := [⟨"unit", .string⟩, ⟨"mass", .int64⟩, ⟨"unit", .other⟩, ⟨"zero", .boolean⟩]
  rows := [[.string "g", .int64 5, .null, .boolean true], [.null, .int64 8, .string "lb", .null]]
  rectangular := by decide

def weights : Table where
  schema := [⟨"unit", .string⟩, ⟨"mass", .int64⟩, ⟨"zero", .boolean⟩]
  rows := [[.string "g", .int64 5, .boolean true], [.null, .int64 8, .null]]
  rectangular := by decide

theorem select_composes_scales :
    let outer := ["mass", "unit", "mass"]
    (outer ⊆ scales.schema.names ∧ ["unit", "unit", "mass"] ⊆ outer ∧
      (scales.select outer >>= fun selected => selected.select ["unit", "unit", "mass"]) =
        scales.select ["unit", "unit", "mass"] ∧
      ["unit", "zero", "none"].find? (fun name => decide (name ∉ outer)) = some "zero" ∧
      (scales.select outer >>= fun selected => selected.select ["unit", "zero", "none"]) =
        .error (.unknownColumn "zero")) ∧
    weights.schema.names.Nodup ∧ ["zero", "unit", "mass"].Perm weights.schema.names ∧
    (weights.select ["zero", "unit", "mass"] >>= fun selected =>
      selected.select weights.schema.names) = .ok weights := by
  intro outer
  have houter : outer ⊆ scales.schema.names := by decide
  have hinner : ["unit", "unit", "mass"] ⊆ outer := by decide
  have hfirst : ["unit", "zero", "none"].find? (fun name => decide (name ∉ outer)) =
      some "zero" := by decide
  have hdistinct : weights.schema.names.Nodup := by decide
  have hperm : ["zero", "unit", "mass"].Perm weights.schema.names := by decide
  obtain ⟨-, composed, -⟩ := (select_composes scales).1 _ ["unit", "unit", "mass"] houter
  obtain ⟨-, -, missing⟩ := (select_composes scales).1 _ ["unit", "zero", "none"] houter
  exact ⟨⟨houter, hinner, composed hinner, hfirst, missing "zero" hfirst⟩, hdistinct, hperm,
    ((select_composes weights).2.2 hdistinct).2 _ hperm⟩

end Table

end TableScope
