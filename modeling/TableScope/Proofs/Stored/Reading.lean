import TableScope.Proofs.Stored.Loading

/-! # Reading some columns and rows

Reading resolves the names in the whole file, loads the columns found in the order of the file, and
resolves the names again among these. Both resolutions find the same column (`find?_keep`), so reading
is the same as selecting the columns and rows from the whole table (`Loadable.read_eq`).
-/
set_option autoImplicit false

namespace TableScope

theorem mem_distinct {names : List String} {name : String} :
    name ∈ distinct names ↔ name ∈ names := by
  induction names with
  | nil => rfl
  | cons first others ih =>
    rw [distinct, List.mem_cons, List.mem_cons, List.mem_filter, bne_iff_ne, ih]
    by_cases hf : name = first
    · simp [hf]
    · simp [hf]

/-- Leaving out repetitions does not change which name is found first. -/
theorem find?_distinct (names : List String) (test : String → Bool) :
    (distinct names).find? test = names.find? test := by
  induction names with
  | nil => rfl
  | cons first others ih =>
    rw [distinct, List.find?_cons, List.find?_cons]
    cases ht : test first with
    | true => rfl
    | false =>
      rw [List.find?_filter, ← ih]
      simp only
      congr 1
      funext other
      by_cases ho : other = first
      · simp [ho, ht]
      · simp [ho]

theorem distinct_of_nodup {names : List String} (h : names.Nodup) : distinct names = names := by
  induction names with
  | nil => rfl
  | cons first others ih =>
    obtain ⟨hn, ho⟩ := List.nodup_cons.mp h
    rw [distinct, ih ho]
    congr 1
    apply List.filter_eq_self.mpr
    intro other hm
    rw [bne_iff_ne]
    rintro rfl
    exact hn hm

def Table.upTo (table : Table) (limit : Option Nat) : Table :=
  table.withRows (limit.elim table.rows fun limit => table.rows.take limit) (by
    cases limit with
    | none => exact fun _ h => h
    | some limit => exact List.take_subset _ _)

namespace Batch

variable (batch : Batch)

def table : Table where
  schema := batch.schema
  rows := batch.cellRows
  rectangular := fun _ h => (fits_of_mem_cellRows h).1

theorem table_conforming : batch.table.Conforming := fun _ h => fits_of_mem_cellRows h

/-! ## Columns by name -/

theorem bind_position? (name : String) :
    (batch.schema.position? name).bind (fun position => batch.columns[position]?) =
      batch.columns.find? fun stored => stored.name == name := by
  rw [Schema.position?, schema, List.findIdx?_map, List.find?_eq_bind_findIdx?_getElem?]
  rfl

theorem hasColumn_eq (name : String) :
    batch.schema.hasColumn name = (batch.columns.find? fun stored => stored.name == name).isSome := by
  rw [Schema.hasColumn, Schema.position?, schema, List.findIdx?_map, List.findIdx?_isSome,
    List.isSome_find?]
  rfl

theorem pick_positions (names : List String) :
    pick batch.columns (names.filterMap batch.schema.position?) =
      names.filterMap fun name => batch.columns.find? fun stored => stored.name == name := by
  rw [pick, List.filterMap_filterMap]
  exact congrArg (List.filterMap · names) (funext batch.bind_position?)

theorem positions_eq_ok (names : List String)
    (h : ∀ name ∈ names, batch.schema.hasColumn name = true) :
    batch.positions names = .ok (names.filterMap batch.schema.position?) := by
  induction names with
  | nil => rfl
  | cons name names ih =>
    obtain ⟨position, hp⟩ := Option.isSome_iff_exists.mp (h name List.mem_cons_self)
    rw [positions, hp, List.filterMap_cons, hp]
    simp only
    rw [ih fun other ho => h other (List.mem_cons_of_mem _ ho)]
    rfl

/-- Leaving out columns does not change which column is found first, if that one is kept. -/
theorem find?_keep {α : Type} (items : List α) (found : α → Bool) (test : Nat → Bool) (start : Nat)
    (h : ∀ position, items.findIdx? found = some position → test (start + position) = true) :
    (((items.zipIdx start).filter fun entry => test entry.2).map Prod.fst).find? found =
      items.find? found := by
  induction items generalizing start with
  | nil => rfl
  | cons item items ih =>
    rw [List.zipIdx_cons, List.filter_cons]
    cases hf : found item with
    | true =>
      have ht : test start = true := h 0 (by rw [List.findIdx?_cons, hf]; rfl)
      simp [ht, hf]
    | false =>
      have hi : ∀ position, items.findIdx? found = some position →
          test (start + 1 + position) = true := by
        intro position hp
        rw [Nat.add_assoc, Nat.add_comm 1]
        apply h
        rw [List.findIdx?_cons, hf, hp]
        rfl
      cases ht : test start with
      | true => simpa [hf] using ih (start + 1) hi
      | false => simpa [hf] using ih (start + 1) hi

theorem find?_columns_keep {names : List String} {name : String} (hm : name ∈ names) :
    (batch.keep (names.filterMap batch.schema.position?).contains).columns.find?
        (fun stored => stored.name == name) =
      batch.columns.find? fun stored => stored.name == name := by
  apply find?_keep
  intro position hp
  rw [Nat.zero_add, List.contains_iff_mem, List.mem_filterMap]
  refine ⟨name, hm, ?_⟩
  rw [Schema.position?, schema, List.findIdx?_map]
  exact hp

/-- The named columns are the same among those that are kept for them as in the whole file. -/
theorem pick_keep (names : List String) :
    let kept := batch.keep (names.filterMap batch.schema.position?).contains
    pick kept.columns (names.filterMap kept.schema.position?) =
      pick batch.columns (names.filterMap batch.schema.position?) := by
  intro kept
  rw [pick_positions, pick_positions]
  apply List.filterMap_congr
  intro name hm
  exact batch.find?_columns_keep hm

theorem hasColumn_keep {names : List String} {name : String} (hm : name ∈ names)
    (h : batch.schema.hasColumn name = true) :
    (batch.keep (names.filterMap batch.schema.position?).contains).schema.hasColumn name = true := by
  rw [hasColumn_eq, batch.find?_columns_keep hm, ← hasColumn_eq]
  exact h

/-! ## Reading -/

theorem mem_keep {test : Nat → Bool} {stored : StoredColumn} (h : stored ∈ (batch.keep test).columns) :
    stored ∈ batch.columns := by
  obtain ⟨entry, he, rfl⟩ := List.mem_map.mp h
  exact List.fst_mem_of_mem_zipIdx (List.mem_filter.mp he).1

variable {batch : Batch}

theorem Loadable.keep (h : batch.Loadable) (test : Nat → Bool) : (batch.keep test).Loadable := by
  rcases h with hz | hr
  · exact .inl hz
  · exact .inr fun stored hm => hr stored (batch.mem_keep hm)

theorem Loadable.slice (h : batch.Loadable) (start count : Nat) :
    (batch.slice start count).Loadable := by
  rcases h with hz | hr
  · exact .inl (by simp [Batch.slice, hz])
  · exact .inr ((slice_readable_iff start count).mpr hr)

theorem allRows_limit {batch : Batch} (limit : Option Nat)
    (h : (limit.elim batch fun limit => batch.slice 0 limit).Loadable) :
    allRows ((limit.elim batch fun limit => batch.slice 0 limit).split size) =
      .ok (batch.table.upTo limit).rows := by
  cases limit with
  | none => exact h.allRows_split (by decide)
  | some limit =>
    refine (Loadable.allRows_split h (by decide)).trans ?_
    rw [Option.elim_some, cellRows_slice, List.drop_zero]
    rfl

theorem ofRows_limit (batch : Batch) (limit : Option Nat) :
    (Table.ofRows batch.schema (batch.table.upTo limit).rows).mapError ReadError.table =
      .ok (batch.table.upTo limit) := by
  rw [show batch.schema = (batch.table.upTo limit).schema from rfl,
    Table.ofRows_of_rectangular _ _ (batch.table.upTo limit).rectangular]
  rfl

theorem rowAt_pick (columns : List StoredColumn) (positions : List Nat) (i : Nat) :
    rowAt (pick columns positions) i = pick (rowAt columns i) positions :=
  (pick_map _ columns positions).symm

/-- Selecting from the columns that are kept for some names is selecting from the whole table. -/
theorem picked_keep (batch : Batch) (names : List String) (limit : Option Nat) :
    let kept := batch.keep (names.filterMap batch.schema.position?).contains
    (kept.table.upTo limit).picked (names.filterMap kept.schema.position?) =
      (batch.table.picked (names.filterMap batch.schema.position?)).upTo limit := by
  intro kept
  have hcolumns := batch.pick_keep names
  have hrow : ∀ i, pick (rowAt kept.columns i) (names.filterMap kept.schema.position?) =
      pick (rowAt batch.columns i) (names.filterMap batch.schema.position?) := by
    intro i
    rw [← rowAt_pick, ← rowAt_pick, hcolumns]
  have hrows : kept.cellRows.map (fun row => pick row (names.filterMap kept.schema.position?)) =
      batch.cellRows.map fun row => pick row (names.filterMap batch.schema.position?) := by
    rw [cellRows, cellRows, List.map_map, List.map_map]
    exact List.map_congr_left fun i _ => hrow i
  apply Table.ext
  · simp only [Table.picked, Table.upTo, Table.withRows, table, schema, pick_map]
    exact congrArg (List.map StoredColumn.column) hcolumns
  · cases limit with
    | none => exact hrows
    | some limit =>
      simp only [Table.picked, Table.upTo, Table.withRows, table, Option.elim_some, List.map_take]
      rw [hrows]

/-- The columns that are kept for a request. -/
def kept (batch : Batch) (names : List String) : Batch :=
  if names = [] then batch else batch.keep (names.filterMap batch.schema.position?).contains

/-- The columns and rows that are decoded for a request. -/
def requested (batch : Batch) (options : ReadOptions) : Batch :=
  options.limit.elim (batch.kept (distinct options.columns)) fun limit =>
    (batch.kept (distinct options.columns)).slice 0 limit

theorem Loadable.requested (h : batch.Loadable) (options : ReadOptions) :
    (batch.requested options).Loadable := by
  have hk : (batch.kept (distinct options.columns)).Loadable := by
    rw [kept]
    split
    · exact h
    · exact h.keep _
  rw [Batch.requested]
  cases options.limit with
  | none => exact hk
  | some limit => exact hk.slice 0 limit

theorem Loadable.read_requested {options : ReadOptions} (h : (batch.requested options).Loadable)
    (hn : ∀ name ∈ options.columns, batch.schema.hasColumn name = true) :
    batch.read options =
      .ok ((batch.table.columnsNamed (distinct options.columns)).upTo options.limit) := by
  have hd : ∀ name ∈ distinct options.columns, batch.schema.hasColumn name = true :=
    fun name hm => hn name (mem_distinct.mp hm)
  have hrows := allRows_limit options.limit h
  rw [Batch.read, positions_eq_ok _ _ hd, Table.columnsNamed]
  generalize distinct options.columns = names at hd hrows
  by_cases he : names = []
  · rw [he] at hrows ⊢
    simp only [kept, if_true] at hrows
    simp only [bind, Except.bind, List.isEmpty_nil, if_true, hrows, ofRows_limit]
    rfl
  · -- the names are looked up a second time, among the columns that were kept for them
    have hne : names.isEmpty = false := List.isEmpty_eq_false_iff.mpr he
    have hs := Table.select_eq_ok
      ((batch.keep (names.filterMap batch.schema.position?).contains).table.upTo options.limit) names
      fun name hm => batch.hasColumn_keep hm (hd name hm)
    simp only [kept, if_neg he] at hrows
    rw [if_neg he, show batch.table.schema = batch.schema from rfl, ← picked_keep]
    simp only [bind, Except.bind, hne, Bool.false_eq_true, if_false, hrows, ofRows_limit, hs]
    rfl

theorem positions_eq_error (batch : Batch) {names : List String} {name : String}
    (h : names.find? (fun name => !batch.schema.hasColumn name) = some name) :
    batch.positions names = .error (.columnNotFound name) := by
  induction names with
  | nil => cases h
  | cons first others ih =>
    rw [positions]
    cases hp : batch.schema.position? first with
    | none =>
      rw [List.find?_cons_of_pos (by rw [Schema.hasColumn, hp]; rfl)] at h
      cases h
      rfl
    | some position =>
      rw [List.find?_cons_of_neg (by rw [Schema.hasColumn, hp]; simp)] at h
      simp only [ih h]
      rfl

theorem read_eq_error {options : ReadOptions} {name : String}
    (h : options.columns.find? (fun name => !batch.schema.hasColumn name) = some name) :
    batch.read options = .error (.columnNotFound name) := by
  rw [Batch.read, batch.positions_eq_error (by rw [find?_distinct]; exact h)]
  rfl

/-- Reading fails on a name that no column has, and on what is decoded, and on nothing else. -/
theorem read_eq_ok_iff {options : ReadOptions} {table : Table} :
    batch.read options = .ok table ↔
      (∀ name ∈ options.columns, batch.schema.hasColumn name = true) ∧
        (batch.requested options).Loadable ∧
        table = (batch.table.columnsNamed (distinct options.columns)).upTo options.limit := by
  constructor
  · intro h
    have hn : ∀ name ∈ options.columns, batch.schema.hasColumn name = true := by
      cases hf : options.columns.find? fun name => !batch.schema.hasColumn name with
      | some name => rw [read_eq_error hf] at h; cases h
      | none => simpa using List.find?_eq_none.mp hf
    have hd := batch.positions_eq_ok _ fun name hm => hn name (mem_distinct.mp hm)
    have hl : (batch.requested options).Loadable := by
      rw [Batch.requested, kept]
      rw [Batch.read, hd] at h
      simp only [bind, Except.bind, List.isEmpty_iff] at h
      split at h
      · cases h
      · next rows hr => exact loadable_of_allRows_split (by decide) hr
    refine ⟨hn, hl, ?_⟩
    rw [hl.read_requested hn] at h
    exact (Except.ok.inj h).symm
  · rintro ⟨hn, hl, rfl⟩
    exact hl.read_requested hn

theorem Loadable.read_eq (h : batch.Loadable) (options : ReadOptions)
    (hn : ∀ name ∈ options.columns, batch.schema.hasColumn name = true) :
    batch.read options =
      .ok ((batch.table.columnsNamed (distinct options.columns)).upTo options.limit) :=
  (h.requested options).read_requested hn

theorem read_all_eq_ok_iff {table : Table} :
    batch.read {} = .ok table ↔ batch.Loadable ∧ table = batch.table := by
  rw [read_eq_ok_iff]
  exact ⟨fun h => h.2, fun h => ⟨nofun, h⟩⟩

end Batch

/-- What is read without a limit is no damaged table. -/
theorem FileContent.exists_table_of_read {content : FileContent} {options : ReadOptions}
    {table : Table} (h : content.read options = .ok table) (hlimit : options.limit = none) :
    ∃ batch, content = .table batch := by
  cases content with
  | missing => cases h
  | unopened cause => cases h
  | undescribed cause => cases h
  | unprepared batch cause =>
    rw [read] at h
    cases hp : batch.positions (distinct options.columns) with
    | error e => rw [hp] at h; cases h
    | ok positions => rw [hp] at h; cases h
  | damaged before column cause =>
    rw [read, hlimit] at h
    cases hr : before.read { options with limit := none } with
    | error e => rw [hr] at h; cases h
    | ok loaded => rw [hr] at h; cases h
  | table batch => exact ⟨batch, rfl⟩

end TableScope
