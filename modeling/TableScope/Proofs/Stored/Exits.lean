import TableScope.Proofs.Stored.Reading

/-! # How reading ends

Every error of reading is said as a condition on what is at the path (`FileContent.Fails`), and reading
returns an error exactly if its condition holds (`FileContent.read_eq_error_iff`):

* what other code reports is returned at its step, and nothing of later steps is seen;
* a name that no column has is found before anything is loaded, the first one in the order asked for;
* a zone that is no offset is found in the first batch of rows, if there is one, and so before a later
  batch is damaged.

Nothing else fails: rows of loaded columns make a table, and it has the columns that were looked up.

Of the bytes of a file only the footer is checked, and `FooterFault.ofBytes?_eq_none_iff` says which footers
are sound; what other code makes of the bytes before a sound one is not assumed.
-/
set_option autoImplicit false

namespace TableScope

/-- Errors that are met are all the errors if something is met whenever there is no value. -/
theorem eq_error_iff_of_met {ε α : Type} {result : Except ε α} {Met : ε → Prop}
    (hmet : ∀ e, Met e → result = .error e) (htotal : (∃ a, result = .ok a) ∨ ∃ e, Met e) {e : ε} :
    result = .error e ↔ Met e := by
  refine ⟨fun h => ?_, hmet e⟩
  rcases htotal with ⟨a, ha⟩ | ⟨other, hother⟩
  · rw [ha] at h
    cases h
  · rw [hmet other hother] at h
    cases h
    exact hother

/-! ## Footers -/

/-- The end of a file is sound if it is the length of a description before it, and the mark. -/
theorem FooterFault.ofBytes?_eq_none_iff {bytes : List UInt8} :
    ofBytes? bytes = none ↔
      ∃ before description size, bytes = before ++ description ++ size ++ mark ∧ size.length = 4 ∧
        description ≠ [] ∧ description.length = length size := by
  have h8 : footerSize = 8 := rfl
  simp only [ofBytes?, ite_eq_iff, reduceCtorEq, and_false, false_or, and_true, Nat.not_lt, ne_eq,
    Decidable.not_not]
  constructor
  · rintro ⟨hsize, hmark, hfits, hsome⟩
    generalize hd : length ((bytes.drop (bytes.length - footerSize)).take 4) = described at hfits hsome
    obtain ⟨start, hstart⟩ : ∃ start, bytes.length - footerSize = start + described :=
      ⟨bytes.length - footerSize - described, by omega⟩
    have hfooter : bytes.drop (start + described) =
        (bytes.drop (bytes.length - footerSize)).take 4 ++ mark := by
      rw [← hstart, ← hmark, List.take_append_drop]
    have hparts : bytes =
        bytes.take start ++ ((bytes.drop start).take described ++ bytes.drop (start + described)) := by
      rw [← List.drop_drop, List.take_append_drop, List.take_append_drop]
    refine ⟨bytes.take start, (bytes.drop start).take described,
      (bytes.drop (bytes.length - footerSize)).take 4, ?_, ?_, ?_, ?_⟩
    · rw [List.append_assoc, List.append_assoc, ← hfooter]
      exact hparts
    · rw [List.length_take, List.length_drop]
      omega
    · apply List.ne_nil_of_length_pos
      rw [List.length_take, List.length_drop]
      omega
    · rw [List.length_take, List.length_drop, hd]
      omega
  · rintro ⟨before, description, size, rfl, hfour, hsome, hlength⟩
    have hpos := List.length_pos_iff.mpr hsome
    have hall : (before ++ description ++ size ++ mark).length =
        before.length + description.length + footerSize := by
      simp only [List.length_append, hfour, mark, List.length_cons, List.length_nil]
      omega
    have hfooter : (before ++ description ++ size ++ mark).drop
        ((before ++ description ++ size ++ mark).length - footerSize) = size ++ mark := by
      rw [List.append_assoc (before ++ description)]
      apply List.drop_left'
      rw [← List.append_assoc, hall, List.length_append]
      omega
    rw [hfooter, List.take_left' hfour, List.drop_left' hfour, hall]
    exact ⟨by omega, rfl, by omega, by omega⟩

/-! ## Tables -/

/-- The column has a zone that is no offset. -/
def StoredColumn.unzoned (stored : StoredColumn) : Bool := stored.type.invalidZone?.isSome

namespace Batch

variable {batch : Batch} {options : ReadOptions} {stored : StoredColumn} {zone : String} {e : ReadError}

theorem decode_eq_error {columns : List StoredColumn}
    (hfirst : columns.find? StoredColumn.unzoned = some stored)
    (hzone : stored.type.invalidZone? = some zone) :
    decode columns = .error (.invalidZone stored.name zone) := by
  induction columns with
  | nil => cases hfirst
  | cons first others ih =>
    rw [decode]
    cases hf : first.type.invalidZone? with
    | some other =>
      rw [List.find?_cons_of_pos (by rw [StoredColumn.unzoned, hf]; rfl)] at hfirst
      cases hfirst
      rw [hzone] at hf
      cases hf
      rfl
    | none =>
      rw [List.find?_cons_of_neg (by rw [StoredColumn.unzoned, hf]; decide)] at hfirst
      simp only [ih hfirst]
      rfl

theorem rows_slice_eq_error (hfirst : batch.columns.find? StoredColumn.unzoned = some stored)
    (hzone : stored.type.invalidZone? = some zone) (start count : Nat) :
    (batch.slice start count).rows = .error (.invalidZone stored.name zone) := by
  have hs : (batch.slice start count).columns.find? StoredColumn.unzoned =
      some (stored.slice start count) := by
    rw [slice, List.find?_map]
    exact congrArg (Option.map _) hfirst
  rw [rows, decode_eq_error hs hzone]
  rfl

/-- The first rows that are loaded already show the zone. -/
theorem allRows_split_eq_error (hrows : batch.rowCount ≠ 0)
    (hfirst : batch.columns.find? StoredColumn.unzoned = some stored)
    (hzone : stored.type.invalidZone? = some zone) {size : Nat} (hs : 0 < size) :
    allRows (batch.split size) = .error (.invalidZone stored.name zone) := by
  have hpieces : 0 < (batch.rowCount + size - 1) / size := Nat.div_pos (by omega) hs
  obtain ⟨pieces, hp⟩ := Nat.exists_eq_add_one.mpr hpieces
  rw [split, hp, List.range_succ_eq_map, List.map_cons, allRows, rows_slice_eq_error hfirst hzone]
  rfl

theorem read_eq_error_of_allRows (hnames : ∀ name ∈ options.columns, batch.schema.hasColumn name = true)
    (h : allRows ((batch.requested options).split size) = .error e) : batch.read options = .error e := by
  have hd := batch.positions_eq_ok _ fun name hm => hnames name (mem_distinct.mp hm)
  rw [requested, kept] at h
  rw [Batch.read, hd]
  simp only [bind, Except.bind, List.isEmpty_iff, h]

/-- The errors of reading a table of which everything can be loaded. -/
inductive Fails (batch : Batch) (options : ReadOptions) : ReadError → Prop
  | unnamed {name : String}
    (hname : options.columns.find? (fun name => !batch.schema.hasColumn name) = some name) :
    batch.Fails options (.columnNotFound name)
  | unzoned {stored : StoredColumn} {zone : String}
    (hnames : ∀ name ∈ options.columns, batch.schema.hasColumn name = true)
    (hrows : (batch.requested options).rowCount ≠ 0)
    (hfirst : (batch.requested options).columns.find? StoredColumn.unzoned = some stored)
    (hzone : stored.type.invalidZone? = some zone) :
    batch.Fails options (.invalidZone stored.name zone)

theorem Fails.read_eq (h : batch.Fails options e) : batch.read options = .error e := by
  cases h with
  | unnamed hname => exact read_eq_error hname
  | unzoned hnames hrows hfirst hzone =>
    exact read_eq_error_of_allRows hnames (allRows_split_eq_error hrows hfirst hzone (by decide))

/-- A table is read, or one of the errors is met. -/
theorem read_eq_ok_or_fails (batch : Batch) (options : ReadOptions) :
    (∃ table, batch.read options = .ok table) ∨ ∃ e, batch.Fails options e := by
  cases hname : options.columns.find? fun name => !batch.schema.hasColumn name with
  | some name => exact .inr ⟨_, .unnamed hname⟩
  | none =>
    have hnames : ∀ name ∈ options.columns, batch.schema.hasColumn name = true := by
      simpa using List.find?_eq_none.mp hname
    by_cases hl : (batch.requested options).Loadable
    · exact .inl ⟨_, hl.read_requested hnames⟩
    · obtain ⟨hrows, hr⟩ := not_or.mp hl
      simp only [Readable, not_forall] at hr
      obtain ⟨other, hm, ho⟩ := hr
      have hsome : ((batch.requested options).columns.find? StoredColumn.unzoned).isSome = true :=
        List.find?_isSome.mpr ⟨other, hm, Option.isSome_iff_ne_none.mpr ho⟩
      obtain ⟨stored, hfirst⟩ := Option.isSome_iff_exists.mp hsome
      obtain ⟨zone, hzone⟩ := Option.isSome_iff_exists.mp (List.find?_some (p := StoredColumn.unzoned) hfirst)
      exact .inr ⟨_, .unzoned hnames hrows hfirst hzone⟩

theorem read_eq_error_iff : batch.read options = .error e ↔ batch.Fails options e :=
  eq_error_iff_of_met (fun _ => Fails.read_eq) (batch.read_eq_ok_or_fails options)

end Batch

/-! ## Paths -/

namespace FileContent

variable {content : FileContent} {options : ReadOptions} {e : ReadError}

theorem any_le_eq_false {limit : Option Nat} {count : Nat} :
    limit.any (· ≤ count) = false ↔ ∀ n, limit = some n → count < n := by
  cases limit <;> simp

/-- The errors of reading what is at a path, in the order of the steps. -/
inductive Fails (options : ReadOptions) : FileContent → ReadError → Prop
  | missing : Fails options .missing .missingFile
  | unopened {cause : Cause} : Fails options (.unopened cause) (.malformed ⟨.opening, cause⟩)
  | undescribed {cause : Cause} : Fails options (.undescribed cause) (.malformed ⟨.metadata, cause⟩)
  | unnamed {batch : Batch} {cause : Cause} {name : String}
    (hname : options.columns.find? (fun name => !batch.schema.hasColumn name) = some name) :
    Fails options (.unprepared batch cause) (.columnNotFound name)
  | unprepared {batch : Batch} {cause : Cause}
    (hnames : ∀ name ∈ options.columns, batch.schema.hasColumn name = true) :
    Fails options (.unprepared batch cause) (.malformed ⟨.preparation, cause⟩)
  /-- No more rows are asked for than can be loaded. -/
  | limited {before : Batch} {column : Option String} {cause : Cause} {limit : Nat} {e : ReadError}
    (hlimit : options.limit = some limit) (hle : limit ≤ before.rowCount)
    (h : before.Fails options e) : Fails options (.damaged before column cause) e
  /-- A batch before the damaged one already fails. -/
  | before {before : Batch} {column : Option String} {cause : Cause} {e : ReadError}
    (hlimit : ∀ limit, options.limit = some limit → before.rowCount < limit)
    (h : before.Fails { options with limit := none } e) :
    Fails options (.damaged before column cause) e
  | damaged {before : Batch} {column : Option String} {cause : Cause}
    (hlimit : ∀ limit, options.limit = some limit → before.rowCount < limit)
    (hbefore : ∀ e, ¬ before.Fails { options with limit := none } e) :
    Fails options (.damaged before column cause) (.malformed ⟨column.elim .batch .column, cause⟩)
  | table {batch : Batch} {e : ReadError} (h : batch.Fails options e) : Fails options (.table batch) e

theorem Fails.read_eq (h : content.Fails options e) : content.read options = .error e := by
  cases h with
  | missing => rfl
  | unopened => rfl
  | undescribed => rfl
  | unnamed hname =>
    rw [read, Batch.positions_eq_error _ (by rw [find?_distinct]; exact hname)]
    rfl
  | unprepared hnames =>
    rw [read, Batch.positions_eq_ok _ _ fun name hm => hnames name (mem_distinct.mp hm)]
    rfl
  | limited hlimit hle h =>
    rw [read, hlimit, Option.any_some, if_pos (decide_eq_true hle)]
    exact h.read_eq
  | before hlimit h =>
    rw [read, any_le_eq_false.mpr hlimit, if_neg (by decide), h.read_eq]
    rfl
  | @damaged before _ _ hlimit hbefore =>
    obtain ⟨table, hread⟩ := (before.read_eq_ok_or_fails { options with limit := none }).resolve_right
      (not_exists.mpr hbefore)
    rw [read, any_le_eq_false.mpr hlimit, if_neg (by decide), hread]
    rfl
  | table h => exact h.read_eq

theorem read_eq_ok_or_fails (content : FileContent) (options : ReadOptions) :
    (∃ table, content.read options = .ok table) ∨ ∃ e, content.Fails options e := by
  cases content with
  | missing => exact .inr ⟨_, .missing⟩
  | unopened cause => exact .inr ⟨_, .unopened⟩
  | undescribed cause => exact .inr ⟨_, .undescribed⟩
  | unprepared batch cause =>
    cases hname : options.columns.find? fun name => !batch.schema.hasColumn name with
    | some name => exact .inr ⟨_, .unnamed hname⟩
    | none => exact .inr ⟨_, .unprepared (by simpa using List.find?_eq_none.mp hname)⟩
  | damaged before column cause =>
    by_cases hlimit : ∀ limit, options.limit = some limit → before.rowCount < limit
    · by_cases hbefore : ∃ e, before.Fails { options with limit := none } e
      · obtain ⟨e, h⟩ := hbefore
        exact .inr ⟨e, .before hlimit h⟩
      · exact .inr ⟨_, .damaged hlimit (not_exists.mp hbefore)⟩
    · simp only [not_forall, Nat.not_lt] at hlimit
      obtain ⟨limit, hlimit, hle⟩ : ∃ limit, options.limit = some limit ∧ limit ≤ before.rowCount := by
        simpa using hlimit
      rcases before.read_eq_ok_or_fails options with ⟨table, hread⟩ | ⟨e, h⟩
      · refine .inl ⟨table, ?_⟩
        rw [read, hlimit, Option.any_some, if_pos (decide_eq_true hle)]
        exact hread
      · exact .inr ⟨e, .limited hlimit hle h⟩
  | table batch =>
    rcases batch.read_eq_ok_or_fails options with hread | ⟨e, h⟩
    · exact .inl hread
    · exact .inr ⟨e, .table h⟩

/-- Reading returns an error exactly if it meets it. -/
theorem read_eq_error_iff : content.read options = .error e ↔ content.Fails options e :=
  eq_error_iff_of_met (fun _ => Fails.read_eq) (content.read_eq_ok_or_fails options)

end FileContent

end TableScope
