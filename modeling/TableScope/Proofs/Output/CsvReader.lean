import Mathlib.Data.List.Basic
import TableScope.Output.Csv

/-! # Reading comma-separated values

A reader takes a text character by character and keeps the fields of the record that it is in. A quote
opens a quoted field where a field begins and nowhere else; inside, a quote either closes the field or,
followed by another one, stands for itself. Only a comma or the line feed that ends the record may
follow. `read_render` is the main statement: whatever the names and cells of a table hold, its written
form is read back record by record and field by field.
-/
set_option autoImplicit false

namespace TableScope.Csv

/-- Where a reader stands in a field. -/
inductive Place
  /-- Nothing of the field is read. -/
  | start
  | plain
  | quoted
  /-- After a quote in a quoted field. -/
  | closed
deriving DecidableEq

structure Reader where
  place : Place := .start
  field : List Char := []
  record : List (List Char) := []
  records : List (List (List Char)) := []
deriving DecidableEq

namespace Reader

/-- A quoted field takes every character but the quote. Outside quotes a comma ends a field and a line
feed a record, a quote needs a place, and a carriage return has none. -/
def step (reader : Reader) (c : Char) : Option Reader :=
  match reader.place with
  | .quoted =>
    if c = '"' then some { reader with place := .closed }
    else some { reader with field := reader.field ++ [c] }
  | place =>
    if c = ',' then
      some { reader with place := .start, field := [], record := reader.record ++ [reader.field] }
    else if c = '\n' then
      some { records := reader.records ++ [reader.record ++ [reader.field]] }
    else match place with
      | .start =>
        if c = '"' then some { reader with place := .quoted }
        else if c = '\r' then none
        else some { reader with place := .plain, field := reader.field ++ [c] }
      | .closed =>
        if c = '"' then some { reader with place := .quoted, field := reader.field ++ [c] } else none
      | _ =>
        if c = '"' ∨ c = '\r' then none else some { reader with field := reader.field ++ [c] }

def feed (reader : Reader) (s : List Char) : Option Reader := s.foldlM step reader

/-- The records, if the last one has ended. -/
def finish (reader : Reader) : Option (List (List (List Char))) :=
  if reader = { records := reader.records } then some reader.records else none

end Reader

def read (s : List Char) : Option (List (List (List Char))) :=
  (Reader.feed {} s).bind Reader.finish

/-! ## Fields -/

namespace Reader

variable (reader : Reader) {s : List Char}

theorem feed_append (s t : List Char) :
    reader.feed (s ++ t) = (reader.feed s).bind fun next => next.feed t :=
  List.foldlM_append

theorem feed_cons (c : Char) (s : List Char) :
    reader.feed (c :: s) = (reader.step c).bind fun next => next.feed s :=
  rfl

theorem feed_doubleQuotes (hp : reader.place = .quoted) :
    reader.feed (doubleQuotes s) = some { reader with field := reader.field ++ s } := by
  induction s generalizing reader with
  | nil => rw [List.append_nil]; rfl
  | cons c s ih =>
    obtain ⟨place, field, record, records⟩ := reader
    cases hp
    rw [doubleQuotes, List.flatMap_cons]
    by_cases hc : c = '"'
    · -- the first of the two quotes would close the field, the second opens it again
      subst hc
      rw [if_pos rfl, feed_append]
      refine (ih ⟨.quoted, field ++ ['"'], record, records⟩ rfl).trans ?_
      rw [List.append_assoc]
      rfl
    · rw [if_neg hc, List.singleton_append, feed_cons, step]
      simp only [if_neg hc, Option.bind_some]
      refine (ih ⟨.quoted, field ++ [c], record, records⟩ rfl).trans ?_
      rw [List.append_assoc]
      rfl

theorem step_ordinary {c : Char} (hp : reader.place = .start ∨ reader.place = .plain)
    (hc : isSpecial c = false) :
    reader.step c = some { reader with place := .plain, field := reader.field ++ [c] } := by
  simp only [isSpecial, Bool.or_eq_false_iff, beq_eq_false_iff_ne] at hc
  obtain ⟨⟨⟨hcomma, hquote⟩, hreturn⟩, hline⟩ := hc
  obtain ⟨place, field, record, records⟩ := reader
  rcases hp with rfl | rfl
  · simp only [step, if_neg hcomma, if_neg hline, if_neg hquote, if_neg hreturn]
  · simp only [step, if_neg hcomma, if_neg hline, if_neg (not_or.mpr ⟨hquote, hreturn⟩)]

theorem feed_plain (hp : reader.place = .plain) (hs : s.any isSpecial = false) :
    reader.feed s = some { reader with field := reader.field ++ s } := by
  induction s generalizing reader with
  | nil => rw [List.append_nil]; rfl
  | cons c s ih =>
    obtain ⟨place, field, record, records⟩ := reader
    cases hp
    rw [List.any_cons, Bool.or_eq_false_iff] at hs
    rw [feed_cons, step_ordinary _ (.inr rfl) hs.1]
    refine (ih ⟨.plain, field ++ [c], record, records⟩ rfl hs.2).trans ?_
    rw [List.append_assoc]
    rfl

/-- A written field is read to its end, where it may end. -/
theorem feed_field (record : List (List Char)) (records : List (List (List Char))) (s : List Char) :
    ∃ place, place ≠ .quoted ∧
      feed ⟨.start, [], record, records⟩ (Csv.field s) = some ⟨place, s, record, records⟩ := by
  rw [Csv.field]
  split
  · refine ⟨.closed, nofun, ?_⟩
    rw [feed_cons]
    exact (feed_append _ _ _).trans (by rw [feed_doubleQuotes _ rfl]; rfl)
  · next hs =>
    rw [Bool.not_eq_true] at hs
    cases s with
    | nil => exact ⟨.start, nofun, rfl⟩
    | cons c s =>
      rw [List.any_cons, Bool.or_eq_false_iff] at hs
      refine ⟨.plain, nofun, ?_⟩
      rw [feed_cons, step_ordinary _ (.inl rfl) hs.1]
      exact feed_plain _ rfl hs.2

/-! ## Records -/

theorem step_comma (hp : reader.place ≠ .quoted) :
    reader.step ',' = some ⟨.start, [], reader.record ++ [reader.field], reader.records⟩ := by
  obtain ⟨place, field, record, records⟩ := reader
  cases place with
  | quoted => exact absurd rfl hp
  | start | plain | closed => rfl

theorem step_lineFeed (hp : reader.place ≠ .quoted) :
    reader.step '\n' =
      some { records := reader.records ++ [reader.record ++ [reader.field]] } := by
  obtain ⟨place, field, record, records⟩ := reader
  cases place with
  | quoted => exact absurd rfl hp
  | start | plain | closed => rfl

theorem feed_record (record : List (List Char)) (records : List (List (List Char)))
    {fields : List (List Char)} (hf : fields ≠ []) :
    feed ⟨.start, [], record, records⟩ (Csv.record fields) =
      some { records := records ++ [record ++ fields] } := by
  induction fields generalizing record with
  | nil => exact absurd rfl hf
  | cons s fields ih =>
    obtain ⟨place, hp, hs⟩ := feed_field record records s
    cases fields with
    | nil =>
      have hend := step_lineFeed ⟨place, s, record, records⟩ hp
      rw [Csv.record, List.map_singleton, List.intercalate_singleton, feed_append, hs,
        Option.bind_some, feed_cons, hend]
      rfl
    | cons next others =>
      have hrest : Csv.record (s :: next :: others) =
          Csv.field s ++ ',' :: Csv.record (next :: others) := by
        simp [Csv.record, List.intercalate]
      have hcomma := step_comma ⟨place, s, record, records⟩ hp
      rw [hrest, feed_append, hs, Option.bind_some, feed_cons, hcomma, Option.bind_some,
        ih (record ++ [s]) (List.cons_ne_nil next others), List.append_assoc]
      rfl

theorem feed_records (records written : List (List (List Char)))
    (hw : ∀ record ∈ written, record ≠ []) :
    feed { records := records } (written.flatMap Csv.record) =
      some { records := records ++ written } := by
  induction written generalizing records with
  | nil => rw [List.append_nil]; rfl
  | cons record written ih =>
    obtain ⟨hr, hw⟩ := List.forall_mem_cons.mp hw
    rw [List.flatMap_cons, feed_append, feed_record [] records hr, Option.bind_some, List.nil_append,
      ih (records ++ [record]) hw, List.append_assoc]
    rfl

end Reader

theorem read_records (written : List (List (List Char))) (hw : ∀ record ∈ written, record ≠ []) :
    read (written.flatMap record) = some written := by
  rw [read, Reader.feed_records [] written hw]
  exact if_pos rfl

/-! ## Tables -/

theorem ofCell_eq (cell : Cell) : ofCell cell = if cell = .null then [] else cell.text := by
  cases cell <;> rfl

/-- The texts of a table: its names, and the cells of each row. -/
def records (table : Table) : List (List (List Char)) :=
  table.schema.names.map String.toList :: table.rows.map (List.map ofCell)

theorem render_eq (table : Table) : render table = (records table).flatMap record := by
  rw [records, List.flatMap_cons, List.flatMap_map, render, Schema.names, List.map_map]
  rfl

theorem length_records (table : Table) : (records table).length = table.rows.length + 1 := by
  rw [records, List.length_cons, List.length_map]

theorem records_ne_nil {table : Table} (hc : table.schema ≠ []) :
    ∀ record ∈ records table, record ≠ [] := by
  refine List.forall_mem_cons.mpr ⟨?_, ?_⟩
  · rwa [Schema.names, List.map_map, Ne, List.map_eq_nil_iff]
  · intro record hr hnil
    obtain ⟨row, hrow, rfl⟩ := List.mem_map.mp hr
    have hwidth := table.rectangular row hrow
    rw [List.map_eq_nil_iff.mp hnil] at hwidth
    exact hc (List.eq_nil_of_length_eq_zero hwidth.symm)

/-- What is written for a table with columns is read as its names and, row by row, its cells. -/
theorem read_render (table : Table) (hc : table.schema ≠ []) :
    ∃ records, read (render table) = some records ∧
      records.length = table.rows.length + 1 ∧
      (∀ record ∈ records, record.length = table.schema.length) ∧
      records.head? = some (table.schema.names.map String.toList) ∧
      ∀ (i j : Nat) (row : Row) (cell : Cell), table.rows[i]? = some row → row[j]? = some cell →
        ∃ record, records[i + 1]? = some record ∧
          record[j]? = some (if cell = .null then [] else cell.text) := by
  have hheader : (table.schema.map fun column => column.name.toList) =
      table.schema.names.map String.toList := by
    rw [Schema.names, List.map_map]
    rfl
  have hwidth : ∀ record ∈ table.schema.names.map String.toList :: table.rows.map (List.map ofCell),
      record.length = table.schema.length := by
    refine List.forall_mem_cons.mpr ⟨by rw [List.length_map, Schema.names, List.length_map], ?_⟩
    intro record hr
    obtain ⟨row, hrow, rfl⟩ := List.mem_map.mp hr
    rw [List.length_map, table.rectangular row hrow]
  refine ⟨table.schema.names.map String.toList :: table.rows.map (List.map ofCell), ?_, ?_, hwidth,
    rfl, ?_⟩
  · rw [← read_records, List.flatMap_cons, List.flatMap_map, render, hheader]
    -- a record of a table with columns has fields
    intro record hr hnil
    have hlength := hwidth record hr
    rw [hnil] at hlength
    exact hc (List.eq_nil_of_length_eq_zero hlength.symm)
  · rw [List.length_cons, List.length_map]
  · intro i j row cell hrow hcell
    refine ⟨row.map ofCell, by rw [List.getElem?_cons_succ, List.getElem?_map, hrow]; rfl, ?_⟩
    rw [List.getElem?_map, hcell, Option.map_some, ofCell_eq]

/-- Names and cells that need quotes, and an empty line for the last record. -/
def remarks : Table where
  schema := [⟨"say \"hi\", all", .string⟩]
  rows := [[.string "two\r\nlines"], [.string "\""], [.null]]
  rectangular := by decide

theorem read_render_remarks :
    remarks.schema ≠ [] ∧
      render remarks =
        "\"say \"\"hi\"\", all\"\n\"two\r\nlines\"\n\"\"\"\"\n\n".toList ∧
      ∃ records, read (render remarks) = some records ∧ records.length = 4 ∧
        records.head? = some ["say \"hi\", all".toList] ∧
        ∃ record, records[3]? = some record ∧ record[0]? = some [] := by
  have hc : remarks.schema ≠ [] := List.cons_ne_nil _ _
  obtain ⟨records, hread, hlength, -, hhead, hcells⟩ := read_render remarks hc
  refine ⟨hc, rfl, records, hread, hlength, hhead, ?_⟩
  exact hcells 2 0 [.null] .null rfl rfl

end TableScope.Csv
