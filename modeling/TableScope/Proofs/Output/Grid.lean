import TableScope.Proofs.Number.Numerals
import TableScope.Proofs.Output.Lines
import TableScope.Proofs.Text.Joining

/-! # What a grid shows

A record is shown in as many lines as its tallest cell has, each with one line of every cell (`Shows`),
and a grid is laid out in such lines between borders (`Layout`). What is rendered are the lines of a
layout below the shape of the table, and nothing else; they take the same columns of the terminal, and so
do the cells of each column (`render_faithful`).
-/
set_option autoImplicit false

namespace TableScope.Grid

/-- A grid: the lengths of the dashes in its borders, the lines of the header and those of each row. -/
structure Layout where
  runs : List Nat
  head : List (List Field)
  body : List (List (List Field))

namespace Layout

/-- The lines that hold cells. -/
def contents (layout : Layout) : List (List Field) := layout.head ++ layout.body.flatten

def lines (layout : Layout) : List Line :=
  .border top layout.runs :: layout.head.map .content ++
    .border separator layout.runs :: layout.body.flatten.map .content ++
    (if layout.body = [] then [] else [.border bottom layout.runs])

end Layout

/-- The lines show a record of texts: as many lines as the tallest text has, and in each of them the
line of every text at its place, or nothing once the text is over. -/
structure Shows (texts : List (List Char)) (lines : List (List Field)) : Prop where
  height : IsGreatest {height | ∃ text ∈ texts, (Text.pieces '\n' text).length = height} lines.length
  texts_eq : ∀ (i : Nat) (fields : List Field), lines[i]? = some fields →
    fields.map Field.text = texts.map fun text => (Text.pieces '\n' text).getD i []

/-- The text of a column in the header. -/
def caption (column : Column) : List Char :=
  column.name.toList ++ "\n---\n".toList ++ column.type.label.toList

section Records

variable {records : List (List Block)} {record : List Block} {widths : List Nat}
  {texts : List (List Char)} {count : Nat}

theorem header_eq (column : Column) : header column = Text.pieces '\n' (caption column) := by
  have hlabel : ∀ type ∈ ColumnType.all, '\n' ∉ type.label.toList := by decide
  have htype : column.type ∈ ColumnType.all := by cases column.type <;> decide
  have hcaption : caption column =
      column.name.toList ++ '\n' :: ("---".toList ++ '\n' :: column.type.label.toList) := by
    simp [caption]
  rw [hcaption, Text.pieces_eq_splitOn, List.splitOn_append_cons_self,
    List.splitOn_append_cons_self_of_not_mem (by decide),
    List.splitOn_eq_singleton (hlabel _ htype), ← Text.pieces_eq_splitOn]
  rfl

theorem map_header (schema : Schema) :
    schema.map header = (schema.map caption).map (Text.pieces '\n') := by
  rw [List.map_map]
  exact List.map_congr_left fun column _ => header_eq column

theorem map_block (row : Row) : row.map block = (row.map Cell.text).map (Text.pieces '\n') := by
  rw [List.map_map]
  rfl

/-! ## Records -/

/-- The line of each block at a place, or nothing where the block is over. -/
def linesAt (record : List Block) (i : Nat) : List (List Char) :=
  record.map fun block => block.getD i []

theorem getD_eq_nil_or_mem (block : Block) (i : Nat) :
    block.getD i [] = [] ∨ block.getD i [] ∈ block := by
  rw [List.getD_eq_getElem?_getD]
  cases hline : block[i]? with
  | none => exact .inl rfl
  | some line => exact .inr (List.mem_of_getElem? hline)

/-- The lines of a record, in columns of some widths. -/
def recordFields (widths : List Nat) (record : List Block) : List (List Field) :=
  (List.range (recordHeight record)).map fun i =>
    List.zipWith Field.fit widths (linesAt record i)

theorem recordLines_eq : recordLines widths record =
    ((recordFields widths record).map Line.content).map Line.text := by
  rw [recordLines, recordFields, List.map_map, List.map_map]
  exact List.map_congr_left fun i _ => contentLine_eq

theorem mem_recordFields {i : Nat} (widths : List Nat) (hi : i < recordHeight record) :
    List.zipWith Field.fit widths (linesAt record i) ∈ recordFields widths record :=
  List.mem_map.mpr ⟨i, List.mem_range.mpr hi, rfl⟩

theorem getElem?_recordFields {i : Nat} {fields : List Field}
    (h : (recordFields widths record)[i]? = some fields) :
    fields = List.zipWith Field.fit widths (linesAt record i) := by
  rw [recordFields, List.getElem?_map, Option.map_eq_some_iff] at h
  obtain ⟨j, hj, rfl⟩ := h
  obtain ⟨hi, rfl⟩ := List.getElem?_eq_some_iff.mp hj
  rw [List.getElem_range]

/-- The lines of a record fit into the columns. -/
theorem fits_linesAt (hr : record ∈ records)
    (hcount : ∀ record ∈ records, record.length = count) (i : Nat) :
    Fits (columnWidths records) (linesAt record i) := by
  have hlength := length_columnWidths (List.ne_nil_of_mem hr) hcount
  rw [Fits, linesAt, List.forall₂_iff_get]
  refine ⟨by rw [hlength, List.length_map, hcount record hr], fun j hj hj' => ?_⟩
  rw [List.length_map] at hj'
  simp only [List.get_eq_getElem, List.getElem_map]
  rcases getD_eq_nil_or_mem record[j] i with hnil | hline
  · rw [hnil]
    exact Nat.zero_le _
  · exact displayWidth_le (List.getElem?_eq_getElem hj) hr (List.getElem?_eq_getElem hj') hline

theorem shows_recordFields (hne : texts ≠ [])
    (hfit : ∀ i, Fits widths (linesAt (texts.map (Text.pieces '\n')) i)) :
    Shows texts (recordFields widths (texts.map (Text.pieces '\n'))) where
  height := by
    have hblocks : texts.map (Text.pieces '\n') ≠ [] := mt List.map_eq_nil_iff.mp hne
    rw [recordFields, List.length_map, List.length_range]
    simpa using isGreatest_recordHeight hblocks
  texts_eq := fun i fields hfields => by
    rw [getElem?_recordFields hfields, (map_fit (hfit i)).1, linesAt, List.map_map]
    rfl

end Records

/-! ## Layouts -/

/-- The blocks of the header and of each row. -/
def recordsOf (table : Table) : List (List Block) :=
  table.schema.map header :: table.rows.map fun row => row.map block

def Layout.of (table : Table) : Layout where
  runs := (columnWidths (recordsOf table)).map (· + 2)
  head := recordFields (columnWidths (recordsOf table)) (table.schema.map header)
  body := table.rows.map fun row =>
    recordFields (columnWidths (recordsOf table)) (row.map block)

section Tables

variable {table : Table} {record : List Block} {fields : List Field} {field : Field}

theorem exists_texts (hr : record ∈ recordsOf table) : ∃ texts : List (List Char),
    record = texts.map (Text.pieces '\n') ∧ texts.length = table.schema.length := by
  rcases List.mem_cons.mp hr with rfl | hr
  · exact ⟨table.schema.map caption, map_header table.schema, List.length_map _⟩
  · obtain ⟨row, hrow, rfl⟩ := List.mem_map.mp hr
    exact ⟨row.map Cell.text, map_block row,
      (List.length_map _).trans (table.rectangular row hrow)⟩

theorem length_of_mem_recordsOf (hr : record ∈ recordsOf table) :
    record.length = table.schema.length := by
  obtain ⟨texts, rfl, hlength⟩ := exists_texts hr
  rw [List.length_map, hlength]

theorem ne_nil_of_mem_recordsOf (hr : record ∈ recordsOf table) :
    ∀ block ∈ record, block ≠ [] := by
  obtain ⟨texts, rfl, -⟩ := exists_texts hr
  intro block hb
  obtain ⟨text, -, rfl⟩ := List.mem_map.mp hb
  exact Text.pieces_ne_nil '\n' text

theorem mem_contents_of : fields ∈ (Layout.of table).contents ↔
    ∃ record ∈ recordsOf table, fields ∈ recordFields (columnWidths (recordsOf table)) record := by
  simp [Layout.contents, Layout.of, recordsOf]

theorem exists_linesAt (h : fields ∈ (Layout.of table).contents) :
    ∃ record ∈ recordsOf table, ∃ i,
      Fits (columnWidths (recordsOf table)) (linesAt record i) ∧
        fields = List.zipWith Field.fit (columnWidths (recordsOf table)) (linesAt record i) := by
  obtain ⟨record, hr, hfields⟩ := mem_contents_of.mp h
  obtain ⟨i, hi⟩ := List.mem_iff_getElem?.mp hfields
  exact ⟨record, hr, i, fits_linesAt hr (fun _ => length_of_mem_recordsOf) i,
    getElem?_recordFields hi⟩

theorem map_width_of_mem_contents (h : fields ∈ (Layout.of table).contents) :
    fields.map Field.width = (Layout.of table).runs := by
  obtain ⟨record, -, i, hfits, rfl⟩ := exists_linesAt h
  exact (map_fit hfits).2

theorem lineFeed_not_mem_field (h : fields ∈ (Layout.of table).contents) (hf : field ∈ fields) :
    '\n' ∉ field.text := by
  obtain ⟨record, hr, i, hfits, rfl⟩ := exists_linesAt h
  have htext : field.text ∈ linesAt record i := by
    rw [← (map_fit hfits).1]
    exact List.mem_map.mpr ⟨field, hf, rfl⟩
  obtain ⟨block, hb, hline⟩ := List.mem_map.mp htext
  obtain ⟨texts, rfl, -⟩ := exists_texts hr
  obtain ⟨text, -, rfl⟩ := List.mem_map.mp hb
  rw [← hline]
  rcases getD_eq_nil_or_mem (Text.pieces '\n' text) i with hnil | hpiece
  · rw [hnil]
    exact List.not_mem_nil
  · exact Text.not_mem_of_mem_pieces '\n' text _ hpiece

/-- Each column has a cell that is as wide as the column. -/
theorem exists_unpadded {column : Nat} (hc : column < (Layout.of table).runs.length) :
    ∃ fields ∈ (Layout.of table).contents, ∃ field, fields[column]? = some field ∧
      field.padding = 0 := by
  rw [Layout.of, List.length_map] at hc
  obtain ⟨width, hwidth⟩ : ∃ width, (columnWidths (recordsOf table))[column]? = some width :=
    ⟨_, List.getElem?_eq_getElem hc⟩
  obtain ⟨record, hr, block, hb, line, hl, hline⟩ :=
    exists_widest hwidth fun record hr => ne_nil_of_mem_recordsOf hr
  obtain ⟨i, hi⟩ := List.mem_iff_getElem?.mp hl
  obtain ⟨hlt, -⟩ := List.getElem?_eq_some_iff.mp hi
  have hheight := Nat.lt_of_lt_of_le hlt (length_le_recordHeight (List.mem_of_getElem? hb))
  have hfields := mem_contents_of.mpr ⟨record, hr, mem_recordFields _ hheight⟩
  refine ⟨_, hfields, Field.fit width line, ?_, ?_⟩
  · rw [List.getElem?_zipWith_eq_some]
    refine ⟨width, line, hwidth, ?_, rfl⟩
    rw [linesAt, List.getElem?_map, hb, Option.map_some, List.getD_eq_getElem?_getD, hi]
    rfl
  · rw [Field.fit, hline, Nat.sub_self]

/-! ## What is rendered -/

theorem Layout.eq_of_mem_lines {layout : Layout} {line : Line} (h : line ∈ layout.lines) :
    (∃ border ∈ [top, separator, bottom, sides], line = .border border layout.runs) ∨
      ∃ fields ∈ layout.contents, line = .content fields := by
  simp only [Layout.lines, List.mem_append, List.mem_cons, List.mem_map] at h
  rcases h with ((rfl | ⟨fields, hf, rfl⟩) | (rfl | ⟨fields, hf, rfl⟩)) | h
  · exact .inl ⟨top, by simp, rfl⟩
  · exact .inr ⟨fields, List.mem_append_left _ hf, rfl⟩
  · exact .inl ⟨separator, by simp, rfl⟩
  · exact .inr ⟨fields, List.mem_append_right _ hf, rfl⟩
  · split at h
    · cases h
    · exact .inl ⟨bottom, by simp, List.mem_singleton.mp h⟩

theorem lines_eq (h : table.schema ≠ []) :
    Grid.lines table = (Layout.of table).lines.map Line.text := by
  have hempty : ¬ table.schema.isEmpty = true := by rwa [List.isEmpty_iff]
  have hbody : ∀ widths : List Nat,
      (table.rows.map fun row => row.map block).flatMap (recordLines widths) =
        ((table.rows.map fun row => recordFields widths (row.map block)).flatten.map
          Line.content).map Line.text := by
    intro widths
    rw [List.flatMap_map, List.flatMap_def, List.map_flatten, List.map_flatten, List.map_map,
      List.map_map]
    exact congrArg List.flatten (List.map_congr_left fun row _ => recordLines_eq)
  rw [Grid.lines, if_neg hempty]
  simp only [Layout.lines, Layout.of, recordsOf, border_line_eq, recordLines_eq, hbody, List.map_cons,
    List.map_append, List.isEmpty_iff, List.map_eq_nil_iff]
  split
  · rfl
  · rfl

theorem width_of_mem_lines {line : Line} (h : line ∈ (Layout.of table).lines) :
    line.width =
      (Layout.of table).runs.sum + ((Layout.of table).runs.length - 1) + 2 := by
  rcases Layout.eq_of_mem_lines h with ⟨border, hb, rfl⟩ | ⟨fields, hf, rfl⟩
  · exact width_border (narrow_of_mem border hb) _
  · exact width_content (map_width_of_mem_contents hf)

theorem lineFeed_not_mem_lines {line : Line} (h : line ∈ (Layout.of table).lines) :
    '\n' ∉ line.text := by
  rcases Layout.eq_of_mem_lines h with ⟨border, hb, rfl⟩ | ⟨fields, hf, rfl⟩
  · exact lineFeed_not_mem_border_text hb _
  · exact lineFeed_not_mem_content_text fun field => lineFeed_not_mem_field hf

theorem lineFeed_not_mem_shape (table : Table) : '\n' ∉ shape table := by
  have hdigits : ∀ n : Nat, '\n' ∉ Nat.text n := by
    intro n hn
    have hdigit : ('\n').isDigit = true := Numeral.isDigit_of_mem_text hn
    cases hdigit
  have hstart : '\n' ∉ "shape: (".toList := by decide
  have hcomma : '\n' ∉ ", ".toList := by decide
  have hcounts := List.not_mem_append
    (List.not_mem_append (List.not_mem_append hstart (hdigits table.rows.length)) hcomma)
    (hdigits table.schema.length)
  exact List.not_mem_append hcounts (by decide)

theorem pieces_render (h : table.schema ≠ []) :
    Text.pieces '\n' (render table) = shape table :: (Layout.of table).lines.map Line.text := by
  have hne : (Layout.of table).lines.map Line.text ≠ [] := by simp [Layout.lines]
  have hjoined : render table =
      ['\n'].intercalate (shape table :: (Layout.of table).lines.map Line.text) := by
    rw [render, lines_eq h, List.intercalate_cons_of_ne_nil hne]
    simp
  rw [hjoined]
  apply Text.pieces_intercalate (List.cons_ne_nil _ _)
  rw [List.forall_mem_cons, List.forall_mem_map]
  exact ⟨lineFeed_not_mem_shape table, fun line => lineFeed_not_mem_lines⟩

theorem shows_record {texts : List (List Char)} (hr : texts.map (Text.pieces '\n') ∈ recordsOf table)
    (hne : table.schema ≠ []) :
    Shows texts
      (recordFields (columnWidths (recordsOf table)) (texts.map (Text.pieces '\n'))) := by
  have hlength := length_of_mem_recordsOf hr
  rw [List.length_map] at hlength
  refine shows_recordFields ?_ fun i =>
    fits_linesAt hr (fun _ => length_of_mem_recordsOf) i
  exact List.ne_nil_of_length_pos (hlength ▸ List.length_pos_of_ne_nil hne)

/-- A table with columns is rendered as its shape and the lines of a grid. They are as wide as one
another, show the header and the rows in order, and hold nothing else. -/
theorem render_faithful (table : Table) (h : table.schema ≠ []) :
    ∃ layout : Layout,
      Text.pieces '\n' (render table) =
        ("shape: (".toList ++ Nat.text table.rows.length ++ ", ".toList ++
          Nat.text table.schema.length ++ [')']) :: layout.lines.map Line.text ∧
      (∃ width, ∀ line ∈ layout.lines, line.width = width) ∧
      Shows (table.schema.map caption) layout.head ∧
      List.Forall₂ (fun row lines => Shows (row.map Cell.text) lines) table.rows layout.body ∧
      (∀ fields ∈ layout.contents, fields.map Field.width = layout.runs) ∧
      ∀ column < layout.runs.length, ∃ fields ∈ layout.contents, ∃ field,
        fields[column]? = some field ∧ field.padding = 0 := by
  refine ⟨.of table, pieces_render h, ⟨_, fun line => width_of_mem_lines⟩, ?_, ?_,
    fun fields => map_width_of_mem_contents, fun column => exists_unpadded⟩
  · have hhead : (table.schema.map caption).map (Text.pieces '\n') ∈ recordsOf table :=
      map_header table.schema ▸ List.mem_cons_self
    rw [Layout.of, map_header]
    exact shows_record hhead h
  · rw [Layout.of, List.forall₂_map_right_iff, List.forall₂_same]
    intro row hrow
    have hbody : (row.map Cell.text).map (Text.pieces '\n') ∈ recordsOf table :=
      map_block row ▸ List.mem_cons_of_mem _ (List.mem_map.mpr ⟨row, hrow, rfl⟩)
    rw [map_block]
    exact shows_record hbody h

end Tables

/-- Some signs take two columns each, and one text has two lines. -/
def menu : Table where
  schema := [⟨"dish", .string⟩, ⟨"€", .int64⟩]
  rows := [[.string "寿司\nmaki", .int64 12], [.string "", .null]]
  rectangular := by decide

theorem render_faithful_menu :
    menu.schema ≠ [] ∧
    Text.pieces '\n' (render menu) =
      ["shape: (2, 2)",
        "╭──────┬──────╮",
        "│ dish │ €    │",
        "│ ---  │ ---  │",
        "│ str  │ i64  │",
        "├──────┼──────┤",
        "│ 寿司 │ 12   │",
        "│ maki │      │",
        "│      │ null │",
        "╰──────┴──────╯"].map String.toList ∧
    ∃ layout : Layout,
      Text.pieces '\n' (render menu) = "shape: (2, 2)".toList :: layout.lines.map Line.text ∧
      (∃ width, ∀ line ∈ layout.lines, line.width = width) ∧
      Shows ["dish\n---\nstr".toList, "€\n---\ni64".toList] layout.head ∧
      List.Forall₂ (fun row lines => Shows (row.map Cell.text) lines) menu.rows layout.body ∧
      (∀ fields ∈ layout.contents, fields.map Field.width = layout.runs) ∧
      ∀ column < layout.runs.length, ∃ fields ∈ layout.contents, ∃ field,
        fields[column]? = some field ∧ field.padding = 0 := by
  have hcolumns : menu.schema ≠ [] := List.cons_ne_nil _ _
  exact ⟨hcolumns, by decide +kernel, render_faithful menu hcolumns⟩

end TableScope.Grid
