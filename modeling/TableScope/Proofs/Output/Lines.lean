import Mathlib.Data.List.Forall2
import TableScope.Proofs.Output.Columns

/-! # Lines of a grid in parts

A line of a grid is put together from parts: borders, blanks, dashes and the lines of cells. The width of
a line is that of its parts one by one, and it is the same for borders and for cells that are filled up
to the same widths (`width_border`, `width_content`). No line holds a line feed if its cells hold none.
-/
set_option autoImplicit false

namespace TableScope.Grid

/-! ## Parts of a line -/

/-- A line of a cell, and the blanks that fill it up to the width of its column. -/
structure Field where
  text : List Char
  padding : Nat
deriving DecidableEq, Repr

namespace Field

def parts (field : Field) : List (List Char) :=
  [[' '], field.text, List.replicate field.padding ' ', [' ']]

def width (field : Field) : Nat := Text.totalWidth field.parts

def fit (width : Nat) (text : List Char) : Field := ⟨text, width - Text.displayWidth text⟩

end Field

inductive Line
  | border (border : Border) (runs : List Nat)
  | content (fields : List Field)

/-- Some cells between the characters of a border. -/
def framed (border : Border) (cells : List (List (List Char))) : List (List Char) :=
  [border.left] :: ([[border.junction]].intercalate cells ++ [[border.right]])

/-- The borders between the cells of a line. -/
def sides : Border := ⟨'│', '│', '│'⟩

namespace Line

def parts : Line → List (List Char)
  | border b runs => framed b (runs.map fun run => [List.replicate run '─'])
  | content fields => framed sides (fields.map Field.parts)

def text (line : Line) : List Char := line.parts.flatten

/-- The columns of the terminal that the parts of the line take. -/
def width (line : Line) : Nat := Text.totalWidth line.parts

end Line

/-! ## What is written -/

section Parts

variable {border : Border} {cells : List (List (List Char))} {widths runs : List Nat}
  {fields : List Field} {texts : List (List Char)} {c : Char}

theorem flatten_intercalate {α : Type} (separator : List (List α)) (groups : List (List (List α))) :
    (separator.intercalate groups).flatten =
      separator.flatten.intercalate (groups.map List.flatten) := by
  induction groups with
  | nil => rfl
  | cons group groups ih =>
    cases groups with
    | nil => simp
    | cons next others =>
      rw [List.map_cons] at ih
      rw [List.map_cons, List.map_cons, List.intercalate_cons_cons, List.intercalate_cons_cons,
        List.flatten_append, List.flatten_append, ih]

theorem flatten_framed : (framed border cells).flatten =
    border.left :: ([border.junction].intercalate (cells.map List.flatten) ++ [border.right]) := by
  rw [framed, List.flatten_cons, List.flatten_append, flatten_intercalate]
  simp

theorem border_line_eq : border.line widths = (Line.border border (widths.map (· + 2))).text := by
  rw [Line.text, Line.parts, flatten_framed, Border.line, List.map_map, List.map_map]
  simp [Function.comp_def]

theorem contentLine_eq :
    contentLine widths texts = (Line.content (List.zipWith Field.fit widths texts)).text := by
  have hpad : pad = fun width text => (Field.fit width text).parts.flatten := by
    funext width text
    simp [pad, Field.fit, Field.parts, List.replicate_succ']
  rw [Line.text, Line.parts, flatten_framed, List.map_map, List.map_zipWith, contentLine, hpad]
  rfl

/-! ## Widths -/

/-- Each character of the border takes one column. -/
def Border.Narrow (border : Border) : Prop :=
  Text.displayWidth [border.left] = 1 ∧ Text.displayWidth [border.junction] = 1 ∧
    Text.displayWidth [border.right] = 1

theorem narrow_of_mem : ∀ border ∈ [top, separator, bottom, sides], border.Narrow := by
  have hborders : ∀ border ∈ [top, separator, bottom, sides],
      Text.displayWidth [border.left] = 1 ∧ Text.displayWidth [border.junction] = 1 ∧
        Text.displayWidth [border.right] = 1 := by decide +kernel
  exact hborders

theorem totalWidth_framed (hb : border.Narrow) (cells : List (List (List Char))) :
    Text.totalWidth (framed border cells) =
      (cells.map Text.totalWidth).sum + (cells.length - 1) + 2 := by
  have hchar : ∀ c : Char, Text.totalWidth [[c]] = Text.displayWidth [c] := fun _ => rfl
  obtain ⟨hleft, hjunction, hright⟩ := hb
  rw [framed, ← List.singleton_append, Text.totalWidth_append, Text.totalWidth_append,
    Text.totalWidth_intercalate, hchar, hchar, hchar, hleft, hjunction, hright]
  omega

theorem width_border (hb : border.Narrow) (runs : List Nat) :
    (Line.border border runs).width = runs.sum + (runs.length - 1) + 2 := by
  have hrun : ∀ run : Nat, Text.totalWidth [List.replicate run '─'] = run := Text.displayWidth_dashes
  rw [Line.width, Line.parts, totalWidth_framed hb, List.length_map, List.map_map]
  simp [Function.comp_def, hrun]

theorem width_content (h : fields.map Field.width = runs) :
    (Line.content fields).width = runs.sum + (runs.length - 1) + 2 := by
  rw [Line.width, Line.parts, totalWidth_framed (narrow_of_mem sides (by simp)), List.length_map,
    List.map_map, ← h, List.length_map]
  rfl

theorem width_fit {width : Nat} {text : List Char} (h : Text.displayWidth text ≤ width) :
    (Field.fit width text).width = width + 2 := by
  have hblank : Text.displayWidth [' '] = 1 := Text.displayWidth_blanks 1
  simp only [Field.width, Field.parts, Field.fit, Text.totalWidth, List.map_cons, List.map_nil,
    List.sum_cons, List.sum_nil, hblank, Text.displayWidth_blanks]
  omega

/-- There is one text for each column, and none is wider than its column. -/
abbrev Fits (widths : List Nat) (texts : List (List Char)) : Prop :=
  List.Forall₂ (fun width text => Text.displayWidth text ≤ width) widths texts

/-- Texts that fit into columns fill them up, and stand in them as they are. -/
theorem map_fit (h : Fits widths texts) :
    (List.zipWith Field.fit widths texts).map Field.text = texts ∧
      (List.zipWith Field.fit widths texts).map Field.width = widths.map (· + 2) := by
  induction h with
  | nil => exact ⟨rfl, rfl⟩
  | @cons width text widths texts hw _ ih =>
    obtain ⟨htexts, hwidths⟩ := ih
    rw [List.zipWith_cons_cons, List.map_cons, List.map_cons, List.map_cons, htexts, hwidths,
      width_fit hw]
    exact ⟨rfl, rfl⟩

/-! ## Line feeds -/

theorem mem_of_mem_intercalate {α : Type} {x : α} {separator : List α} {groups : List (List α)}
    (h : x ∈ separator.intercalate groups) : x ∈ separator ∨ ∃ group ∈ groups, x ∈ group := by
  induction groups with
  | nil => cases h
  | cons group groups ih =>
    cases groups with
    | nil => exact .inr ⟨group, by simp, by simpa using h⟩
    | cons next others =>
      rw [List.intercalate_cons_cons, List.mem_append, List.mem_append] at h
      rcases h with (h | h) | h
      · exact .inr ⟨group, by simp, h⟩
      · exact .inl h
      · refine (ih h).imp_right ?_
        rintro ⟨other, ho, hx⟩
        exact ⟨other, List.mem_cons_of_mem _ ho, hx⟩

theorem mem_flatten_framed (h : c ∈ (framed border cells).flatten) :
    c ∈ [border.left, border.junction, border.right] ∨ ∃ cell ∈ cells, c ∈ cell.flatten := by
  rw [flatten_framed, List.mem_cons, List.mem_append] at h
  rcases h with rfl | h | h
  · exact .inl (by simp)
  · rcases mem_of_mem_intercalate h with h | ⟨text, ht, hc⟩
    · exact .inl (by simp [List.mem_singleton.mp h])
    · obtain ⟨cell, hcell, rfl⟩ := List.mem_map.mp ht
      exact .inr ⟨cell, hcell, hc⟩
  · exact .inl (by simp [List.mem_singleton.mp h])

theorem lineFeed_not_mem_border : ∀ border ∈ [top, separator, bottom, sides],
    '\n' ∉ [border.left, border.junction, border.right] := by
  decide

theorem lineFeed_not_mem_border_text (hb : border ∈ [top, separator, bottom, sides])
    (runs : List Nat) : '\n' ∉ (Line.border border runs).text := by
  intro h
  rcases mem_flatten_framed h with h | ⟨cell, hcell, h⟩
  · exact lineFeed_not_mem_border border hb h
  · obtain ⟨run, -, rfl⟩ := List.mem_map.mp hcell
    simp at h

theorem lineFeed_not_mem_content_text (hfields : ∀ field ∈ fields, '\n' ∉ field.text) :
    '\n' ∉ (Line.content fields).text := by
  intro h
  rcases mem_flatten_framed h with h | ⟨cell, hcell, h⟩
  · exact lineFeed_not_mem_border sides (by simp) h
  · obtain ⟨field, hfield, rfl⟩ := List.mem_map.mp hcell
    simp [Field.parts, hfields field hfield] at h

end Parts

end TableScope.Grid
