import Mathlib.Data.List.ReduceOption
import TableScope.Inspection
import TableScope.Proofs.Filter.Moving
import TableScope.Proofs.Stored.Selection
import TableScope.Proofs.Text.Joining

/-! # Lists of column names

The texts between the commas of a list are its entries, and an entry that is not blank has a name
(`Listed`). A list of columns is read as its names in the order of their first entries, each once
(`ListedBefore`). Names without commas and blank ends are read from what they are joined to, whatever
blanks stand around them (`columnList_intercalate`), and the reader finds no repetition among them.
-/
set_option autoImplicit false

namespace TableScope

/-- In a list of names, a name stands after a number of commas, with nothing but blanks around it. -/
inductive Listed (list : List Char) (commas : Nat) (name : String) : Prop
  | intro (entries : List (List Char)) (entry : List Char)
    (hjoined : [','].intercalate entries = list) (hfree : ∀ entry ∈ entries, ',' ∉ entry)
    (hentry : entries[commas]? = some entry) (hspaced : Text.Spaced name.toList entry)
    (htrimmed : Text.Trimmed name.toList) (hname : name ≠ "") : Listed list commas name

/-- One name stands in a list before the other one does for the first time. -/
def ListedBefore (list : List Char) (first second : String) : Prop :=
  ∃ commas, Listed list commas first ∧ ∀ others, Listed list others second → commas < others

namespace ColumnList

variable {list entry : List Char} {commas : Nat} {name : String} {names : List String}

/-! ## Entries -/

/-- The name in an entry, if it is not blank. -/
def entryName? (entry : List Char) : Option String :=
  if Text.trim entry = [] then none else some (String.ofList (Text.trim entry))

theorem entryName?_eq_some_iff : entryName? entry = some name ↔
    Text.Spaced name.toList entry ∧ Text.Trimmed name.toList ∧ name ≠ "" := by
  have hempty : name = "" ↔ name.toList = [] := by rw [← String.toList_inj]; rfl
  rw [entryName?, ne_eq, hempty]
  constructor
  · intro h
    split at h
    · cases h
    · next hne =>
      obtain rfl := Option.some.inj h
      rw [String.toList_ofList]
      obtain ⟨htrimmed, hspaced⟩ := Text.trim_eq_iff.mp rfl
      exact ⟨hspaced, htrimmed, hne⟩
  · rintro ⟨hspaced, htrimmed, hne⟩
    rw [hspaced.trim_eq htrimmed, if_neg hne, String.ofList_toList]

/-- What the entries of a list name, in their order. -/
def entryNames (list : List Char) : List (Option String) :=
  (Text.pieces ',' list).map entryName?

theorem listed_iff : Listed list commas name ↔ (entryNames list)[commas]? = some (some name) := by
  rw [entryNames, List.getElem?_map, Option.map_eq_some_iff]
  constructor
  · rintro ⟨entries, entry, rfl, hfree, hentry, hspaced, htrimmed, hname⟩
    have hne : entries ≠ [] := by rintro rfl; cases hentry
    rw [Text.pieces_intercalate hne hfree]
    exact ⟨entry, hentry, entryName?_eq_some_iff.mpr ⟨hspaced, htrimmed, hname⟩⟩
  · rintro ⟨entry, hentry, hname⟩
    obtain ⟨hspaced, htrimmed, hne⟩ := entryName?_eq_some_iff.mp hname
    exact .intro _ entry (Text.intercalate_pieces ',' list)
      (Text.not_mem_of_mem_pieces ',' list) hentry hspaced htrimmed hne

theorem columnList_eq (list : List Char) :
    columnList list = distinct (entryNames list).reduceOption := by
  rw [columnList, entryNames]
  congr 1
  induction Text.pieces ',' list with
  | nil => rfl
  | cons entry entries ih =>
    rw [List.map_cons, List.map_cons, entryName?]
    by_cases hblank : Text.trim entry = []
    · rw [if_pos hblank, List.reduceOption_cons_of_none, List.filter_cons_of_neg (by simp [hblank]), ih]
    · rw [if_neg hblank, List.reduceOption_cons_of_some, List.filter_cons_of_pos (by simp [hblank]),
        List.map_cons, ih]

/-! ## First appearances -/

theorem nodup_distinct (names : List String) : (distinct names).Nodup := by
  induction names with
  | nil => exact List.nodup_nil
  | cons first others ih =>
    rw [distinct, List.nodup_cons]
    exact ⟨by simp, ih.filter _⟩

/-- One name is among some names before the other one is for the first time. -/
def Precedes (names : List (Option String)) (first second : String) : Prop :=
  ∃ i, names[i]? = some (some first) ∧ ∀ j : Nat, names[j]? = some (some second) → i < j

theorem Precedes.cons {names : List (Option String)} {head : Option String} {first second : String}
    (h : Precedes names first second) (hhead : head ≠ some second) :
    Precedes (head :: names) first second := by
  obtain ⟨i, hfirst, hbefore⟩ := h
  refine ⟨i + 1, hfirst, fun j hsecond => ?_⟩
  cases j with
  | zero => exact absurd (Option.some.inj hsecond) hhead
  | succ j => exact Nat.succ_lt_succ (hbefore j hsecond)

theorem precedes_cons_self {first second : String} (names : List (Option String))
    (hne : first ≠ second) : Precedes (some first :: names) first second := by
  refine ⟨0, rfl, fun j hsecond => ?_⟩
  cases j with
  | zero => exact absurd (Option.some.inj (Option.some.inj hsecond)) hne
  | succ j => exact Nat.succ_pos j

/-- The names that are left are in the order in which they appear for the first time. -/
theorem pairwise_distinct_reduceOption (names : List (Option String)) :
    (distinct names.reduceOption).Pairwise (Precedes names) := by
  induction names with
  | nil => exact List.Pairwise.nil
  | cons head names ih =>
    cases head with
    | none =>
      rw [List.reduceOption_cons_of_none]
      exact ih.imp fun h => h.cons nofun
    | some name =>
      rw [List.reduceOption_cons_of_some, distinct, List.pairwise_cons, List.pairwise_filter]
      constructor
      · intro second hsecond
        exact precedes_cons_self names (bne_iff_ne.mp (List.mem_filter.mp hsecond).2).symm
      · -- what stands behind the name is not the name
        refine ih.imp fun h _ hsecond => h.cons fun hname => ?_
        exact bne_iff_ne.mp hsecond (Option.some.inj hname).symm

theorem mem_columnList : name ∈ columnList list ↔ ∃ commas, Listed list commas name := by
  rw [columnList_eq, mem_distinct, List.reduceOption_mem_iff, List.mem_iff_getElem?]
  exact exists_congr fun _ => listed_iff.symm

theorem nodup_columnList (list : List Char) : (columnList list).Nodup :=
  columnList_eq list ▸ nodup_distinct _

theorem pairwise_columnList (list : List Char) :
    (columnList list).Pairwise (ListedBefore list) := by
  rw [columnList_eq]
  refine (pairwise_distinct_reduceOption (entryNames list)).imp ?_
  rintro first second ⟨commas, hfirst, hbefore⟩
  exact ⟨commas, listed_iff.mpr hfirst, fun others h => hbefore others (listed_iff.mp h)⟩

theorem parts_of_listed (h : Listed list commas name) :
    name ≠ "" ∧ ',' ∉ name.toList ∧ Text.Trimmed name.toList := by
  obtain ⟨entries, entry, -, hfree, hentry, ⟨left, right, -, -⟩, htrimmed, hname⟩ := h
  refine ⟨hname, fun hmem => ?_, htrimmed⟩
  exact hfree _ (List.mem_of_getElem? hentry) (by simp [hmem])

/-! ## Written names -/

/-- Names with blanks around them are entries, and what these name are the names. -/
theorem map_entryName? {texts : List (List Char)}
    (hnames : ∀ name ∈ names, name ≠ "" ∧ ',' ∉ name.toList ∧ Text.Trimmed name.toList)
    (htexts : List.Forall₂ (fun name text => Text.Spaced name.toList text) names texts) :
    texts.map entryName? = names.map some ∧ ∀ text ∈ texts, ',' ∉ text := by
  induction htexts with
  | nil => exact ⟨rfl, nofun⟩
  | @cons name text names texts hspaced _ ih =>
    obtain ⟨⟨hne, hfree, htrimmed⟩, hothers⟩ := List.forall_mem_cons.mp hnames
    obtain ⟨hmap, hcommas⟩ := ih hothers
    rw [List.map_cons, List.map_cons, hmap, entryName?_eq_some_iff.mpr ⟨hspaced, htrimmed, hne⟩]
    exact ⟨rfl, List.forall_mem_cons.mpr ⟨hspaced.not_mem hfree rfl, hcommas⟩⟩

/-- What is written for names is read as these names. -/
theorem columnList_intercalate {texts : List (List Char)} (hnodup : names.Nodup)
    (hnames : ∀ name ∈ names, name ≠ "" ∧ ',' ∉ name.toList ∧ Text.Trimmed name.toList)
    (htexts : List.Forall₂ (fun name text => Text.Spaced name.toList text) names texts) :
    columnList ([','].intercalate texts) = names := by
  obtain ⟨hmap, hcommas⟩ := map_entryName? hnames htexts
  by_cases hne : texts = []
  · -- nothing is written for no names, which is one blank entry
    subst hne
    cases htexts
    rfl
  · rw [columnList_eq, entryNames, Text.pieces_intercalate hne hcommas, hmap, List.reduceOption,
      List.filterMap_map]
    simpa using distinct_of_nodup hnodup

/-! ## Reading -/

/-- Columns that do not repeat are read in the order of their names, and all columns if none is named. -/
theorem names_of_read {batch : Batch} {limit : Option Nat} {table : Table} (hnodup : names.Nodup)
    (h : batch.read ⟨names, limit⟩ = .ok table) :
    table.schema.names = if names = [] then batch.schema.names else names := by
  obtain ⟨hnames, -, rfl⟩ := Batch.read_eq_ok_iff.mp h
  rw [distinct_of_nodup hnodup]
  change (batch.table.columnsNamed names).schema.names = _
  rw [Table.columnsNamed]
  split
  · rfl
  · exact Schema.names_pick hnames

theorem read_of_nodup {content : FileContent} {table : Table} (hread : content.read {} = .ok table)
    (hnodup : names.Nodup) (hnames : names ⊆ table.schema.names) (limit : Option Nat) :
    ∃ selected, content.read ⟨names, limit⟩ = .ok (selected.upTo limit) ∧
      if names = [] then selected = table else table.select names = .ok selected := by
  obtain ⟨batch, rfl⟩ := FileContent.exists_table_of_read hread rfl
  obtain ⟨hloadable, rfl⟩ := Batch.read_all_eq_ok_iff.mp hread
  have hcolumns : ∀ name ∈ names, batch.table.schema.hasColumn name = true :=
    fun name hm => Schema.hasColumn_iff.mpr (hnames hm)
  have hselected := hloadable.read_eq ⟨names, limit⟩ hcolumns
  rw [distinct_of_nodup hnodup] at hselected
  refine ⟨batch.table.columnsNamed names, hselected, ?_⟩
  rw [Table.columnsNamed]
  split
  · rfl
  · exact Table.select_eq_ok _ names hcolumns

/-- A list of columns is read as its names in the order in which they first appear. What is written for
them is read as the same names, and the reader takes the columns in this order, without removing any
name, or all columns if there is no name. -/
theorem columnList_first_appearances (list : List Char) :
    (∀ name, name ∈ columnList list ↔ ∃ commas, Listed list commas name) ∧
    (columnList list).Nodup ∧ (columnList list).Pairwise (ListedBefore list) ∧
    (∀ name ∈ columnList list, name ≠ "" ∧ ',' ∉ name.toList ∧ Text.Trimmed name.toList) ∧
    (∀ texts, List.Forall₂ (fun name text => Text.Spaced name.toList text) (columnList list) texts →
      columnList ([','].intercalate texts) = columnList list) ∧
    distinct (columnList list) = columnList list ∧
    (∀ (batch : Batch) (limit : Option Nat) (table : Table),
      batch.read ⟨columnList list, limit⟩ = .ok table →
      table.schema.names = if columnList list = [] then batch.schema.names else columnList list) ∧
    ∀ (content : FileContent) (table : Table) (limit : Option Nat), content.read {} = .ok table →
      columnList list ⊆ table.schema.names →
      ∃ selected, content.read ⟨columnList list, limit⟩ = .ok (selected.upTo limit) ∧
        if columnList list = [] then selected = table
        else table.select (columnList list) = .ok selected := by
  have hnodup := nodup_columnList list
  have hnames : ∀ name ∈ columnList list,
      name ≠ "" ∧ ',' ∉ name.toList ∧ Text.Trimmed name.toList := by
    intro name hm
    obtain ⟨commas, hlisted⟩ := mem_columnList.mp hm
    exact parts_of_listed hlisted
  exact ⟨fun name => mem_columnList, hnodup, pairwise_columnList list, hnames,
    fun texts => columnList_intercalate hnodup hnames, distinct_of_nodup hnodup,
    fun batch limit table => names_of_read hnodup,
    fun content table limit hread hn => read_of_nodup hread hnodup hn limit⟩

/-- Some entries are blank, and the last name is a repetition once it is trimmed. -/
theorem columnList_first_appearances_ledger :
    let list := " name ,\u3000,due,,\tname,due\n".toList
    columnList list = ["name", "due"] ∧
    (List.Forall₂ (fun name text => Text.Spaced name.toList text) (columnList list)
        ["\u2003name".toList, " due ".toList] ∧
      columnList "\u2003name, due ".toList = columnList list) ∧
    (FileContent.table FileContent.ledger).read {} = .ok FileContent.ledger.table ∧
    columnList list ⊆ FileContent.ledger.table.schema.names ∧
    ∃ selected,
      FileContent.ledger.read ⟨columnList list, some 2⟩ = .ok (selected.upTo (some 2)) ∧
        FileContent.ledger.table.select ["name", "due"] = .ok selected ∧
        (selected.upTo (some 2)).schema.names = ["name", "due"] := by
  intro list
  have hlist : columnList list = ["name", "due"] := by decide +kernel
  obtain ⟨-, -, -, -, written, -, named, selects⟩ := columnList_first_appearances list
  have hspaced : List.Forall₂ (fun name text => Text.Spaced name.toList text) (columnList list)
      ["\u2003name".toList, " due ".toList] := by
    have hwide : ∀ c ∈ ['\u2003'], Text.isBlank c = true := List.all_eq_true.mp rfl
    have hblank : ∀ c ∈ [' '], Text.isBlank c = true := List.all_eq_true.mp rfl
    rw [hlist]
    exact .cons (.intro ['\u2003'] [] hwide nofun)
      (.cons (.intro [' '] [' '] hblank hblank) .nil)
  have hnames : columnList list ⊆ FileContent.ledger.table.schema.names := hlist ▸ by decide
  obtain ⟨selected, hread, hselected⟩ := selects _ _ (some 2) FileContent.read_ledger hnames
  have hcolumns := named FileContent.ledger (some 2) _ hread
  have hne : columnList list ≠ [] := hlist ▸ List.cons_ne_nil _ _
  rw [if_neg hne, hlist] at hselected hcolumns
  exact ⟨hlist, ⟨hspaced, written _ hspaced⟩, FileContent.read_ledger, hnames, selected, hread,
    hselected, hcolumns⟩

end ColumnList

end TableScope
