import TableScope.Proofs.Number.Layouts
import TableScope.Proofs.Output.JsonReader

/-! # Tables read back from JSON

A table is read back from its JSON text: one object per row, in each object the names of the columns in
the order in which they first appear, and for every name what the last column of that name holds
(`read_ofTable`). Integers are read back exactly, and a number is read back as a decimal to which it is
the nearest of its format (`Shows`).
-/
set_option autoImplicit false

namespace TableScope

namespace Json

/-! ## Numerals -/

theorem isDigits_text (n : Nat) : isDigits (Nat.text n) = true :=
  isDigits_iff.mpr ⟨Nat.toDigits_ne_nil, fun _ => Numeral.isDigit_of_mem_text⟩

theorem isSigned_of_isDigits {s : List Char} (h : isDigits s = true) : isSigned s = true := by
  rw [isSigned.eq_def]
  split
  · exact absurd ((isDigits_iff.mp h).2 '+' List.mem_cons_self) (by decide)
  · exact absurd ((isDigits_iff.mp h).2 '-' List.mem_cons_self) (by decide)
  · exact h

theorem isExponent_text (p : Numeral.Parts) : isExponent p.exponentText = true := by
  rw [Numeral.Parts.exponentText]
  split
  · rfl
  · next plus power _ =>
    rw [isExponent, beq_self_eq_true, Bool.true_or, Bool.true_and, Int.text]
    have hdigits := isDigits_text power.natAbs
    by_cases hp : power < 0
    · rw [if_pos hp, decide_eq_false (not_le.mpr hp), Bool.and_false]
      exact hdigits
    · rw [if_neg hp, decide_eq_true (not_lt.mp hp), Bool.and_true]
      cases plus with
      | true => exact hdigits
      | false => exact isSigned_of_isDigits hdigits

variable {p : Numeral.Parts}

theorem isFraction_text (h : p.WellFormed) :
    isFraction (p.fractionText ++ p.exponentText) = true := by
  rw [Numeral.Parts.fractionText]
  split
  · rw [List.nil_append, isFraction.eq_def]
    split
    · next r hr =>
      have he := p.head?_exponentText '.' (by rw [hr]; rfl)
      exact absurd he (by decide)
    · exact isExponent_text p
  · next hf =>
    have hdigits : ∀ c ∈ p.fraction, c.isDigit = true :=
      fun c hc => h.isDigit c (List.mem_append_right _ hc)
    rw [List.cons_append, isFraction, Text.span_append hdigits p.isDigit_head?_exponentText]
    exact Bool.and_eq_true_iff.mpr ⟨isDigits_iff.mpr ⟨hf, hdigits⟩, isExponent_text p⟩

theorem isUnsigned_text (h : p.WellFormed) (hz : p.whole = ['0'] ∨ p.whole.head? ≠ some '0') :
    isUnsigned p.text = true := by
  have hdigits : ∀ c ∈ p.whole, c.isDigit = true :=
    fun c hc => h.isDigit c (List.mem_append_left _ hc)
  have hrest : ∀ c, (p.fractionText ++ p.exponentText).head? = some c → c.isDigit = false := by
    intro c hc
    rw [Numeral.Parts.fractionText] at hc
    split at hc
    · exact p.isDigit_head?_exponentText c hc
    · cases hc
      rfl
  have hwhole : isWhole p.whole = true := by
    rw [isWhole, Bool.and_eq_true, Bool.or_eq_true, beq_iff_eq, bne_iff_ne]
    exact ⟨isDigits_iff.mpr ⟨h.whole_ne, hdigits⟩, hz⟩
  rw [Numeral.Parts.text, List.append_assoc, isUnsigned, Text.span_append hdigits hrest]
  exact Bool.and_eq_true_iff.mpr ⟨hwhole, isFraction_text h⟩

theorem isNumeral_signed (negative : Bool) (h : p.WellFormed)
    (hz : p.whole = ['0'] ∨ p.whole.head? ≠ some '0') :
    isNumeral ((if negative then ['-'] else []) ++ p.text) = true := by
  have hunsigned := isUnsigned_text h hz
  cases negative with
  | true => exact hunsigned
  | false =>
    rw [if_neg Bool.false_ne_true, List.nil_append, isNumeral.eq_def]
    split
    · next r hr =>
      -- a numeral without a sign starts with a digit
      obtain ⟨c, whole, hw⟩ := List.exists_cons_of_ne_nil h.whole_ne
      have hc : c.isDigit = true := h.isDigit c (by rw [hw]; exact List.mem_cons_self)
      rw [Numeral.Parts.text, hw] at hr
      cases hr
      exact absurd hc (by decide)
    · exact hunsigned

theorem isNumeral_natText (negative : Bool) (n : Nat) :
    isNumeral ((if negative then ['-'] else []) ++ Nat.text n) = true := by
  have htext : (⟨Nat.text n, [], none⟩ : Numeral.Parts).text = Nat.text n := by
    simp [Numeral.Parts.text, Numeral.Parts.fractionText, Numeral.Parts.exponentText]
  rw [← htext]
  refine isNumeral_signed negative ⟨Nat.toDigits_ne_nil, ?_⟩ ?_
  · rw [List.append_nil]
    exact fun c => Numeral.isDigit_of_mem_text
  · by_cases hn : n = 0
    · exact .inl (by rw [hn]; rfl)
    · exact .inr (Numeral.head?_text n hn)

theorem isNumeral_intText (i : Int) : isNumeral (Int.text i) = true := by
  have h := isNumeral_natText (decide (i < 0)) i.natAbs
  rw [Int.text]
  by_cases hi : i < 0
  · rw [decide_eq_true hi] at h
    rwa [if_pos hi]
  · rw [decide_eq_false hi] at h
    rwa [if_neg hi]

/-! ## Cells -/

/-- What a value says about a cell. -/
inductive Shows : Json → Cell → Prop
  | null : Shows null .null
  | boolean (value : Bool) : Shows (boolean value) (.boolean value)
  | int64 {numeral : List Char} {value : Int64}
    (h : Numeral.integer? numeral = some value.toInt) : Shows (number numeral) (.int64 value)
  | uint64 {numeral : List Char} {value : UInt64}
    (h : Numeral.integer? numeral = some value.toNat) : Shows (number numeral) (.uint64 value)
  | notANumber : Shows null (.float64 .nan)
  | infinite (negative : Bool) : Shows null (.float64 (.infinity negative))
  | float64 {numeral : List Char} {negative : Bool} {d : Decimal}
    {place : Fin (BinaryFormat.binary64.top + 1)} (hfinite : place.val ≠ BinaryFormat.binary64.top)
    (hd : Numeral.decimal? numeral = some (negative, d))
    (hplace : BinaryFormat.binary64.Rounds d.value place) :
    Shows (number numeral) (.float64 (.number negative place))
  | string (value : String) : Shows (string value.toList) (.string value)

theorem isNumeral_numberText (negative : Bool)
    {place : Fin (BinaryFormat.binary64.top + 1)} (hp : place.val ≠ BinaryFormat.binary64.top) :
    isNumeral (numberLayout.text (.number negative place)) = true := by
  obtain ⟨p, htext, hspells⟩ := numberLayout.text_parts negative hp
  rw [htext]
  refine isNumeral_signed negative hspells.toWellFormed (hspells.leading ?_)
  intro hz
  rw [Decimal.shortest_eq_zero (by decide) (Nat.le_of_lt_succ place.isLt) hz]

theorem ofCell_spec (cell : Cell) : (ofCell cell).WellFormed ∧ Shows (ofCell cell) cell := by
  cases cell with
  | null => exact ⟨.null, .null⟩
  | boolean value => exact ⟨.boolean value, .boolean value⟩
  | int64 value => exact ⟨.number (isNumeral_intText _), .int64 (Numeral.integer?_text _)⟩
  | uint64 value => exact ⟨.number (isNumeral_natText false _), .uint64 (Numeral.integer?_natText _)⟩
  | float64 value =>
    cases value with
    | nan => exact ⟨.null, .notANumber⟩
    | number negative place =>
      rw [ofCell, ofBinary]
      by_cases hp : place.val = BinaryFormat.binary64.top
      · have hinfinite : Binary.number negative place = Binary.infinity negative :=
          congrArg _ (Fin.ext hp)
        rw [if_pos hp, hinfinite]
        exact ⟨.null, .infinite negative⟩
      · obtain ⟨d, hd, hplace⟩ := numberLayout.decimal?_text (by decide) negative hp
        rw [if_neg hp]
        exact ⟨.number (isNumeral_numberText negative hp), .float64 hp hd hplace⟩
  | string value => exact ⟨.string _, .string value⟩

/-! ## Members -/

section Members

variable (name other : List Char) (value : Json) (members : List (List Char × Json))

theorem lookup_insert : (insert name value members).lookup other =
    if other = name then some value else members.lookup other := by
  induction members with
  | nil =>
    rw [insert, List.lookup_cons, List.lookup_nil]
    by_cases ho : other = name
    · rw [if_pos ho, beq_iff_eq.mpr ho]
    · rw [if_neg ho, beq_false_of_ne ho]
  | cons member others ih =>
    obtain ⟨first, held⟩ := member
    rw [insert]
    split
    · next h =>
      obtain rfl : first = name := h
      rw [List.lookup_cons, List.lookup_cons]
      by_cases ho : other = first
      · rw [if_pos ho, beq_iff_eq.mpr ho]
      · rw [if_neg ho, beq_false_of_ne ho]
    · next h =>
      have hne : first ≠ name := h
      rw [List.lookup_cons, List.lookup_cons, ih]
      by_cases ho : other = first
      · have hother : other ≠ name := ho ▸ hne
        rw [beq_iff_eq.mpr ho, if_neg hother, if_neg hother]
      · rw [beq_false_of_ne ho]

theorem map_fst_insert : (insert name value members).map Prod.fst =
    if name ∈ members.map Prod.fst then members.map Prod.fst
    else members.map Prod.fst ++ [name] := by
  induction members with
  | nil => rfl
  | cons member others ih =>
    rw [insert]
    split
    · next h => rw [List.map_cons, List.map_cons, h, if_pos List.mem_cons_self]
    · next h =>
      rw [List.map_cons, List.map_cons, ih]
      by_cases ho : name ∈ others.map Prod.fst
      · rw [if_pos ho, if_pos (List.mem_cons_of_mem _ ho)]
      · have hnot : name ∉ member.1 :: others.map Prod.fst :=
          List.not_mem_cons_of_ne_of_not_mem (Ne.symm h) ho
        rw [if_neg ho, if_neg hnot, List.cons_append]

theorem forall_mem_insert {motive : Json → Prop} (hv : motive value)
    (hm : ∀ entry ∈ members, motive entry.2) :
    ∀ entry ∈ insert name value members, motive entry.2 := by
  induction members with
  | nil => exact List.forall_mem_singleton.mpr hv
  | cons member others ih =>
    obtain ⟨hfirst, hothers⟩ := List.forall_mem_cons.mp hm
    rw [insert]
    split
    · exact List.forall_mem_cons.mpr ⟨hv, hothers⟩
    · exact List.forall_mem_cons.mpr ⟨hfirst, ih hothers⟩

end Members

def membersOf (entries : List (Column × Cell)) : List (List Char × Json) :=
  entries.foldl (fun members entry => insert entry.1.name.toList (ofCell entry.2) members) []

theorem membersOf_concat (entries : List (Column × Cell)) (last : Column × Cell) :
    membersOf (entries ++ [last]) =
      insert last.1.name.toList (ofCell last.2) (membersOf entries) := by
  rw [membersOf, List.foldl_concat]
  rfl

theorem wellFormed_membersOf (entries : List (Column × Cell)) :
    ∀ entry ∈ membersOf entries, entry.2.WellFormed := by
  induction entries using List.reverseRecOn with
  | nil => nofun
  | append_singleton entries last ih =>
    rw [membersOf_concat]
    exact forall_mem_insert _ _ _ (ofCell_spec last.2).1 ih

theorem eraseDups_concat (names : List String) (name : String) : (names ++ [name]).eraseDups =
    if name ∈ names then names.eraseDups else names.eraseDups ++ [name] := by
  have hsingle : [name].eraseDups = [name] := rfl
  rw [List.eraseDups_append]
  by_cases h : name ∈ names
  · simp [List.removeAll, h]
  · simp [List.removeAll, h, hsingle]

theorem map_fst_membersOf (entries : List (Column × Cell)) : (membersOf entries).map Prod.fst =
    (entries.map fun entry => entry.1.name).eraseDups.map String.toList := by
  induction entries using List.reverseRecOn with
  | nil => rfl
  | append_singleton entries last ih =>
    have hinjective : Function.Injective String.toList := fun _ _ => String.toList_injective
    have hmem : last.1.name.toList ∈ (membersOf entries).map Prod.fst ↔
        last.1.name ∈ entries.map fun entry => entry.1.name := by
      rw [ih, List.mem_map_of_injective hinjective, List.mem_eraseDups]
    rw [membersOf_concat, map_fst_insert, List.map_append, List.map_singleton, eraseDups_concat]
    by_cases h : last.1.name ∈ entries.map fun entry => entry.1.name
    · rw [if_pos (hmem.mpr h), if_pos h, ih]
    · rw [if_neg (mt hmem.mp h), if_neg h, ih, List.map_append, List.map_singleton]

theorem lookup_membersOf {entries : List (Column × Cell)} {position : Nat} {column : Column}
    {cell : Cell} (hp : entries[position]? = some (column, cell))
    (hlast : ∀ later other, position < later → entries[later]? = some other →
      other.1.name ≠ column.name) :
    (membersOf entries).lookup column.name.toList = some (ofCell cell) := by
  induction entries using List.reverseRecOn with
  | nil => cases hp
  | append_singleton entries last ih =>
    rw [membersOf_concat, lookup_insert]
    -- the last entry, inserted last, is the one asked for or has another name
    rcases Nat.lt_trichotomy position entries.length with hlt | heq | hgt
    · have hconcat : (entries ++ [last])[entries.length]? = some last := List.getElem?_concat_length
      have hne : column.name.toList ≠ last.1.name.toList :=
        fun h => hlast _ last hlt hconcat (String.toList_injective h).symm
      rw [if_neg hne]
      refine ih (by rwa [List.getElem?_append_left hlt] at hp) ?_
      intro later other hl ho
      have hlater := (List.getElem?_eq_some_iff.mp ho).1
      exact hlast later other hl (by rwa [List.getElem?_append_left hlater])
    · rw [heq, List.getElem?_concat_length] at hp
      obtain rfl := Option.some.inj hp
      rw [if_pos rfl]
    · rw [List.getElem?_eq_none (by rw [List.length_append]; exact hgt)] at hp
      cases hp

/-! ## Tables -/

/-- What is written for a table is read as one object per row: its names are those of the columns in
the order in which they first appear, and each has the value of the last column of that name. -/
theorem read_ofTable (table : Table) :
    ∃ objects : List (List (List Char × Json)),
      read (ofTable table).render = some (array (objects.map object)) ∧
        List.Forall₂ (fun members row =>
          members.map Prod.fst = table.schema.names.eraseDups.map String.toList ∧
            ∀ (position : Nat) (column : Column) (cell : Cell),
              table.schema[position]? = some column → row[position]? = some cell →
              (∀ later other, position < later → table.schema[later]? = some other →
                other.name ≠ column.name) →
              ∃ value, members.lookup column.name.toList = some value ∧ Shows value cell)
          objects table.rows := by
  refine ⟨table.rows.map (members table.schema), ?_, ?_⟩
  · have hrows : ofTable table = array ((table.rows.map (members table.schema)).map object) := by
      rw [ofTable, List.map_map]
      rfl
    rw [hrows]
    apply WellFormed.read_back
    refine .array ?_
    intro item hm
    obtain ⟨objects, hobjects, rfl⟩ := List.mem_map.mp hm
    obtain ⟨row, -, rfl⟩ := List.mem_map.mp hobjects
    exact .object (wellFormed_membersOf (table.schema.zip row))
  · rw [List.forall₂_map_left_iff, List.forall₂_same]
    intro row hrow
    have hwidth := table.rectangular row hrow
    refine ⟨?_, ?_⟩
    · have hnames : ((table.schema.zip row).map fun entry => entry.1.name) = table.schema.names := by
        have hzip := congrArg (List.map Column.name) (List.map_fst_zip hwidth.ge)
        rwa [List.map_map] at hzip
      rw [← hnames]
      exact map_fst_membersOf _
    · intro position column cell hcolumn hcell hlast
      refine ⟨ofCell cell, ?_, (ofCell_spec cell).2⟩
      apply lookup_membersOf (List.getElem?_zip_eq_some.mpr ⟨hcolumn, hcell⟩)
      intro later other hl ho
      exact hlast later other.1 hl (List.getElem?_zip_eq_some.mp ho).1

example : (ofTable ⟨[⟨"a", .int64⟩, ⟨"b", .string⟩, ⟨"a", .float64⟩],
    [[.int64 1, .string "\n", .float64 (.ofRatio true 1 10)], [.int64 2, .null, .float64 .nan]],
    by decide⟩).render =
      "[\x7b\"a\":-0.1,\"b\":\"\\n\"\x7d,\x7b\"a\":null,\"b\":null\x7d]".toList := by
  decide +kernel

end Json

end TableScope
