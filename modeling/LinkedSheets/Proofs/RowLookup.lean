import LinkedSheets.Proofs.FirstMatch

/-!
# Looking up a row

A look-up ends in one of three ways. Either no name of the header is the one looked for, or the
first one that is gives a column, and in that column the first data row with the value is found, or
there is none (`Sheet.findRow_eq_error_iff`, `Sheet.findRow_eq_found_iff`,
`Sheet.findRow_eq_absent_iff`). The header comes before the data rows and is never found.

Names, cells and values are trimmed before they are compared. That takes away the white space in
front and behind, and nothing else (`Text.trim_eq_iff`). So where two sheets are the same but for
such white space, look-ups end in the same place (`Sheet.place_eq_of_sameTrimmed`).
-/

namespace LinkedSheets

namespace Text

/-- The code points with the White_Space property. -/
def whiteSpace : List Nat :=
  [0x09, 0x0A, 0x0B, 0x0C, 0x0D, 0x20, 0x85, 0xA0, 0x1680, 0x2000, 0x2001, 0x2002, 0x2003, 0x2004,
    0x2005, 0x2006, 0x2007, 0x2008, 0x2009, 0x200A, 0x2028, 0x2029, 0x202F, 0x205F, 0x3000]

def IsWhite (c : Char) : Prop :=
  c.toNat ∈ whiteSpace

theorem isBlank_iff {c : Char} : isBlank c ↔ IsWhite c := by
  simp only [isBlank, IsWhite, whiteSpace, Bool.or_eq_true, Bool.and_eq_true, decide_eq_true_eq,
    beq_iff_eq, List.mem_cons, List.not_mem_nil, or_false]
  omega

/-- What is left behind the white space in front. -/
theorem dropWhile_isBlank_eq_iff {cs rest : List Char} :
    cs.dropWhile isBlank = rest ↔
      ∃ before, cs = before ++ rest ∧ (∀ c ∈ before, IsWhite c)
        ∧ ∀ c ∈ rest.head?, ¬ IsWhite c := by
  simp only [← isBlank_iff]
  constructor
  · rintro rfl
    refine ⟨cs.takeWhile isBlank, List.takeWhile_append_dropWhile.symm,
      List.all_eq_true.1 List.all_takeWhile, fun c hc => ?_⟩
    have hhead := List.head?_dropWhile_not isBlank cs
    rw [Option.mem_def.1 hc] at hhead
    simpa using hhead
  · rintro ⟨before, rfl, hbefore, hhead⟩
    rw [List.dropWhile_append_of_pos hbefore]
    cases rest with
    | nil => rfl
    | cons c rest => exact List.dropWhile_cons_of_neg (hhead c rfl)

/-- What is left before the white space behind. -/
theorem reverse_dropWhile_isBlank_eq_iff {cs rest : List Char} :
    (cs.reverse.dropWhile isBlank).reverse = rest ↔
      ∃ after, cs = rest ++ after ∧ (∀ c ∈ after, IsWhite c)
        ∧ ∀ c ∈ rest.getLast?, ¬ IsWhite c := by
  rw [List.reverse_eq_iff, dropWhile_isBlank_eq_iff, List.head?_reverse]
  constructor
  · rintro ⟨before, hcs, hbefore, hlast⟩
    refine ⟨before.reverse, ?_, fun c hc => hbefore c (List.mem_reverse.1 hc), hlast⟩
    rw [List.reverse_eq_iff.1 hcs, List.reverse_append, List.reverse_reverse]
  · rintro ⟨after, rfl, hafter, hlast⟩
    exact ⟨after.reverse, List.reverse_append, fun c hc => hafter c (List.mem_reverse.1 hc), hlast⟩

/-- No white space is at either end. -/
def IsTrimmed (cs : List Char) : Prop :=
  (∀ c ∈ cs.head?, ¬ IsWhite c) ∧ ∀ c ∈ cs.getLast?, ¬ IsWhite c

theorem trimChars_eq_iff {cs rest : List Char} :
    trimChars cs = rest ↔
      ∃ before after, cs = before ++ rest ++ after ∧ (∀ c ∈ before ++ after, IsWhite c)
        ∧ IsTrimmed rest := by
  constructor
  · intro h
    obtain ⟨after, hmiddle, hafter, hlast⟩ := reverse_dropWhile_isBlank_eq_iff.1 h
    obtain ⟨before, hcs, hbefore, hhead⟩ := dropWhile_isBlank_eq_iff.1 hmiddle
    refine ⟨before, after, by rw [hcs, List.append_assoc], ?_, fun c hc => hhead c ?_, hlast⟩
    · exact fun c hc => (List.mem_append.1 hc).elim (hbefore c) (hafter c)
    · rw [List.head?_append, Option.mem_def.1 hc]
      rfl
  · rintro ⟨before, after, rfl, hwhite, hhead, hlast⟩
    obtain ⟨hbefore, hafter⟩ := List.forall_mem_append.1 hwhite
    cases rest with
    | nil =>
      have hmiddle : (before ++ [] ++ after).dropWhile isBlank = [] :=
        dropWhile_isBlank_eq_iff.2 ⟨before ++ after, by simp, hwhite, by simp⟩
      rw [trimChars, hmiddle]
      rfl
    | cons c rest =>
      have hmiddle : (before ++ c :: rest ++ after).dropWhile isBlank = c :: rest ++ after :=
        dropWhile_isBlank_eq_iff.2 ⟨before, List.append_assoc .., hbefore, hhead⟩
      rw [trimChars, hmiddle]
      exact reverse_dropWhile_isBlank_eq_iff.2 ⟨after, rfl, hafter, hlast⟩

/-- Trimming takes away the white space at both ends of a text, all of it and nothing else. -/
theorem trim_eq_iff {text t : String} :
    trim text = t ↔ ∃ before after, text.toList = before ++ t.toList ++ after
      ∧ (∀ c ∈ before ++ after, IsWhite c) ∧ IsTrimmed t.toList := by
  rw [← trimChars_eq_iff, trim, ← String.toList_inj, String.toList_ofList]

end Text

namespace Sheet

open Text

variable {sheet : Sheet} {column value : String}

/-- The column is the first one of that name. -/
def IsColumn (sheet : Sheet) (column : String) (j : Nat) : Prop :=
  (∃ name, sheet.header[j]? = some name ∧ trim name = trim column)
    ∧ ∀ i < j, ∀ name, sheet.header[i]? = some name → trim name ≠ trim column

theorem columnIndex?_eq_some_iff_isColumn {j : Nat} :
    sheet.columnIndex? column = some j ↔ sheet.IsColumn column j := by
  rw [columnIndex?_eq_some_iff]
  constructor
  · rintro ⟨hj, hname, hfirst⟩
    refine ⟨⟨_, List.getElem?_eq_getElem hj, hname⟩, fun i hi name hget => ?_⟩
    obtain ⟨-, rfl⟩ := List.getElem?_eq_some_iff.1 hget
    exact hfirst i hi
  · rintro ⟨⟨name, hget, hname⟩, hfirst⟩
    obtain ⟨hj, rfl⟩ := List.getElem?_eq_some_iff.1 hget
    exact ⟨hj, hname, fun i hi =>
      hfirst i hi _ (List.getElem?_eq_getElem (Nat.lt_trans hi hj))⟩

theorem columnIndex?_eq_none_iff :
    sheet.columnIndex? column = none ↔ ∀ name ∈ sheet.header, trim name ≠ trim column := by
  simp [columnIndex?, List.findIdx?_eq_none_iff]

/-- A look-up goes through the trimmed names and the trimmed cells of a column, and sees no more. -/
theorem columnIndex?_eq_findIdx? :
    sheet.columnIndex? column = (sheet.header.map trim).findIdx? (· == trim column) := by
  rw [List.findIdx?_map]
  rfl

theorem map_snd_rowWith? (j : Nat) :
    (sheet.rowWith? j value).map (·.2)
      = (sheet.dataRows.map fun row => trim (row.cell j)).findIdx? (· == trim value) := by
  rw [List.findIdx?_map, List.findIdx?_eq_fst_find?_zipIdx]
  rfl

theorem rowWith?_eq_none_iff {j : Nat} :
    sheet.rowWith? j value = none ↔ ∀ row ∈ sheet.dataRows, trim (row.cell j) ≠ trim value := by
  rw [← Option.map_eq_none_iff, map_snd_rowWith?]
  simp [List.findIdx?_eq_none_iff]

theorem getElem?_dataRows (i : Nat) : sheet.dataRows[i]? = sheet.rows[i + 1]? :=
  List.getElem?_tail ..

/-- The data row is the first one with the value in the column. The header is in front of all data
rows. -/
def IsMatch (sheet : Sheet) (j : Nat) (value : String) (index : Nat) (row : Row) : Prop :=
  sheet.rows[index + 1]? = some row ∧ trim (row.cell j) = trim value
    ∧ ∀ i < index, ∀ row', sheet.rows[i + 1]? = some row' → trim (row'.cell j) ≠ trim value

theorem findRow_eq_error_iff {e : String × String} :
    sheet.findRow column value = .error e ↔
      e = (sheet.name, trim column) ∧ ∀ name ∈ sheet.header, trim name ≠ trim column := by
  rw [← columnIndex?_eq_none_iff]
  unfold findRow
  rcases sheet.columnIndex? column with _ | j <;> simp [eq_comm]

theorem exists_column_of_findRow {found : Option (Row × Nat)}
    (h : sheet.findRow column value = .ok found) :
    ∃ name ∈ sheet.header, trim name = trim column := by
  by_contra hnone
  have herror : sheet.findRow column value = .error (sheet.name, trim column) :=
    findRow_eq_error_iff.2 ⟨rfl, fun name hname heq => hnone ⟨name, hname, heq⟩⟩
  rw [herror] at h
  cases h

theorem findRow_eq_found_iff {row : Row} {index : Nat} :
    sheet.findRow column value = .ok (some (row, index)) ↔
      ∃ j, sheet.IsColumn column j ∧ sheet.IsMatch j value index row := by
  simp only [findRow_eq_some_iff, columnIndex?_eq_some_iff_isColumn, rowWith?_eq_some_iff,
    getElem?_dataRows, IsMatch]

theorem findRow_eq_absent_iff :
    sheet.findRow column value = .ok none ↔
      ∃ j, sheet.IsColumn column j
        ∧ ∀ row ∈ sheet.dataRows, trim (row.cell j) ≠ trim value := by
  simp only [← columnIndex?_eq_some_iff_isColumn, ← rowWith?_eq_none_iff]
  unfold findRow
  rcases sheet.columnIndex? column with _ | j <;> simp

section SameTrimmed

/-- Header and columns are the same but for white space at the ends of the texts. -/
structure SameTrimmed (sheet sheet' : Sheet) : Prop where
  header : sheet.header.map trim = sheet'.header.map trim
  columns : ∀ j, (sheet.dataRows.map fun row => trim (row.cell j))
    = sheet'.dataRows.map fun row => trim (row.cell j)

/-- Where a look-up ends: at the number of a data row, at no row, or at the column that there is
not. -/
def place (sheet : Sheet) (column value : String) : Except String (Option Nat) :=
  match sheet.findRow column value with
  | .ok found => .ok (found.map (·.2))
  | .error (_, missing) => .error missing

theorem place_eq_of_sameTrimmed {sheet' : Sheet} (h : sheet.SameTrimmed sheet')
    {column' value' : String} (hcolumn : trim column = trim column')
    (hvalue : trim value = trim value') :
    sheet.place column value = sheet'.place column' value' := by
  have hindex : sheet.columnIndex? column = sheet'.columnIndex? column' := by
    rw [columnIndex?_eq_findIdx?, columnIndex?_eq_findIdx?, h.header, hcolumn]
  unfold place findRow
  rw [hindex]
  rcases sheet'.columnIndex? column' with _ | j
  · simp [hcolumn]
  · simp [map_snd_rowWith?, h.columns, hvalue]

end SameTrimmed

/-- What a look-up comes to is said by the first name of the header that is the column and by the
first data row that has the value there, all texts trimmed. So white space around them plays no
part. -/
theorem findRow_trimmed :
    (∀ (sheet : Sheet) column value,
      (∀ e, sheet.findRow column value = .error e ↔
          e = (sheet.name, trim column) ∧ ∀ name ∈ sheet.header, trim name ≠ trim column)
        ∧ (∀ row index, sheet.findRow column value = .ok (some (row, index)) ↔
          ∃ j, sheet.IsColumn column j ∧ sheet.IsMatch j value index row)
        ∧ (sheet.findRow column value = .ok none ↔ ∃ j, sheet.IsColumn column j
          ∧ ∀ row ∈ sheet.dataRows, trim (row.cell j) ≠ trim value))
      ∧ (∀ sheet sheet' : Sheet, sheet.SameTrimmed sheet' → ∀ column column' value value',
        trim column = trim column' → trim value = trim value' →
          sheet.place column value = sheet'.place column' value')
      ∧ ∀ text t, trim text = t ↔ ∃ before after, text.toList = before ++ t.toList ++ after
        ∧ (∀ c ∈ before ++ after, IsWhite c) ∧ IsTrimmed t.toList :=
  ⟨fun _ _ _ => ⟨fun _ => findRow_eq_error_iff, fun _ _ => findRow_eq_found_iff,
    findRow_eq_absent_iff⟩, fun _ _ h _ _ _ _ => place_eq_of_sameTrimmed h, fun _ _ => trim_eq_iff⟩

section Padded

/-- A short row, a value that is there twice, and blanks of three kinds around the texts. -/
def padded : Sheet :=
  ⟨"padded", [[" zip", "country\t"], ["zip", "CA"], ["\u00a02", "MX"], ["2\u3000"]]⟩

def plain : Sheet :=
  ⟨"plain", [["zip", "country"], ["zip", "CA"], ["2", "MX"], ["2", ""]]⟩

theorem sameTrimmed_padded : padded.SameTrimmed plain where
  header := by decide
  columns j := by
    match j with
    | 0 => decide
    | 1 => decide
    | _ + 2 => rfl

theorem findRow_trimmed_padded :
    padded.SameTrimmed plain ∧ padded.place "zip " "2" = plain.place "zip" " 2"
      ∧ plain.place "zip" " 2" = .ok (some 1) := by
  have h := findRow_trimmed.2.1 _ _ sameTrimmed_padded "zip " "zip" "2" " 2"
  exact ⟨sameTrimmed_padded, h (by decide) (by decide), rfl⟩

end Padded

end Sheet

end LinkedSheets
