import LinkedSheets.Proofs.RowOutcome
import Mathlib.Data.List.Basic
import Mathlib.Logic.ExistsUnique

/-!
# The grammar of cells and targets

Reading a cell undoes writing it. What stands behind the tag of a list is cut at its commas, and
joined again it is what it was (`Text.split_eq_iff`). No text begins with both tags, so the cells
that can be written, the regular ones, are what their texts are read as (`Cell.classify_eq_iff`).

A name in a target ends at the first character that no name may have, and that has to be the right
one (`Target.takeName?_eq_some_iff`). So there is one place at most to cut a specifier, and those
that can be cut are the regular targets as they are written (`Target.parse?_eq_some_iff`).
-/

namespace LinkedSheets

namespace Text

variable {sep : Char} {cs : List Char}

theorem split_eq_splitOn (sep : Char) (cs : List Char) : split sep cs = cs.splitOn sep := by
  induction cs with
  | nil => rfl
  | cons c cs ih =>
    rw [split, List.splitOn_cons_eq_if_modifyHead, ← ih]
    by_cases hc : c = sep
    · rw [if_pos hc, if_pos (beq_iff_eq.2 hc)]
    · obtain ⟨piece, pieces, hsplit⟩ := List.exists_cons_of_ne_nil (split_ne_nil sep cs)
      rw [if_neg hc, if_neg (by simpa using hc), hsplit]
      rfl

theorem not_mem_of_mem_split {piece : List Char} (h : piece ∈ split sep cs) : sep ∉ piece := by
  induction cs generalizing piece with
  | nil =>
    obtain rfl := List.mem_singleton.1 h
    exact List.not_mem_nil
  | cons c cs ih =>
    obtain ⟨first, pieces, hsplit⟩ := List.exists_cons_of_ne_nil (split_ne_nil sep cs)
    rw [split] at h
    split at h
    · rcases List.mem_cons.1 h with rfl | h
      · exact List.not_mem_nil
      · exact ih h
    rename_i hc
    rw [hsplit] at h ih
    rcases List.mem_cons.1 h with rfl | h
    · exact fun hmem => (List.mem_cons.1 hmem).elim (hc ·.symm) (ih List.mem_cons_self)
    · exact ih (List.mem_cons_of_mem _ h)

/-- A text is cut into the pieces that it is joined from. -/
theorem split_eq_iff {pieces : List (List Char)} :
    split sep cs = pieces ↔
      (pieces ≠ [] ∧ ∀ piece ∈ pieces, sep ∉ piece) ∧ [sep].intercalate pieces = cs := by
  constructor
  · rintro rfl
    refine ⟨⟨split_ne_nil sep cs, fun piece => not_mem_of_mem_split⟩, ?_⟩
    rw [split_eq_splitOn, List.intercalate_splitOn]
  · rintro ⟨⟨hne, hsep⟩, rfl⟩
    rw [split_eq_splitOn, List.splitOn_intercalate sep hsep hne]

end Text

namespace Cell

/-- The cell as it is written. -/
def text : Cell → String
  | scalar text => text
  | reference spec => referenceTag ++ spec
  | references specs => referencesTag ++ ",".intercalate specs

/-- The specifiers can be written as a list: there is one, and none has a comma. -/
def IsListing (specs : List String) : Prop :=
  specs ≠ [] ∧ ∀ spec ∈ specs, ',' ∉ spec.toList

/-- The cell can be written. The specifiers of a list have to be fit for one, and a plain text must
not be how another cell is written. -/
def IsRegular : Cell → Prop
  | scalar text => (∀ spec, text ≠ (reference spec).text)
      ∧ ∀ specs, IsListing specs → text ≠ (references specs).text
  | reference _ => True
  | references specs => IsListing specs

section Tags

theorem isPrefixOf?_toList_eq_some_iff {tag text : String} {rest : List Char} :
    tag.toList.isPrefixOf? text.toList = some rest ↔ text = tag ++ String.ofList rest := by
  rw [List.isPrefixOf?_eq_some_iff_append_eq, ← String.toList_inj, String.toList_append,
    String.toList_ofList, eq_comm]

/-- The specifiers behind the tag of a list. -/
def cut (rest : String) : List String :=
  (Text.split ',' rest.toList).map String.ofList

theorem cut_eq_iff {rest : String} {specs : List String} :
    cut rest = specs ↔ IsListing specs ∧ ",".intercalate specs = rest := by
  have hmap : cut rest = specs ↔ Text.split ',' rest.toList = specs.map String.toList := by
    constructor
    · rintro rfl
      simp [cut, Function.comp_def]
    · intro h
      simp [cut, h, Function.comp_def]
  rw [hmap, Text.split_eq_iff, ← String.toList_inj, String.toList_intercalate]
  simp [IsListing]

theorem classify_referencesTag_append (rest : String) :
    classify (referencesTag ++ rest) = .references (cut rest) := by
  have hlist : referencesTag.toList.isPrefixOf? (referencesTag ++ rest).toList
      = some rest.toList := isPrefixOf?_toList_eq_some_iff.2 (by rw [String.ofList_toList])
  rw [classify, hlist, cut]

/-- No text has both tags. -/
theorem referenceTag_append_ne (spec rest : String) :
    referenceTag ++ spec ≠ referencesTag ++ rest := by
  intro h
  have hhead := congrArg (·.toList.head?) h
  simp [referencesTag, referenceTag] at hhead

theorem classify_referenceTag_append (spec : String) :
    classify (referenceTag ++ spec) = .reference spec := by
  have hlist : referencesTag.toList.isPrefixOf? (referenceTag ++ spec).toList = none :=
    Option.eq_none_iff_forall_ne_some.2 fun rest hrest =>
      referenceTag_append_ne _ _ (isPrefixOf?_toList_eq_some_iff.1 hrest)
  have hspec : referenceTag.toList.isPrefixOf? (referenceTag ++ spec).toList
      = some spec.toList := isPrefixOf?_toList_eq_some_iff.2 (by rw [String.ofList_toList])
  simp only [classify, hlist, hspec, String.ofList_toList]

theorem classify_of_no_tag {text : String} (hspec : ∀ spec, text ≠ referenceTag ++ spec)
    (hlist : ∀ rest, text ≠ referencesTag ++ rest) : classify text = .scalar text := by
  have h₁ : referencesTag.toList.isPrefixOf? text.toList = none :=
    Option.eq_none_iff_forall_ne_some.2 fun rest h =>
      hlist _ (isPrefixOf?_toList_eq_some_iff.1 h)
  have h₂ : referenceTag.toList.isPrefixOf? text.toList = none :=
    Option.eq_none_iff_forall_ne_some.2 fun spec h =>
      hspec _ (isPrefixOf?_toList_eq_some_iff.1 h)
  rw [classify, h₁, h₂]

end Tags

variable {text : String} {cell : Cell}

/-- Whatever follows the tag of a list, it is a list. -/
theorem text_references_cut (rest : String) :
    IsListing (cut rest) ∧ (references (cut rest)).text = referencesTag ++ rest := by
  obtain ⟨hlisting, hrest⟩ := cut_eq_iff.1 (rfl : cut rest = cut rest)
  exact ⟨hlisting, by rw [Cell.text, hrest]⟩

theorem isRegular_classify (text : String) :
    (classify text).IsRegular ∧ (classify text).text = text := by
  by_cases hlist : ∃ rest, text = referencesTag ++ rest
  · obtain ⟨rest, rfl⟩ := hlist
    rw [classify_referencesTag_append]
    exact text_references_cut rest
  by_cases hspec : ∃ spec, text = referenceTag ++ spec
  · obtain ⟨spec, rfl⟩ := hspec
    rw [classify_referenceTag_append]
    exact ⟨trivial, rfl⟩
  · rw [classify_of_no_tag (not_exists.1 hspec) (not_exists.1 hlist)]
    exact ⟨⟨not_exists.1 hspec, fun specs _ => not_exists.1 hlist _⟩, rfl⟩

theorem classify_text (h : cell.IsRegular) : classify cell.text = cell := by
  cases cell with
  | scalar text =>
    refine classify_of_no_tag h.1 fun rest => ?_
    obtain ⟨hlisting, hrest⟩ := text_references_cut rest
    exact hrest ▸ h.2 _ hlisting
  | reference spec => exact classify_referenceTag_append spec
  | references specs =>
    rw [Cell.text, classify_referencesTag_append, cut_eq_iff.2 ⟨h, rfl⟩]

/-- A text is read as the one regular cell that is written so. -/
theorem classify_eq_iff : classify text = cell ↔ cell.IsRegular ∧ cell.text = text := by
  constructor
  · rintro rfl
    exact isRegular_classify text
  · rintro ⟨h, rfl⟩
    exact classify_text h

/-- The tag of a list alone is a list of one specifier, the empty one. -/
example : classify "listReference:" = .references [""] := by
  decide

theorem existsUnique_classify_eq_iff : (∃! text, classify text = cell) ↔ cell.IsRegular := by
  constructor
  · rintro ⟨text, rfl, -⟩
    exact (isRegular_classify text).1
  · intro h
    exact ⟨cell.text, classify_text h, fun text htext => (classify_eq_iff.1 htext).2.symm⟩

/-- A text is a reference when it begins with the one tag, a list when it is one behind the other
tag, and plain in every other case. So every text is read as one cell and as nothing else, every
cell that can be written is what one text is read as, and a text can be had back from its cell. -/
theorem classify_written :
    (∀ text spec, classify text = .reference spec ↔ text = "reference:" ++ spec)
      ∧ (∀ text specs, classify text = .references specs ↔
        (specs ≠ [] ∧ ∀ spec ∈ specs, ',' ∉ spec.toList)
          ∧ text = "listReference:" ++ ",".intercalate specs)
      ∧ (∀ text plain, classify text = .scalar plain ↔
        plain = text ∧ (∀ spec, text ≠ "reference:" ++ spec)
          ∧ ∀ specs, (specs ≠ [] ∧ ∀ spec ∈ specs, ',' ∉ spec.toList) →
            text ≠ "listReference:" ++ ",".intercalate specs)
      ∧ (∀ text, ∃! cell : Cell, cell.IsRegular ∧ cell.text = text)
      ∧ (∀ cell, (∃! text, classify text = cell) ↔ cell.IsRegular)
      ∧ ∀ text, (classify text).text = text := by
  refine ⟨fun text spec => ?_, fun text specs => ?_, fun text plain => ?_, fun text => ?_,
    fun cell => existsUnique_classify_eq_iff, fun text => (isRegular_classify text).2⟩
  · rw [classify_eq_iff, IsRegular, true_and, eq_comm]
    rfl
  · rw [classify_eq_iff, eq_comm (b := text)]
    rfl
  · rw [classify_eq_iff, and_comm]
    refine and_congr_right ?_
    rintro rfl
    rfl
  · exact ⟨classify text, isRegular_classify text, fun cell h => (classify_eq_iff.2 h).symm⟩

end Cell

namespace Target

/-- A name of a sheet or of a column: not empty, and without the characters that end one. -/
def IsName (name : String) : Prop :=
  name ≠ "" ∧ ∀ c ∈ name.toList, c ≠ '@' ∧ c ≠ '#' ∧ c ≠ ','

/-- The target can be written. -/
structure IsRegular (t : Target) : Prop where
  sheet : IsName t.sheet
  column : IsName t.column
  value : '#' ∉ t.value.toList

theorem isName_iff {name : String} :
    IsName name ↔ name.toList ≠ [] ∧ ∀ c ∈ name.toList, isNameChar c := by
  simp [IsName, isNameChar, and_assoc]

/-- A name is taken as far as it goes, and what stops it has to be the right character. -/
theorem takeName?_eq_some_iff {stop : Char} (hstop : ¬ isNameChar stop) {cs name rest : List Char} :
    takeName? stop cs = some (name, rest) ↔
      (name ≠ [] ∧ ∀ c ∈ name, isNameChar c) ∧ cs = name ++ stop :: rest := by
  constructor
  · intro h
    unfold takeName? at h
    split at h
    · rename_i c name' d rest' hname hrest
      split at h
      · rename_i hd
        obtain ⟨rfl, rfl⟩ : c :: name' = name ∧ rest' = rest := by simpa using h
        refine ⟨⟨by simp, fun c hc => ?_⟩, ?_⟩
        · exact List.all_eq_true.1 List.all_takeWhile c (hname ▸ hc)
        · rw [← hname, ← hd, ← hrest, List.takeWhile_append_dropWhile]
      · simp at h
    · simp at h
  · rintro ⟨⟨hne, hname⟩, rfl⟩
    obtain ⟨c, name, rfl⟩ := List.exists_cons_of_ne_nil hne
    rw [takeName?, List.takeWhile_append_of_pos hname, List.dropWhile_append_of_pos hname,
      List.takeWhile_cons_of_neg hstop, List.dropWhile_cons_of_neg hstop]
    simp

theorem spec_eq_iff {t : Target} {spec : String} :
    spec = t.spec ↔ spec.toList
      = t.sheet.toList ++ '@' :: (t.column.toList ++ '#' :: t.value.toList) := by
  rw [← String.toList_inj]
  simp [Target.spec]

/-- The specifiers that are read are the regular targets as they are written. -/
theorem parse?_eq_some_iff {spec : String} {t : Target} :
    parse? spec = some t ↔ t.IsRegular ∧ spec = t.spec := by
  have hat : ¬ isNameChar '@' := by decide
  have hnumber : ¬ isNameChar '#' := by decide
  rw [spec_eq_iff]
  simp only [parse?, Option.bind_eq_bind, Option.bind_eq_some_iff, Prod.exists,
    takeName?_eq_some_iff hat, takeName?_eq_some_iff hnumber]
  constructor
  · rintro ⟨sheet, rest, ⟨hsheet, hspec⟩, column, value, ⟨hcolumn, rfl⟩, ht⟩
    split at ht
    · simp at ht
    rename_i hvalue
    obtain rfl := Option.some.inj ht
    refine ⟨⟨isName_iff.2 ?_, isName_iff.2 ?_, ?_⟩, ?_⟩
    · simpa using hsheet
    · simpa using hcolumn
    · simpa using hvalue
    · simpa using hspec
  · rintro ⟨⟨hsheet, hcolumn, hvalue⟩, hspec⟩
    refine ⟨_, _, ⟨isName_iff.1 hsheet, hspec⟩, _, _, ⟨isName_iff.1 hcolumn, rfl⟩, ?_⟩
    rw [if_neg (by simpa using hvalue)]
    simp

theorem parse?_eq_none_iff {spec : String} :
    parse? spec = none ↔ ∀ t : Target, t.IsRegular → spec ≠ t.spec := by
  rw [Option.eq_none_iff_forall_ne_some]
  exact forall_congr' fun t => by rw [ne_eq, parse?_eq_some_iff, not_and]

/-- A specifier is read as a target just when it is that target as it is written, and the target
can be written. Every other specifier is refused, wherever it is followed, and the message has it as
it stands. -/
theorem parse?_written :
    (∀ spec sheet column value, parse? spec = some ⟨sheet, column, value⟩ ↔
        spec = sheet ++ "@" ++ column ++ "#" ++ value ∧ IsName sheet ∧ IsName column
          ∧ '#' ∉ value.toList)
      ∧ (∀ t : Target, parse? t.spec = some t ↔ t.IsRegular)
      ∧ ∀ spec, (∀ t : Target, t.IsRegular → spec ≠ t.spec) →
        parse? spec = none
          ∧ refusal spec = "expected <sheet>@<column>#<value>, got \"" ++ spec ++ "\""
          ∧ ∀ (r : Resolver) w deeper path, ∃ failure,
            (r.follow w deeper path spec).outcome = .error failure
              ∧ failure.message
                = "malformed reference spec on " ++ path.text ++ ": " ++ refusal spec := by
  refine ⟨fun spec sheet column value => ?_, fun t => ?_, fun spec h => ?_⟩
  · rw [parse?_eq_some_iff, and_comm, Target.spec]
    refine and_congr_right fun _ => ?_
    constructor
    · intro h
      exact ⟨h.sheet, h.column, h.value⟩
    · rintro ⟨hsheet, hcolumn, hvalue⟩
      exact ⟨hsheet, hcolumn, hvalue⟩
  · rw [parse?_eq_some_iff, and_iff_left rfl]
  · have hnone := parse?_eq_none_iff.2 h
    refine ⟨hnone, rfl, fun r w deeper path => ⟨.malformedSpec path spec, ?_, rfl⟩⟩
    simp [Resolver.follow, hnone]

theorem parse?_written_comma :
    parse? "user@email#a@b.c, d" = some ⟨"user", "email", "a@b.c, d"⟩
      ∧ (∀ t : Target, t.IsRegular → "a,b@zip#1" ≠ t.spec) ∧ parse? "a,b@zip#1" = none := by
  have hnone : ∀ t : Target, t.IsRegular → "a,b@zip#1" ≠ t.spec := parse?_eq_none_iff.1 rfl
  refine ⟨(parse?_written.1 _ _ _ _).2 ⟨rfl, ?_, ?_, ?_⟩, hnone, (parse?_written.2.2 _ hnone).1⟩
  · simp [IsName]
  · simp [IsName]
  · decide

end Target

end LinkedSheets
