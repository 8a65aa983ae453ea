import LinkedSheets.Proofs.CellGrammar
import LinkedSheets.Proofs.FieldOrder
import LinkedSheets.Proofs.FieldPath
import LinkedSheets.Proofs.RowLookup
import LinkedSheets.Proofs.TypedRows
import LinkedSheets.Proofs.ValueShape
import LinkedSheets.Schema.Catalog

/-!
# Linked lists in a sheet

A list can be stored as one row for each of its nodes, with the id of the node and a reference to
the row of the next one (`IsListOf`). The ids have to be told apart by a look-up, and to be read as
they are written (`AreIds`); then the reference in a row selects the row behind it
(`IsListOf.selects_next`).

A row resolves to the rest of the list from there if the references that are left in it are no more
than may be followed, and otherwise fails as many steps ahead as may be followed, and one more
(`IsListOf.outcome_resolve`, by induction on the depth). So a sheet is read back as the lists that
begin at its rows, or it fails in the first row, from which the most references have to be followed.
-/

namespace LinkedSheets

/-- The data rows are the nodes of a list in its order, each with a reference to the next one, and
the last with a blank. A row may be short there, and may have more cells. -/
structure IsListOf (ids : List String) (sheet : Sheet) : Prop where
  header : sheet.header = ["id", "next"]
  id_cells : sheet.dataRows.map (·.cell 0) = ids
  next_cells : sheet.dataRows.map (·.cell 1) = ids.tail.map ("reference:node@id#" ++ ·) ++ [""]

/-- The ids can be told apart without their blanks, and none of them means something else. -/
structure AreIds (ids : List String) : Prop where
  distinct : (ids.map Text.trim).Nodup
  value : ∀ id ∈ ids, '#' ∉ id.toList
  plain : ∀ id ∈ ids, ¬ "reference:".toList <+: id.toList ∧ ¬ "listReference:".toList <+: id.toList

/-- A list as it is resolved: a blank ends it. -/
def Value.chain : List String → Value
  | [] => .scalar ""
  | id :: rest => .object [("id", .scalar id), ("next", chain rest)]

/-- A list by the schema of a node: nothing ends it. -/
def Datum.chain : List String → Datum
  | [] => .null
  | id :: rest => .table [("id", .text id), ("next", chain rest)]

section Decode

open Catalog (node)

/-- The two fields of a node, the second of which is a node again. -/
def nodeFields : List (Field Schema) :=
  [Catalog.field "id" Catalog.text, Catalog.field "next" (.option .self)]

theorem decodeAt_node_object (members : List (String × Part)) :
    Schema.decodeAt .cells node (.object members)
      = Schema.readMembers .cells node false nodeFields [] members >>= fun found =>
        (Schema.completeFields found.own nodeFields).map .table :=
  rfl

theorem Value.decode_chain_cons {id : String} {rest : List String}
    (h : (Value.chain rest).part.decode .cells (.option node) = .ok (Datum.chain rest)) :
    (Value.chain (id :: rest)).part.decode .cells node = .ok (Datum.chain (id :: rest)) := by
  have hid : (Value.scalar id).part.decode .cells (Schema.unfold node Catalog.text)
      = .ok (.text id) := rfl
  have hnext : Schema.unfold node (.option .self) = .option node := rfl
  have hmembers : Schema.readMembers .cells node false nodeFields []
      [("id", (scalar id).part), ("next", (chain rest).part)]
        = .ok ⟨[("id", .text id), ("next", Datum.chain rest)], []⟩ := by
    simp [Schema.readMembers, nodeFields, Catalog.field, hid, hnext, h]
  rw [Value.chain, decode_part_object, decodeAt_node_object, List.map_cons, List.map_cons,
    List.map_nil, hmembers]
  rfl

theorem Value.decode_chain_option (ids : List String) :
    (Value.chain ids).part.decode .cells (.option node) = .ok (Datum.chain ids) := by
  induction ids with
  | nil => rfl
  | cons id rest ih =>
    rw [← decode_chain_cons ih, Value.chain, decode_part_object, decode_part_object]
    rfl

end Decode

section Rows

variable {w : Workbook} {sheet : Sheet} {ids : List String} {i : Nat} {row : Row}

theorem AreIds.classify (hids : AreIds ids) {id : String} (hid : id ∈ ids) :
    Cell.classify id = .scalar id :=
  Cell.classify_eq_scalar_iff.2 ⟨rfl, hids.plain id hid⟩

namespace Resolver

/-- A row of a plain id and a link comes to what the link comes to. -/
theorem outcome_readRow_node (limit : Nat) (deeper : Option RowReader) (path : FieldPath)
    {id : String} (hid : Cell.classify (row.cell 0) = .scalar id) :
    (readRow ⟨.verbatim, limit⟩ w deeper path ["id", "next"] row).outcome
      = (fun v => .object [("id", .scalar id), ("next", v)]) <$>
        (readCell ⟨.verbatim, limit⟩ w deeper (path ++ ["next"])
          (Cell.classify (row.cell 1))).outcome := by
  have hcolumns : (List.ofFn fun i : Fin ["id", "next"].length =>
      (["id", "next"].get i, row.cell i)) = [("id", row.cell 0), ("next", row.cell 1)] := rfl
  have hfirst : readColumn ⟨.verbatim, limit⟩ w deeper path ("id", row.cell 0)
      = .ok ("id", .scalar id) := by
    rw [readColumn, hid]
    rfl
  rw [outcome_readRow, hcolumns, List.mapM_cons, hfirst, List.mapM_cons, List.mapM_nil]
  simp only [readColumn]
  rcases (readCell ⟨.verbatim, limit⟩ w deeper (path ++ ["next"])
    (Cell.classify (row.cell 1))).outcome with e | v
  · rfl
  · rfl

end Resolver

theorem classify_reference_node (id : String) :
    Cell.classify ("reference:node@id#" ++ id) = .reference ("node@id#" ++ id) := by
  have htag : "reference:node@id#" = Cell.referenceTag ++ "node@id#" := by decide
  rw [htag, String.append_assoc]
  exact Cell.classify_referenceTag_append _

namespace IsListOf

variable (hlist : IsListOf ids sheet)
include hlist

theorem length_eq : sheet.dataRows.length = ids.length := by
  rw [← hlist.id_cells, List.length_map]

theorem id_cell (hrow : sheet.dataRows[i]? = some row) : ids[i]? = some (row.cell 0) := by
  rw [← hlist.id_cells, List.getElem?_map, hrow, Option.map_some]

theorem next_cell_of_some (hrow : sheet.dataRows[i]? = some row) {id : String}
    (hid : ids[i + 1]? = some id) : row.cell 1 = "reference:node@id#" ++ id := by
  have hcell : (sheet.dataRows.map (·.cell 1))[i]? = some (row.cell 1) := by
    rw [List.getElem?_map, hrow, Option.map_some]
  have hlink : (ids.tail.map ("reference:node@id#" ++ ·))[i]?
      = some ("reference:node@id#" ++ id) := by
    rw [List.getElem?_map, List.getElem?_tail, hid, Option.map_some]
  obtain ⟨hlt, -⟩ := List.getElem?_eq_some_iff.1 hlink
  rw [hlist.next_cells, List.getElem?_append_left hlt, hlink] at hcell
  exact (Option.some.inj hcell).symm

theorem next_cell_of_none (hrow : sheet.dataRows[i]? = some row) (hnone : ids[i + 1]? = none) :
    row.cell 1 = "" := by
  have hcell : (sheet.dataRows.map (·.cell 1))[i]? = some (row.cell 1) := by
    rw [List.getElem?_map, hrow, Option.map_some]
  have hlink : (ids.tail.map ("reference:node@id#" ++ ·))[i]? = none := by
    rw [List.getElem?_map, List.getElem?_tail, hnone, Option.map_none]
  rw [hlist.next_cells, List.getElem?_append_right (List.getElem?_eq_none_iff.1 hlink)] at hcell
  exact (List.mem_singleton.1 (List.mem_of_getElem? hcell))

/-- A node is found by its id, since no other one has it. -/
theorem findRow (hids : AreIds ids) (hrow : sheet.dataRows[i]? = some row) {id : String}
    (hid : ids[i]? = some id) : sheet.findRow "id" id = .ok (some (row, i)) := by
  have hcell : ∀ {j : Nat} {row' : Row}, sheet.dataRows[j]? = some row' →
      (ids.map Text.trim)[j]? = some (Text.trim (row'.cell 0)) := by
    intro j row' hrow'
    rw [List.getElem?_map, hlist.id_cell hrow', Option.map_some]
  obtain rfl : row.cell 0 = id := Option.some.inj ((hlist.id_cell hrow).symm.trans hid)
  refine Sheet.findRow_eq_found_iff.2 ⟨0, ⟨⟨"id", by simp [hlist.header], rfl⟩, nofun⟩, ?_⟩
  simp only [Sheet.IsMatch, ← Sheet.getElem?_dataRows]
  refine ⟨hrow, trivial, fun j hj row' hrow' heq => ?_⟩
  have hlt : i < (ids.map Text.trim).length := (List.getElem?_eq_some_iff.1 (hcell hrow)).1
  refine List.nodup_iff_getElem?_ne_getElem?.1 hids.distinct j i hj hlt ?_
  rw [hcell hrow, hcell hrow', heq]

/-- The link in a row selects the next row. -/
theorem selects_next (hids : AreIds ids) (hsheet : w.sheet? "node" = some sheet) {id : String}
    (hid : ids[i]? = some id) : ∃ d : DataRow w, d.sheet = sheet ∧ sheet.dataRows[i]? = some d.row
      ∧ Selects ("node@id#" ++ id) d := by
  have hlt : i < sheet.dataRows.length := by
    rw [hlist.length_eq]
    exact (List.getElem?_eq_some_iff.1 hid).1
  have hrow : sheet.dataRows[i]? = some sheet.dataRows[i] := List.getElem?_eq_getElem hlt
  have hparse : Target.parse? ("node@id#" ++ id) = some ⟨"node", "id", id⟩ := by
    refine Target.parse?_eq_some_iff.2 ⟨⟨?_, ?_, hids.value id (List.mem_of_getElem? hid)⟩, rfl⟩
    · simp [Target.IsName]
    · simp [Target.IsName]
  exact ⟨⟨sheet, i, _, name_of_sheet? hsheet ▸ hsheet, hrow⟩, rfl, hrow, _, hparse, hsheet,
    hlist.findRow hids hrow hid⟩

/-- A row is the rest of the list if no more references are left than may be followed. Each
reference that is followed adds the name of its column to the path. -/
theorem outcome_resolve (hids : AreIds ids) (hsheet : w.sheet? "node" = some sheet) (limit : Nat) :
    ∀ (depth : Nat) {i : Nat} {row : Row} (path : FieldPath), sheet.dataRows[i]? = some row →
      (Resolver.resolve ⟨.verbatim, limit⟩ w depth path sheet.header row).outcome
        = if ids.length ≤ i + depth + 1 then .ok (.chain (ids.drop i))
          else .error (.tooDeep limit (path ++ List.replicate (depth + 1) "next"))
  | depth, i, row, path, hrow => by
    have hid := hlist.id_cell hrow
    obtain ⟨hlt, hget⟩ := List.getElem?_eq_some_iff.1 hid
    rw [Resolver.resolve_eq_readRow, hlist.header, Resolver.outcome_readRow_node limit _ path
      (hids.classify (List.mem_of_getElem? hid)), List.drop_eq_getElem_cons hlt, hget]
    rcases hnext : ids[i + 1]? with _ | id
    · have hlength : ids.length ≤ i + 1 := List.getElem?_eq_none_iff.1 hnext
      rw [hlist.next_cell_of_none hrow hnext, if_pos (by omega), List.drop_eq_nil_of_le hlength]
      rfl
    · have hlength : i + 1 < ids.length := (List.getElem?_eq_some_iff.1 hnext).1
      obtain ⟨d, hds, hrow', hd⟩ := hlist.selects_next hids hsheet hnext
      rw [hlist.next_cell_of_some hrow hnext, classify_reference_node, Resolver.readCell]
      cases depth with
      | zero =>
        rw [if_neg (by omega), Resolver.deeperAt, outcome_follow_none_of_selects _ _ hd]
        rfl
      | succ depth =>
        rw [Resolver.deeperAt, outcome_follow_of_selects _ _ hd, hds,
          outcome_resolve hids hsheet limit depth _ hrow']
        by_cases hle : ids.length ≤ i + (depth + 1) + 1
        · rw [if_pos hle, if_pos (by omega)]
          rfl
        · rw [if_neg hle, if_neg (by omega), List.append_assoc]
          rfl

end IsListOf

end Rows

section Sheet

/-- The path from the first row of the nodes along so many links. -/
def linkPath (count : Nat) : FieldPath :=
  "node" :: "0" :: List.replicate count "next"

theorem text_linkPath (count : Nat) :
    (linkPath count).text = "node.0" ++ String.join (List.replicate count ".next") := by
  rw [linkPath, FieldPath.text_cons, List.map_cons, List.map_replicate, String.join_cons,
    ← String.append_assoc]
  rfl

namespace IsListOf

variable {w : Workbook} {sheet : Sheet} {ids : List String} (hlist : IsListOf ids sheet)
  (hids : AreIds ids) (hsheet : w.sheet? "node" = some sheet) {limit : Nat}
include hlist hids hsheet

theorem outcome_resolveDataRow {i : Nat} {row : Row} (hrow : sheet.dataRows[i]? = some row) :
    (Resolver.resolveDataRow ⟨.verbatim, limit⟩ w sheet i row).outcome
      = if ids.length ≤ i + limit + 1 then .ok (.chain (ids.drop i))
        else .error (.tooDeep limit (["node", i.repr] ++ List.replicate (limit + 1) "next")) := by
  rw [Resolver.resolveDataRow, name_of_sheet? hsheet, hlist.outcome_resolve hids hsheet _ _ _ hrow]

theorem outcome_sheet_of_le (hle : ids.length ≤ limit + 1) :
    (Resolver.sheet ⟨.verbatim, limit⟩ w "node").outcome
      = .ok ((List.range ids.length).map fun i => .chain (ids.drop i)) := by
  rw [Resolver.outcome_sheet _ _ hsheet, mapM_eq_ok_iff]
  refine List.ext_getElem (by simp [hlist.length_eq]) fun i hi hi' => ?_
  simp only [List.getElem_map, List.getElem_zipIdx, List.getElem_range, Nat.zero_add]
  rw [hlist.outcome_resolveDataRow hids hsheet (List.getElem?_eq_getElem _), if_pos (by omega)]

theorem outcome_sheet_of_lt (hlt : limit + 1 < ids.length) :
    (Resolver.sheet ⟨.verbatim, limit⟩ w "node").outcome
      = .error (.tooDeep limit (linkPath (limit + 1))) := by
  obtain ⟨row, rows, hrows⟩ : ∃ row rows, sheet.dataRows = row :: rows := by
    refine List.exists_cons_of_length_pos ?_
    rw [hlist.length_eq]
    omega
  rw [Resolver.outcome_sheet _ _ hsheet, mapM_eq_error_iff]
  refine ⟨[], (row, 0), rows.zipIdx 1, by rw [hrows]; rfl, by simp, ?_⟩
  rw [hlist.outcome_resolveDataRow hids hsheet (by simp [hrows]), if_neg (by omega)]
  have hzero : Nat.repr 0 = "0" := by decide
  simp only [hzero]
  rfl

end IsListOf

theorem decodeRows_chain (ids : List String) :
    decodeRows (Value.decode Catalog.node) 0
        ((List.range ids.length).map fun i => Value.chain (ids.drop i))
      = .ok ((List.range ids.length).map fun i => .chain (ids.drop i)) := by
  rw [decodeRows_eq_ok_iff, List.forall₂_map_left_iff, List.forall₂_map_right_iff,
    List.forall₂_same]
  intro i hi
  rw [List.drop_eq_getElem_cons (List.mem_range.1 hi), ← Value.decode_part]
  exact Value.decode_chain_cons (Value.decode_chain_option _)

/-- Nodes that are stored as a list are read back as a list, from each row to the end, if the limit
is at least the number of links. With a lower limit the first row fails, one link behind the last
one that may be followed. -/
theorem Resolver.parse_nodes {w : Workbook} {sheet : Sheet} (hsheet : w.sheet? "node" = some sheet)
    {ids : List String} (hlist : IsListOf ids sheet) (hids : AreIds ids) (limit : Nat) :
    (parse ⟨.verbatim, limit⟩ w Catalog.node "node").outcome
        = (if ids.length - 1 ≤ limit then
            .ok ((List.range ids.length).map fun i => .chain (ids.drop i))
          else .error (.unresolved (.tooDeep limit (linkPath (limit + 1)))))
      ∧ (linkPath (limit + 1)).text
        = "node.0" ++ String.join (List.replicate (limit + 1) ".next") := by
  refine ⟨?_, text_linkPath _⟩
  split
  · have hle : ids.length ≤ limit + 1 := by omega
    exact parseBy_eq_ok_iff_decodeRows.2
      ⟨_, hlist.outcome_sheet_of_le hids hsheet hle, decodeRows_chain ids⟩
  · exact parseBy_eq_unresolved_iff.2 (hlist.outcome_sheet_of_lt hids hsheet (by omega))

/-- Three nodes, the second of which has a blank id; the last row is short. -/
def threeNodes : Sheet :=
  ⟨"node", [["id", "next"], ["a", "reference:node@id#"], ["", "reference:node@id#b,c"], ["b,c"]]⟩

def threeNodesBook : Workbook where
  sheets := [threeNodes]
  sorted := by decide

/-- Two links have to be followed, so one is not enough. -/
theorem Resolver.parse_nodes_three :
    threeNodesBook.sheet? "node" = some threeNodes ∧ IsListOf ["a", "", "b,c"] threeNodes
      ∧ AreIds ["a", "", "b,c"]
      ∧ (parse ⟨.verbatim, 2⟩ threeNodesBook Catalog.node "node").outcome
        = .ok [.chain ["a", "", "b,c"], .chain ["", "b,c"], .chain ["b,c"]]
      ∧ (parse ⟨.verbatim, 1⟩ threeNodesBook Catalog.node "node").outcome
        = .error (.unresolved (.tooDeep 1 ["node", "0", "next", "next"])) := by
  have hsheet : threeNodesBook.sheet? "node" = some threeNodes := rfl
  have hlist : IsListOf ["a", "", "b,c"] threeNodes := ⟨rfl, rfl, rfl⟩
  have hids : AreIds ["a", "", "b,c"] := ⟨by decide, by decide, by decide⟩
  exact ⟨hsheet, hlist, hids, (parse_nodes hsheet hlist hids 2).1,
    (parse_nodes hsheet hlist hids 1).1⟩

end Sheet

end LinkedSheets
