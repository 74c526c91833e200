import DistrictAtlas.Proofs.Json.Stopping
import DistrictAtlas.Proofs.Number.LongCounts
import DistrictAtlas.Proofs.Rules.Loading
import DistrictAtlas.Proofs.Table.MinimalQuoting
import DistrictAtlas.Proofs.Table.Resolution

/-!
# A table with a long count

A count takes one cell, so it may have as many digits as a cell has room for. Such a table is loaded
like any other, and its inspection tells the count; but a count with more digits than are written
cannot be written then. Here the count is a row of ones.
-/

namespace DistrictAtlas

/-- The record of a territory whose count is written with some number of ones. -/
def crowdedRecord (n : Nat) : Record :=
  { id := "T1", tokens := "W1", population := String.ofList (List.replicate n '1') }

/-- The table with this territory. -/
def crowdedTable (n : Nat) : String :=
  Table.write [["id", "prefixes", "pop"], ["T1", "W1", String.ofList (List.replicate n '1')]]

/-- The table has no byte order mark in front. -/
theorem head?_crowdedTable (n : Nat) :
    (crowdedTable n).toList.head? ≠ some Table.byteOrderMark := by
  have hfirst : (crowdedTable n).toList.head? = some 'i' := by
    rw [crowdedTable, Table.write, String.toList_ofList]
    rfl
  rw [hfirst]
  decide

/-- The table is read row by row. -/
theorem rows?_crowdedTable {n : Nat} (hn : n ≤ Table.cellLimit) :
    Table.rows? (crowdedTable n) =
      some [["id", "prefixes", "pop"], ["T1", "W1", String.ofList (List.replicate n '1')]] := by
  have hheader : Table.IsWritable ["id", "prefixes", "pop"] := ⟨by decide, by decide⟩
  have hrow : Table.IsWritable ["T1", "W1", String.ofList (List.replicate n '1')] := by
    refine ⟨List.cons_ne_nil _ _, ?_⟩
    simp only [List.forall_mem_cons]
    refine ⟨by decide, by decide, ?_, List.forall_mem_nil _⟩
    rwa [String.length_ofList, List.length_replicate]
  have hrows : ∀ row ∈ [["id", "prefixes", "pop"],
      ["T1", "W1", String.ofList (List.replicate n '1')]],
        Table.IsWritable row ∧ Table.isBlankRow row = false := by
    simp only [List.forall_mem_cons]
    exact ⟨⟨hheader, by decide⟩, ⟨hrow, rfl⟩, List.forall_mem_nil _⟩
  have hclear : ∀ cell ∈ ["id", "prefixes", "pop"], ∀ c ∈ Table.candidates, c ∉ cell.toList := by
    have hthree : ∀ cell ∈ ["id", "prefixes", "pop"],
        ',' ∉ cell.toList ∧ ';' ∉ cell.toList ∧ '\t' ∉ cell.toList := by decide
    exact fun cell hcell => Table.forall_candidates.mpr (hthree cell hcell)
  exact Table.rows?_write hrows (head?_crowdedTable n) (by decide) fun cell hcell c hc _ =>
    hclear cell hcell c hc

/-- The record of the table. -/
theorem resolve_crowdedTable {n : Nat} (hn : n ≤ Table.cellLimit) :
    ∃ resolved, Table.resolve (crowdedTable n) = .ok resolved ∧
      resolved.records = [crowdedRecord n] := by
  have hcolumns : Table.columns ["id", "prefixes", "pop"] =
      [(.id, 0), (.tokens, 1), (.population, 2)] := by decide +kernel
  have htrim : Text.trim (String.ofList (List.replicate n '1')) =
      String.ofList (List.replicate n '1') := by
    rw [Text.trim, String.toList_ofList, Text.trimChars]
    simp [Text.isBlank]
  have hheader : ["id", "prefixes", "pop"].map Text.trim = ["id", "prefixes", "pop"] := by
    decide +kernel
  rw [Table.resolve_of_rows? (head?_crowdedTable n) (rows?_crowdedTable hn), Table.resolveRows,
    hheader, hcolumns]
  refine ⟨_, rfl, ?_⟩
  have hrecord : Table.recordOf [(.id, 0), (.tokens, 1), (.population, 2)]
      ["T1", "W1", String.ofList (List.replicate n '1')] =
        { id := Text.trim "T1", tokens := Text.trim "W1",
          population := Text.trim (String.ofList (List.replicate n '1')) } := rfl
  have hid : Text.trim "T1" = "T1" := by decide +kernel
  have htokens : Text.trim "W1" = "W1" := by decide +kernel
  dsimp only [List.map]
  rw [hrecord, htrim, hid, htokens]
  rfl

/-- The rulebook of the table. -/
def crowdedBook (palette : Palette) (n : Nat) : Rulebook :=
  .ofRecords palette [crowdedRecord n]

/-- The table is loaded. -/
theorem load_crowdedTable {n : Nat} (hn : n ≤ Table.cellLimit) (palette : Palette) :
    Rulebook.load palette.colors (crowdedTable n) = .ok ⟨crowdedBook palette n, 1⟩ := by
  obtain ⟨resolved, hresolve, hrecords⟩ := resolve_crowdedTable hn
  rw [Rulebook.load, hresolve]
  dsimp only
  rw [hrecords, Rulebook.ofColors_palette]
  rfl

/-- A count with more ones than are written is too long. -/
theorem tooLong_crowdedRecord {n : Nat} (hn : Digits.limit < n) :
    Digits.tooLong (Count.read (crowdedRecord n).population).value = true := by
  obtain ⟨m, rfl⟩ : ∃ m, n = m + 1 := ⟨n - 1, by omega⟩
  have hdigits : ∀ d ∈ '1' :: List.replicate m '1', Digits.isDigit d = true := by
    rw [← List.replicate_succ]
    intro d hd
    rw [List.eq_of_mem_replicate hd]
    rfl
  have hread : Count.read (crowdedRecord (m + 1)).population =
      ⟨Digits.toNat ('1' :: List.replicate m '1'), false⟩ := Count.read_digits hdigits
  rw [hread]
  refine Digits.tooLong_toNat (by decide) ?_
  rw [List.length_replicate]
  omega

end DistrictAtlas
