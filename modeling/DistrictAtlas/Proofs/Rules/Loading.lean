import DistrictAtlas.Proofs.Table.Resolution
import DistrictAtlas.Rules.Loading

/-!
# Loading never fails over a data row

With a color to deal out, loading a table has three ends. Which one it is depends on whether the
reader meets a cell that is too long, and on the first row that is not blank. Once this row names
the required fields there is a rulebook, whatever the rows behind it hold.
-/

namespace DistrictAtlas.Rulebook

open Table

/-- Records and a color always give a rulebook. -/
theorem ofColors_ok {colors : List String} (h : colors ≠ []) (records : List Record) :
    ∃ loaded, ofColors colors records = .ok loaded :=
  ⟨_, ofColors_palette ⟨colors, h⟩ records⟩

/-- The kind of a fault about the header. -/
theorem kind_of_isAboutHeader {fault : Fault} (h : fault.IsAboutHeader) :
    (Failure.table fault).kind = "SchemaInvalid" := by
  cases fault with
  | cellTooLong => exact absurd rfl h
  | noHeader => rfl
  | missing fields => rfl

/-- Loading a table has one of the three ends that resolving it has. -/
theorem load_cases {colors : List String} (hcolors : colors ≠ []) (text : String) :
    (HasCellTooLong text ∧ load colors text = .error (.table .cellTooLong)) ∨
      (¬HasCellTooLong text ∧ absentFieldsOf text ≠ [] ∧ ∃ fault,
        load colors text = .error (.table fault) ∧ fault.IsAboutHeader ∧
          fault.missingFields = absentFieldsOf text) ∨
      (¬HasCellTooLong text ∧ absentFieldsOf text = [] ∧
        ∃ loaded, load colors text = .ok loaded) := by
  unfold load
  rcases resolve_cases text with ⟨hlong, hresolve⟩ | ⟨hlong, habsent, fault, hresolve, hfault⟩ |
    ⟨hlong, habsent, resolved, hresolve⟩
  · rw [hresolve]
    exact Or.inl ⟨hlong, rfl⟩
  · rw [hresolve]
    exact Or.inr (Or.inl ⟨hlong, habsent, fault, rfl, hfault⟩)
  · rw [hresolve]
    exact Or.inr (Or.inr ⟨hlong, habsent, ofColors_ok hcolors resolved.records⟩)

/-- Loading is refused as unreadable exactly if the reader meets a cell that is too long. Otherwise
it is refused as lacking the required fields that the first row which is not blank does not name,
exactly if there are any; and otherwise it gives a rulebook. -/
theorem load_ends_by_reader_or_header {colors : List String} (hcolors : colors ≠ [])
    (text : String) :
    ((∃ failure, load colors text = .error failure ∧ failure.kind = "SourceError") ↔
        HasCellTooLong text) ∧
      (∀ missing, (∃ fault, load colors text = .error (.table fault) ∧
          (Failure.table fault).kind = "SchemaInvalid" ∧ fault.missingFields = missing) ↔
        ¬HasCellTooLong text ∧ missing ≠ [] ∧ missing = absentFieldsOf text) ∧
      ((∃ loaded, load colors text = .ok loaded) ↔
        ¬HasCellTooLong text ∧ absentFieldsOf text = []) := by
  rcases load_cases hcolors text with ⟨hlong, hload⟩ |
    ⟨hlong, habsent, fault, hload, hheader, hfields⟩ | ⟨hlong, habsent, loaded, hload⟩
  · simp [hload, hlong, Failure.kind]
  · have hkind := kind_of_isAboutHeader hheader
    refine ⟨by simp [hload, hlong, hkind], fun missing => ⟨?_, ?_⟩, by simp [hload, habsent]⟩
    · rintro ⟨other, hother, -, rfl⟩
      rw [hload] at hother
      cases hother
      rw [hfields]
      exact ⟨hlong, habsent, rfl⟩
    · rintro ⟨-, -, rfl⟩
      exact ⟨fault, hload, hkind, hfields⟩
  · simp [hload, hlong, habsent]

/-- A table whose header names no tokens, and whose only other row is ragged and ends inside quotes.
-/
def headerWithoutTokens : String := "\n Territory ID ;Region\r\n\"T1\";x;;\"-1.5.+"

/-- The sample is refused for its header: the tokens are missing, and nothing else is. -/
theorem load_ends_by_headerWithoutTokens :
    ["#4e79a7"] ≠ [] ∧ ¬HasCellTooLong headerWithoutTokens ∧
      absentFieldsOf headerWithoutTokens = [.tokens] ∧
      (∃ fault, load ["#4e79a7"] headerWithoutTokens = .error (.table fault) ∧
        (Failure.table fault).kind = "SchemaInvalid" ∧ fault.missingFields = [.tokens]) ∧
      ¬∃ loaded, load ["#4e79a7"] headerWithoutTokens = .ok loaded := by
  have hcolors : ["#4e79a7"] ≠ [] := List.cons_ne_nil _ _
  have habsent : absentFieldsOf headerWithoutTokens = [.tokens] := by decide +kernel
  have hread : rowsWith? (delimiter headerWithoutTokens) headerWithoutTokens ≠ none := by
    decide +kernel
  have hshort : ¬HasCellTooLong headerWithoutTokens := by
    rcases rowsWith?_eq (delimiter headerWithoutTokens) headerWithoutTokens with
      ⟨-, hnone⟩ | ⟨hshort, -⟩
    · exact absurd hnone hread
    · exact hshort
  obtain ⟨-, hmissing, hloaded⟩ := load_ends_by_reader_or_header hcolors headerWithoutTokens
  have hrefused := (hmissing [.tokens]).mpr ⟨hshort, List.cons_ne_nil _ _, habsent.symm⟩
  refine ⟨hcolors, hshort, habsent, hrefused, fun hsome => ?_⟩
  have hnone := (hloaded.mp hsome).2
  rw [habsent] at hnone
  cases hnone

end DistrictAtlas.Rulebook
