import DistrictAtlas.Json.Printer
import DistrictAtlas.Report.Classification
import DistrictAtlas.Report.Description
import Mathlib.Data.List.Basic

/-!
# Documents without torn texts

Whether a document is whole does not depend on the order of entries, so its canonical form is whole
exactly if it is itself. Classifications and descriptions are whole, for the codes, the tables and all
that is said about them consist of whole texts.
-/

namespace DistrictAtlas

namespace Value

/-- Items are whole if each of them is. -/
theorem areWhole_iff {items : List Value} :
    areWhole items = true ↔ ∀ item ∈ items, item.isWhole = true := by
  induction items with
  | nil => exact iff_of_true rfl (List.forall_mem_nil _)
  | cons item rest ih => rw [areWhole, Bool.and_eq_true, ih, List.forall_mem_cons]

/-- Entries are whole if all their keys and values are. -/
theorem entriesAreWhole_iff {entries : List (Scalar × Value)} :
    entriesAreWhole entries = true ↔
      ∀ entry ∈ entries, entry.1.isWhole = true ∧ entry.2.isWhole = true := by
  induction entries with
  | nil => exact iff_of_true rfl (List.forall_mem_nil _)
  | cons entry rest ih =>
    obtain ⟨key, value⟩ := entry
    rw [entriesAreWhole, Bool.and_eq_true, Bool.and_eq_true, ih, List.forall_mem_cons]

/-- A list is whole if its items are. -/
theorem isWhole_list {items : List Value} (h : ∀ item ∈ items, item.isWhole = true) :
    (Value.list items).isWhole = true := by
  rw [isWhole, areWhole_iff]
  exact h

/-- A record is whole if its fields are. -/
theorem isWhole_record {fields : List (String × Value)}
    (h : ∀ field ∈ fields, field.2.isWhole = true) : (record fields).isWhole = true := by
  rw [record, isWhole, entriesAreWhole_iff, List.forall_mem_map]
  exact fun field hfield => ⟨rfl, h field hfield⟩

/-- A list of texts is whole. -/
theorem isWhole_texts (texts : List String) : (Value.list (texts.map .text)).isWhole = true :=
  isWhole_list (List.forall_mem_map.mpr fun _ _ => rfl)

end Value

namespace Json

open Value

/-- Entries in order are whole exactly if they were before. -/
theorem entriesAreWhole_sortEntries (entries : List (Scalar × Value)) :
    entriesAreWhole (sortEntries entries) = entriesAreWhole entries := by
  rw [Bool.eq_iff_iff, entriesAreWhole_iff, entriesAreWhole_iff]
  unfold sortEntries
  simp only [List.mem_mergeSort]

mutual

/-- A value in canonical form is whole exactly if it was before. -/
theorem isWhole_canonical : ∀ value : Value, (canonical value).isWhole = value.isWhole
  | .scalar s => by rw [canonical]
  | .list items => by rw [canonical, isWhole, isWhole, areWhole_canonicalItems items]
  | .mapping entries => by
    rw [canonical, isWhole, isWhole, entriesAreWhole_sortEntries,
      entriesAreWhole_canonicalEntries entries]

/-- Items in canonical form are whole exactly if they were before. -/
theorem areWhole_canonicalItems : ∀ items : List Value,
    areWhole (canonicalItems items) = areWhole items
  | [] => rfl
  | item :: rest => by
    rw [canonicalItems, areWhole, areWhole, isWhole_canonical item, areWhole_canonicalItems rest]

/-- Entries in canonical form are whole exactly if they were before. -/
theorem entriesAreWhole_canonicalEntries : ∀ entries : List (Scalar × Value),
    entriesAreWhole (canonicalEntries entries) = entriesAreWhole entries
  | [] => rfl
  | (key, value) :: rest => by
    rw [canonicalEntries, entriesAreWhole, entriesAreWhole, isWhole_canonical value,
      entriesAreWhole_canonicalEntries rest]

end

end Json

/-- The rows of a classification are whole. -/
theorem Classified.isWhole_rows (rows : List Classified) :
    (Value.list (rows.map toValue)).isWhole = true := by
  refine Value.isWhole_list (List.forall_mem_map.mpr ?_)
  rintro ⟨code, territory, color, taken, opacity⟩ -
  cases territory <;> rfl

/-- Descriptions are whole. -/
theorem Description.isWhole_descriptions (descriptions : List Description) :
    (Value.list (descriptions.map toValue)).isWhole = true := by
  refine Value.isWhole_list (List.forall_mem_map.mpr ?_)
  rintro ⟨code, territory, lines⟩ -
  refine Value.isWhole_record ?_
  simp only [List.forall_mem_cons]
  exact ⟨rfl, by cases territory <;> rfl, Value.isWhole_texts lines, nofun⟩

end DistrictAtlas
