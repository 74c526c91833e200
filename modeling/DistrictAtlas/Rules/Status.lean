import DistrictAtlas.Text.Blank
import DistrictAtlas.Text.Casing

/-!
# Status

Whether a territory is still available or taken. A table may say it in any case and with blanks
around it; an empty cell means available, and so does a word that is not known, which is reported.
-/

namespace DistrictAtlas

/-- The status of a territory. -/
inductive Status where
  /-- Nobody has taken the territory. -/
  | available
  /-- Somebody has taken the territory. -/
  | taken
  /-- A word of its own, which means neither. -/
  | other (word : String)
deriving DecidableEq, Repr

namespace Status

/-- The word for a status. -/
def word : Status → String
  | available => "available"
  | taken => "taken"
  | other word => word

/-- The status with the given word. -/
def ofWord (word : String) : Status :=
  if word = "available" then available else if word = "taken" then taken else other word

/-- A status made of a word is written with that word. -/
@[simp] theorem word_ofWord (word : String) : (ofWord word).word = word := by
  unfold ofWord
  split
  · simp_all [Status.word]
  · split <;> simp_all [Status.word]

/-- The status that a cell states, and whether the cell holds an unknown word. -/
def read (cell : String) : Status × Bool :=
  match Text.lower (Text.trim cell) with
  | "" => (available, false)
  | "available" => (available, false)
  | "taken" => (taken, false)
  | _ => (available, true)

end Status

end DistrictAtlas
