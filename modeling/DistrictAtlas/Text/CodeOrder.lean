/-!
# Code point order

The order in which texts are sorted: by the code points of their characters, the first difference
deciding, and a text before its continuations.
-/

namespace DistrictAtlas.Text

/-- Whether the first row of characters does not come after the second. -/
def leChars : List Char → List Char → Bool
  | [], _ => true
  | _ :: _, [] => false
  | a :: as, b :: bs => if a = b then leChars as bs else a.toNat < b.toNat

/-- Whether the first text does not come after the second. -/
def le (a b : String) : Bool := leChars a.toList b.toList

/-- Characters do not come behind themselves. -/
theorem leChars_refl (cs : List Char) : leChars cs cs = true := by
  induction cs with
  | nil => rfl
  | cons c rest ih => simp [leChars, ih]

/-- A text does not come behind itself. -/
theorem le_refl (s : String) : le s s = true := leChars_refl s.toList

end DistrictAtlas.Text
