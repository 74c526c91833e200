/-!
# Splitting

Cutting a text at every occurrence of one character. The parts are those between the cuts, so there
is one more of them than there are cuts, and joining them gives the text back.
-/

namespace DistrictAtlas.Text

/-- Puts one more character in front of a text that has been cut already. -/
def splitStep (separator c : Char) (parts : List (List Char)) : List (List Char) :=
  if c = separator then [] :: parts
  else match parts with
    | [] => [[c]]
    | part :: rest => (c :: part) :: rest

/-- The parts between the separators. -/
def splitChars (separator : Char) (cs : List Char) : List (List Char) :=
  cs.foldr (splitStep separator) [[]]

/-- Without characters there is one part, and it is empty. -/
@[simp] theorem splitChars_nil (separator : Char) : splitChars separator [] = [[]] := rfl

/-- The parts of the rest, where the character joins the first one or, as the separator, opens one
before it. -/
theorem splitChars_cons (separator c : Char) (cs : List Char) :
    splitChars separator (c :: cs) = splitStep separator c (splitChars separator cs) := rfl

/-- There is always a part. -/
theorem splitChars_ne_nil (separator : Char) (cs : List Char) : splitChars separator cs ≠ [] := by
  cases cs with
  | nil => simp
  | cons c rest =>
    rw [splitChars_cons]
    unfold splitStep
    split
    · simp
    · split <;> simp

end DistrictAtlas.Text
