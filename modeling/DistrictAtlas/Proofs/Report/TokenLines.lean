import DistrictAtlas.Proofs.Number.DigitValues
import DistrictAtlas.Proofs.Rules.TokenTexts
import DistrictAtlas.Proofs.Text.Joining
import DistrictAtlas.Proofs.Text.UpperCase
import DistrictAtlas.Report.Description

/-!
# The line about tokens

A description shows the first tokens of a territory and says how many others there are. Whatever
number is asked for, negative ones included, the tokens shown and the tokens counted are all tokens.
The end of the line tells whether tokens were left out, and how many, since no token ends like the
words that say so.
-/

namespace DistrictAtlas.Description

/-- A line shows tokens, the first of a list, and says how many others the list has. -/
structure ShowsTokens (tokens shown : List String) (others : Nat) (line : String) : Prop where
  /-- The tokens shown are the first of the list. -/
  first : shown <+: tokens
  /-- The others are the rest of it. -/
  count : shown.length + others = tokens.length
  /-- The line lists what is shown, and counts the others if there are any. -/
  line_eq : line = "Postcodes: " ++ ", ".intercalate shown ++
    if others = 0 then "" else " +" ++ toString others ++ " more"

/-- The tokens shown are the first of the list. -/
theorem shown_first (tokens : List String) (number : Int) : shown tokens number <+: tokens :=
  List.take_prefix _ tokens

/-- As many tokens are shown as were asked for, if there are so many. -/
theorem length_shown (tokens : List String) {number : Int} (h : 1 ≤ number) :
    ((shown tokens number).length : Int) = min number tokens.length := by
  rw [shown, if_neg (by omega), List.length_take]
  omega

/-- The line shows the first tokens and counts the others, whatever number is asked for. -/
theorem showsTokens_tokenLine (tokens : List String) (number : Int) :
    ShowsTokens tokens (shown tokens number) (tokens.length - (shown tokens number).length)
      (tokenLine tokens number) where
  first := shown_first tokens number
  count := Nat.add_sub_of_le (shown_first tokens number).length_le
  line_eq := by
    unfold tokenLine
    dsimp only
    rw [Digits.ofList_ofNat]
    split
    · next hpos =>
      rw [if_neg (Nat.ne_of_gt hpos)]
      simp only [String.append_assoc]
    · next hnone => rw [if_pos (Nat.eq_zero_of_not_pos hnone), String.append_empty]

/-! ## The end of the line -/

/-- No small letter stands in a list of tokens in upper case. -/
theorem not_mem_joined {tokens : List String}
    (h : ∀ token ∈ tokens, ∀ c ∈ token.toList, Text.IsUpper c) :
    'e' ∉ (", ".intercalate tokens).toList := by
  intro hmem
  rcases Text.mem_intercalate hmem with hcomma | ⟨token, htoken, hc⟩
  · have hnot : 'e' ∉ ", ".toList := by decide
    exact hnot hcomma
  · have hnot : ¬Text.IsUpper 'e' := by decide +kernel
    exact hnot (h token htoken 'e' hc)

/-- A line that lists tokens in upper case and counts no others does not say that there are more. -/
theorem not_ends_more {tokens : List String}
    (h : ∀ token ∈ tokens, ∀ c ∈ token.toList, Text.IsUpper c) (front : String) :
    "Postcodes: " ++ ", ".intercalate tokens ≠ front ++ " more" := by
  intro heq
  have hlast := congrArg (fun line => line.toList.getLast?) heq
  have hmore : (front ++ " more").toList.getLast? = some 'e' := by
    rw [String.toList_append, List.getLast?_append]
    rfl
  rw [hmore, String.toList_append, List.getLast?_append] at hlast
  cases hjoined : (", ".intercalate tokens).toList.getLast? with
  | none =>
    rw [hjoined] at hlast
    revert hlast
    decide
  | some c =>
    rw [hjoined, Option.some_or] at hlast
    have hmem := List.mem_of_getLast? hjoined
    rw [Option.some.inj hlast] at hmem
    exact not_mem_joined h hmem

/-- Where the words at the end say how many others there are, they say so of one number only. -/
theorem append_more_inj {front other : String} {n m : Nat}
    (h : front ++ " +" ++ toString n ++ " more" = other ++ " +" ++ toString m ++ " more") : n = m := by
  have hchars : ∀ (front : String) (n : Nat), (front ++ " +" ++ toString n ++ " more").toList =
      ((front.toList ++ [' ']) ++ '+' :: Digits.ofNat n) ++ " more".toList := by
    intro front n
    rw [← Digits.ofList_ofNat]
    simp
  have hmark : ∀ n, '+' ∉ Digits.ofNat n :=
    fun n hmem => absurd (Digits.isDigit_of_mem_ofNat hmem) (by decide)
  have hlists := congrArg String.toList h
  rw [hchars, hchars] at hlists
  exact Digits.ofNat_injective (Text.behind_mark_eq (hmark n) (hmark m) (List.append_cancel_right hlists))

/-- The line ends by telling that a number of tokens were left out exactly if so many were, where tokens
are asked for and all of them are in upper case. -/
theorem tokenLine_ends_iff {tokens : List String} {number : Int} (hnumber : 1 ≤ number)
    (hupper : ∀ token ∈ tokens, ∀ c ∈ token.toList, Text.IsUpper c) (m : Nat) :
    (∃ front, tokenLine tokens number = front ++ " +" ++ toString m ++ " more") ↔
      0 < m ∧ (m : Int) = tokens.length - number := by
  have hshows := showsTokens_tokenLine tokens number
  have hline := hshows.line_eq
  have hlength := length_shown tokens hnumber
  generalize hothers : tokens.length - (shown tokens number).length = others at hline
  have hfirst : ∀ token ∈ shown tokens number, ∀ c ∈ token.toList, Text.IsUpper c :=
    fun token htoken => hupper token (List.mem_of_mem_take htoken)
  rcases Nat.eq_zero_or_pos others with rfl | hpos
  · have hnone : ¬(0 < m ∧ (m : Int) = tokens.length - number) := by omega
    refine iff_of_false ?_ hnone
    rintro ⟨front, hends⟩
    rw [hline, if_pos rfl, String.append_empty] at hends
    exact not_ends_more hfirst _ hends
  · rw [if_neg (Nat.ne_of_gt hpos), ← String.append_assoc, ← String.append_assoc] at hline
    constructor
    · rintro ⟨front, hends⟩
      have hsame := append_more_inj (hline.symm.trans hends)
      omega
    · rintro ⟨hm, hcount⟩
      have hsame : m = others := by omega
      exact ⟨_, hsame ▸ hline⟩

end DistrictAtlas.Description
