import DistrictAtlas.Proofs.Rules.Continuation
import DistrictAtlas.Style.Painting

/-!
# Painted trees and the lookup

A tree that is built tier by tier is evaluated here against the lookup in the rulebook. Each
condition of a tier has the value of the lookup's own test, so a tier takes the branch of the first
rule that fits, and the whole tree takes the branch of the owner. The trees of colors, of taken
districts and of opacities are three instances of this one law.
-/

namespace DistrictAtlas

namespace Tree

/-- The letters that a condition lists are those that the lookup accepts. -/
theorem mem_letters_iff (c : Char) : c ∈ letters.toList ↔ isLetter c = true := by
  constructor
  · intro h
    have hlisted : letters.toList.all isLetter = true := by decide
    exact List.all_eq_true.mp hlisted c h
  · intro h
    obtain ⟨hlow, hhigh⟩ := (Rule.isLetter_iff c).mp h
    have hlow' : 65 ≤ c.toNat := UInt32.le_iff_toNat_le.mp hlow
    have hhigh' : c.toNat ≤ 90 := UInt32.le_iff_toNat_le.mp hhigh
    have hspan : ∀ i < 26, Char.ofNat (65 + i) ∈ letters.toList := by decide
    have hc := hspan (c.toNat - 65) (by omega)
    rwa [Nat.add_sub_cancel' hlow', Char.ofNat_toNat] at hc

/-- The character at the position behind a stem is the first one of what follows it. -/
theorem charAt?_append (stem rest : List Char) :
    charAt? (stem ++ rest) (stem.length : Int) = rest.head? := by
  have h : (0 : Int) ≤ (stem.length : Int) := Int.natCast_nonneg _
  unfold charAt?
  rw [if_pos h, Int.toNat_natCast, List.getElem?_append_right (Nat.le_refl _), Nat.sub_self,
    List.head?_eq_getElem?]

/-- The condition of a letter tier has the value of the lookup's test, the end of the code
included. -/
theorem evalUpper_letterCondition (stem code : String) :
    evalUpper code (letterCondition stem) =
      .ok (.bool (Rule.fitsLetter stem.toList code.toList)) := by
  by_cases hp : stem.toList <+: code.toList
  · obtain ⟨rest, hr⟩ := hp
    have hprefix : stem.toList.isPrefixOf code.toList = true :=
      List.isPrefixOf_iff_prefix.mpr ⟨rest, hr⟩
    have hlength : code.length = stem.length + rest.length := by
      rw [← String.length_toList, ← hr, List.length_append, String.length_toList]
    have hnext : charAt? code.toList (stem.length : Int) = rest.head? := by
      rw [← hr, ← String.length_toList, charAt?_append]
    have hfits : Rule.fitsLetter stem.toList code.toList = rest.head?.all isLetter := by
      rw [← hr, Rule.fitsLetter_append]
    rw [hfits]
    cases rest with
    | nil => simp [letterCondition, evalUpper, evalAll, evalAny, hprefix, hlength]
    | cons c rest =>
      have hlonger : ¬(stem.length : Int) + (rest.length + 1) = stem.length := by omega
      cases hl : isLetter c <;>
        simp [letterCondition, evalUpper, evalAll, evalAny, hprefix, hlength, hnext,
          mem_letters_iff, hl, hlonger]
  · have hprefix : stem.toList.isPrefixOf code.toList = false :=
      Bool.eq_false_iff.mpr fun he => hp (List.isPrefixOf_iff_prefix.mp he)
    rw [Rule.fitsLetter_eq_false hp]
    simp [letterCondition, evalUpper, evalAll, hprefix]

/-- The condition of the last tier has the value of the lookup's test. -/
theorem evalUpper_anyCondition (stem code : String) :
    evalUpper code (anyCondition stem) = .ok (.bool (Rule.fitsAny stem.toList code.toList)) := rfl

/-- A choice over rules takes the branch of the first rule that fits, as soon as each condition has
the value of the test. -/
theorem evalBranches_rules {code : String} {condition : String → Tree} {fits : List Char → Bool}
    (hc : ∀ stem, evalUpper code (condition stem) = .ok (.bool (fits stem.toList)))
    (value : String → Tree) (rules : List Rule) :
    evalBranches code (rules.map fun rule => (condition rule.stem, value rule.territory)) =
      (Rule.firstFit fits rules).map fun id => evalUpper code (value id) := by
  induction rules with
  | nil => rfl
  | cons rule rest ih =>
    rw [List.map_cons, evalBranches, hc]
    unfold Rule.firstFit at ih ⊢
    cases hf : fits rule.stem.toList with
    | true => simp only [List.find?_cons, hf, Option.map_some, reduceIte]
    | false =>
      simp only [List.find?_cons, hf, Scalar.bool.injEq, Bool.false_eq_true, reduceIte]
      exact ih

/-- A table of codes takes the entry that the lookup finds. -/
theorem evalTable_codes (code : String) (value : String → Tree) (codes : List (String × String)) :
    evalTable code (codes.map fun entry => (entry.1, value entry.2)) =
      (Entries.get? code codes).map fun id => evalUpper code (value id) := by
  induction codes with
  | nil => rfl
  | cons entry rest ih =>
    rw [List.map_cons, evalTable, Entries.get?]
    by_cases h : entry.1 = code
    · rw [if_pos h, if_pos (beq_iff_eq.mpr h), Option.map_some]
    · rw [if_neg h, if_neg (fun he => h (beq_iff_eq.mp he)), ih]

end Tree

namespace Rulebook

open DistrictAtlas.Tree

/-- A tier of rules goes on to the next tree exactly when no rule fits; without any rule it is the
next tree. -/
theorem evalUpper_ruleTier {code : String} {condition : String → Tree} (fits : List Char → Bool)
    (hc : ∀ stem, evalUpper code (condition stem) = .ok (.bool (fits stem.toList)))
    (value : String → Tree) (rules : List Rule) (otherwise : Tree) :
    evalUpper code (ruleTier condition value rules otherwise) =
      match Rule.firstFit fits rules with
      | some id => evalUpper code (value id)
      | none => evalUpper code otherwise := by
  cases rules with
  | nil => rfl
  | cons rule rest =>
    rw [ruleTier, evalUpper, evalBranches_rules hc]
    · cases Rule.firstFit fits (rule :: rest) <;> rfl
    · exact List.cons_ne_nil rule rest

/-- The tier of single codes goes on to the next tree exactly when the code has no entry. -/
theorem evalUpper_exactTier (code : String) (value : String → Tree)
    (codes : List (String × String)) (otherwise : Tree) :
    evalUpper code (exactTier value codes otherwise) =
      match Entries.get? code codes with
      | some id => evalUpper code (value id)
      | none => evalUpper code otherwise := by
  cases codes with
  | nil => rfl
  | cons entry rest =>
    rw [exactTier, evalUpper, evalTable_codes]
    · cases Entries.get? code (entry :: rest) <;> rfl
    · exact List.cons_ne_nil entry rest

/-- The whole tree has the value of the code's owner, and the last value without one. -/
theorem eval_tiers (book : Rulebook) (value : String → Tree) (unmatched : Tree) (code : String) :
    (book.tiers value unmatched).eval code =
      match book.owner? code with
      | some id => (value id).eval code
      | none => unmatched.eval code := by
  unfold Tree.eval tiers owner? ownerOfUpper?
  have hletter := fun stem => evalUpper_letterCondition stem (Text.upper code)
  have hany := fun stem => evalUpper_anyCondition stem (Text.upper code)
  rw [evalUpper_exactTier, evalUpper_ruleTier (Rule.fitsLetter · (Text.upper code).toList) hletter,
    evalUpper_ruleTier (Rule.fitsAny · (Text.upper code).toList) hany]
  cases Entries.get? (Text.upper code) book.exact with
  | some id => rfl
  | none =>
    cases Rule.firstFit (Rule.fitsLetter · (Text.upper code).toList) book.letter <;> rfl

/-- The tree of taken districts is the answer of the lookup, as a truth value. -/
theorem eval_takenTree (book : Rulebook) (code : String) :
    book.takenTree.eval code = .ok (.bool (book.isTaken code)) := by
  unfold takenTree isTaken ownerTerritory?
  rw [eval_tiers]
  cases book.owner? code <;> rfl

/-- An opacity is the dimmed one exactly where the tree of taken districts is the value true. -/
theorem eval_opacityTree (book : Rulebook) (theme : Theme) (code : String) :
    (book.opacityTree theme).eval code =
      .ok (.real (if book.isTaken code then theme.dimmedOpacity else theme.normalOpacity)) := by
  have ht : evalUpper (Text.upper code) book.takenTree = .ok (.bool (book.isTaken code)) :=
    eval_takenTree book code
  unfold opacityTree Tree.eval
  rw [evalUpper, evalBranches, ht]
  cases book.isTaken code <;> rfl

/-- The three trees say of every code what the lookup says of it, for every rulebook: the color is
that of the owner where the owner is declared with a color, and the fallback where it is not. -/
theorem paintingTrees_eval (book : Rulebook) (theme : Theme) (code : String) :
    (book.colorTree theme).eval code =
        .ok (.text (match book.owner? code with
          | none => theme.unmatchedColor
          | some id => match book.territory? id with
            | none => theme.fallbackColor
            | some territory =>
              if territory.color ≠ "" then territory.color else theme.fallbackColor)) ∧
      book.takenTree.eval code = .ok (.bool (book.isTaken code)) ∧
      (book.opacityTree theme).eval code =
        .ok (.real (if book.isTaken code then theme.dimmedOpacity else theme.normalOpacity)) := by
  refine ⟨?_, eval_takenTree book code, eval_opacityTree book theme code⟩
  unfold colorTree colorOf
  rw [eval_tiers]
  cases book.owner? code with
  | none => rfl
  | some id =>
    dsimp only
    rw [eval_constant]
    cases book.territory? id with
    | none => rfl
    | some territory =>
      dsimp only
      by_cases hcolor : territory.color = ""
      · rw [if_pos (String.isEmpty_iff.mpr hcolor), if_neg (fun hn => hn hcolor)]
      · rw [if_neg (fun he => hcolor (String.isEmpty_iff.mp he)), if_pos hcolor]

end Rulebook

end DistrictAtlas
