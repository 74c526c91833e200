import DistrictAtlas.Text.CodeOrder
import Mathlib.Data.String.Basic

/-!
# Sorting by code points

The order in which texts are sorted is the lexicographic order of their characters, which compares
characters by their code points. What is sorted by a text keeps the order it had where the texts are
the same.
-/

namespace DistrictAtlas.Text

/-- One row of characters comes after another when the other is less in lexicographic order. -/
theorem leChars_eq_false_iff (as bs : List Char) : leChars as bs = false ↔ bs < as := by
  induction as generalizing bs with
  | nil => exact iff_of_false Bool.noConfusion (List.not_lt_nil bs)
  | cons a as ih =>
    cases bs with
    | nil => exact iff_of_true rfl (List.nil_lt_cons a as)
    | cons b bs =>
      rw [leChars, List.cons_lt_cons_iff]
      by_cases heq : a = b
      · subst heq
        rw [if_pos rfl, ih]
        exact ⟨fun h => Or.inr ⟨rfl, h⟩,
          fun h => h.elim (fun hless => absurd hless (lt_irrefl a)) And.right⟩
      · have hless : ¬a.toNat < b.toNat ↔ b < a :=
          (not_lt (a := a) (b := b)).trans ⟨fun h => lt_of_le_of_ne h (Ne.symm heq), le_of_lt⟩
        rw [if_neg heq, decide_eq_false_iff_not, hless]
        exact ⟨Or.inl, fun h => h.elim id fun hsame => absurd hsame.1.symm heq⟩

/-- Texts are compared by their characters. -/
theorem le_iff (a b : String) : le a b = true ↔ a ≤ b := by
  rw [← not_lt, String.lt_iff_toList_lt, ← leChars_eq_false_iff, le, Bool.not_eq_false]

section SortedBy

variable {α : Type} (key : α → String)

/-- What comes before something that comes before a third comes before the third. -/
theorem le_key_trans (a b c : α) (hab : le (key a) (key b) = true)
    (hbc : le (key b) (key c) = true) : le (key a) (key c) = true := by
  rw [le_iff] at *
  exact hab.trans hbc

/-- Of two things one comes before the other. -/
theorem le_key_total (a b : α) : (le (key a) (key b) || le (key b) (key a)) = true := by
  rw [Bool.or_eq_true, le_iff, le_iff]
  exact le_total (key a) (key b)

/-- Sorting by a text puts every two things in the order of their texts. -/
theorem pairwise_mergeSort_key (items : List α) :
    (items.mergeSort fun a b => le (key a) (key b)).Pairwise fun a b => key a ≤ key b :=
  (List.pairwise_mergeSort (le_key_trans key) (le_key_total key) items).imp (le_iff _ _).mp

/-- Sorting by a text leaves things with the same text in the order they had. -/
theorem filter_mergeSort_key (items : List α) (text : String) :
    (items.mergeSort fun a b => le (key a) (key b)).filter (fun item => key item = text) =
      items.filter fun item => key item = text := by
  have hsame : (items.filter fun item => key item = text).Pairwise
      fun a b => le (key a) (key b) = true := by
    refine List.pairwise_filter.mpr (List.pairwise_of_forall fun a b ha hb => ?_)
    rw [of_decide_eq_true ha, of_decide_eq_true hb]
    exact le_refl text
  have hsublist := (List.sublist_mergeSort (le_key_trans key) (le_key_total key) hsame
    List.filter_sublist).filter fun item => key item = text
  have hlength := ((List.mergeSort_perm items fun a b => le (key a) (key b)).filter
    fun item => key item = text).length_eq
  rw [List.filter_filter] at hsublist
  simp only [Bool.and_self] at hsublist
  exact (hsublist.eq_of_length hlength.symm).symm

/-- Whatever is in a list is among the things with its text. -/
theorem mem_filter_key {items : List α} {item : α} (h : item ∈ items) :
    item ∈ items.filter (key · = key item) :=
  List.mem_filter.mpr ⟨h, decide_eq_true (Eq.refl (key item))⟩

/-- What is first in order comes before whatever has the text of something in the list. -/
theorem key_head_le {first : α} {rest items : List α}
    (hsorted : (first :: rest).Pairwise fun a b => key a ≤ key b)
    (hsame : ∀ text, (first :: rest).filter (key · = text) = items.filter (key · = text)) {item : α}
    (hitem : item ∈ items) : key first ≤ key item := by
  have hmem := mem_filter_key key hitem
  rw [← hsame] at hmem
  rcases List.mem_cons.mp (List.mem_filter.mp hmem).1 with rfl | hrest
  · exact String.le_refl (key item)
  · exact List.rel_of_pairwise_cons hsorted hrest

/-- There is one order only in which things are sorted by their texts and those with the same text
stand in a given order. -/
theorem eq_of_filter_key {first second : List α} (hfirst : first.Pairwise fun a b => key a ≤ key b)
    (hsecond : second.Pairwise fun a b => key a ≤ key b)
    (hsame : ∀ text, first.filter (key · = text) = second.filter (key · = text)) :
    first = second := by
  induction first generalizing second with
  | nil =>
    refine (List.eq_nil_iff_forall_not_mem.mpr fun item hitem => ?_).symm
    have hmem := mem_filter_key key hitem
    rw [← hsame] at hmem
    cases hmem
  | cons a rest ih =>
    cases second with
    | nil =>
      have hmem := mem_filter_key key (List.mem_cons_self : a ∈ a :: rest)
      rw [hsame] at hmem
      cases hmem
    | cons b others =>
      -- both heads have the least text, so each is the first of the things with this text
      have hkey : key a = key b := le_antisymm (key_head_le key hfirst hsame List.mem_cons_self)
        (key_head_le key hsecond (fun text => (hsame text).symm) List.mem_cons_self)
      have hhead := hsame (key a)
      rw [List.filter_cons, if_pos (decide_eq_true rfl), List.filter_cons,
        if_pos (decide_eq_true hkey.symm), List.cons.injEq] at hhead
      obtain ⟨rfl, htail⟩ := hhead
      have hrest : ∀ text, rest.filter (key · = text) = others.filter (key · = text) := by
        intro text
        by_cases htext : key a = text
        · rw [← htext]
          exact htail
        · have hboth := hsame text
          rwa [List.filter_cons, if_neg (htext ∘ of_decide_eq_true), List.filter_cons,
            if_neg (htext ∘ of_decide_eq_true)] at hboth
      rw [ih hfirst.of_cons hsecond.of_cons hrest]

end SortedBy

end DistrictAtlas.Text
