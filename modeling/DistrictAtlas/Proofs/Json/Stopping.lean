import DistrictAtlas.Proofs.Json.Wholeness
import DistrictAtlas.Report.Inspection

/-!
# What stops the writing of a document

A document is written to its end exactly if none of its whole numbers is too long to be written and no
text in it is torn. Sorting the entries of its mappings makes no difference to that. The same documents
can be put together before they are written. Classifications and descriptions hold no whole numbers;
inspections hold the counts of their territories.
-/

namespace DistrictAtlas

namespace Value

mutual

/-- The whole numbers in a document; those among the keys do not count. -/
def numbers : Value → List Int
  | .scalar (.int n) => [n]
  | .scalar _ => []
  | .list items => itemNumbers items
  | .mapping entries => entryNumbers entries

/-- The whole numbers in the items of a list. -/
def itemNumbers : List Value → List Int
  | [] => []
  | item :: rest => item.numbers ++ itemNumbers rest

/-- The whole numbers in the values of a mapping. -/
def entryNumbers : List (Scalar × Value) → List Int
  | [] => []
  | (_, value) :: rest => value.numbers ++ entryNumbers rest

end

/-- A number in a list is a number in one of its items. -/
theorem mem_itemNumbers {items : List Value} {n : Int} :
    n ∈ itemNumbers items ↔ ∃ item ∈ items, n ∈ item.numbers := by
  induction items with
  | nil => simp [itemNumbers]
  | cons item rest ih => rw [itemNumbers, List.mem_append, ih, List.exists_mem_cons_iff]

/-- A number in a mapping is a number in one of its values. -/
theorem mem_entryNumbers {entries : List (Scalar × Value)} {n : Int} :
    n ∈ entryNumbers entries ↔ ∃ entry ∈ entries, n ∈ entry.2.numbers := by
  induction entries with
  | nil => simp [entryNumbers]
  | cons entry rest ih =>
    obtain ⟨key, value⟩ := entry
    rw [entryNumbers, List.mem_append, ih, List.exists_mem_cons_iff]

/-- A list of values without numbers holds no numbers. -/
theorem numbers_list_eq_nil {items : List Value} (h : ∀ item ∈ items, item.numbers = []) :
    (Value.list items).numbers = [] := by
  rw [numbers, List.eq_nil_iff_forall_not_mem]
  intro n hn
  obtain ⟨item, hitem, hnumber⟩ := mem_itemNumbers.mp hn
  rw [h item hitem] at hnumber
  cases hnumber

/-- A list of texts from outside holds no numbers. -/
theorem numbers_wordings (wordings : List Wording) :
    (Value.list (wordings.map .ofWording)).numbers = [] := by
  apply numbers_list_eq_nil
  intro item hitem
  obtain ⟨wording, -, rfl⟩ := List.mem_map.mp hitem
  cases wording <;> rfl

/-- A list of texts holds no numbers. -/
theorem numbers_texts (texts : List String) : (Value.list (texts.map .text)).numbers = [] := by
  have hwhole : texts.map Value.text = (texts.map Wording.whole).map .ofWording := by
    rw [List.map_map]
    rfl
  rw [hwhole, numbers_wordings]

end Value

namespace Json

open Value

/-! ## Fragments -/

/-- The writing stops at a fragment. -/
def stopsAt (part : Option Wording) : Bool := (hindrance? part).isSome

/-- What stands in front of a fragment makes no difference. -/
theorem stopsAt_map_behind (lead : String) (part : Option Wording) :
    stopsAt (part.map (Wording.behind lead)) = stopsAt part := by
  cases part with
  | none => rfl
  | some wording => cases wording <;> rfl

/-- The writing stops at a scalar if it is a number that is too long or a torn text. -/
theorem stopsAt_scalar? (s : Scalar) :
    stopsAt (scalar? s) = ((Value.scalar s).numbers.any Digits.tooLong || !s.isWhole) := by
  cases s with
  | int n =>
    rw [scalar?, refuses, numbers, List.any_cons, List.any_nil, Bool.or_false]
    · cases Digits.tooLong n <;> rfl
    · exact nofun
  | _ => rfl

/-- The writing stops at a key if it is a torn text. -/
theorem stopsAt_key (key : Scalar) :
    stopsAt (some (quotedWording (keyWording key))) = !key.isWhole := by
  cases key <;> rfl

/-- Behind a whole text the writing stops in what comes next or in what comes behind that. -/
theorem any_stopsAt_lead (lead : String) (parts others : List (Option Wording)) :
    (some (.whole lead) :: parts ++ others).any stopsAt =
      (parts.any stopsAt || others.any stopsAt) := by
  rw [List.cons_append, List.any_cons, List.any_append]
  exact Bool.false_or _

mutual

/-- The writing stops in a value if one of its numbers is too long or a text in it is torn. -/
theorem any_stopsAt_fragments (level : Nat) : ∀ value : Value,
    (fragments level value).any stopsAt = (value.numbers.any Digits.tooLong || !value.isWhole)
  | .scalar s => by
    rw [fragments, List.any_cons, List.any_nil, Bool.or_false, stopsAt_scalar?, isWhole]
  | .list [] => rfl
  | .list (item :: rest) => by
    have hitems := any_stopsAt_itemFragments (level + 1) ("[" ++ newline (level + 1)) (item :: rest)
    rw [fragments, List.any_append, hitems, numbers, isWhole]
    · exact Bool.or_false _
    · exact nofun
  | .mapping [] => rfl
  | .mapping (entry :: rest) => by
    have hentries := any_stopsAt_entryFragments (level + 1) (newline (level + 1)) (entry :: rest)
    rw [fragments, any_stopsAt_lead, hentries, numbers, isWhole]
    · exact Bool.or_false _
    · exact nofun

/-- The writing stops in items if one of their numbers is too long or a text in them is torn. -/
theorem any_stopsAt_itemFragments (level : Nat) (lead : String) : ∀ items : List Value,
    (itemFragments level lead items).any stopsAt =
      ((itemNumbers items).any Digits.tooLong || !areWhole items)
  | [] => rfl
  | .scalar s :: rest => by
    have hrest := any_stopsAt_itemFragments level ("," ++ newline level) rest
    rw [itemFragments, List.any_cons, stopsAt_map_behind, stopsAt_scalar?, hrest, itemNumbers,
      List.any_append, areWhole, isWhole, Bool.not_and]
    ac_rfl
  | .list items :: rest => by
    have hitem := any_stopsAt_fragments level (.list items)
    have hrest := any_stopsAt_itemFragments level ("," ++ newline level) rest
    rw [itemFragments, any_stopsAt_lead, hitem, hrest, itemNumbers, List.any_append, areWhole,
      Bool.not_and]
    · ac_rfl
    · exact nofun
  | .mapping entries :: rest => by
    have hitem := any_stopsAt_fragments level (.mapping entries)
    have hrest := any_stopsAt_itemFragments level ("," ++ newline level) rest
    rw [itemFragments, any_stopsAt_lead, hitem, hrest, itemNumbers, List.any_append, areWhole,
      Bool.not_and]
    · ac_rfl
    · exact nofun

/-- The writing stops in entries if one of their numbers is too long or a text in them is torn. -/
theorem any_stopsAt_entryFragments (level : Nat) (lead : String) :
    ∀ entries : List (Scalar × Value),
      (entryFragments level lead entries).any stopsAt =
        ((entryNumbers entries).any Digits.tooLong || !entriesAreWhole entries)
  | [] => rfl
  | (key, value) :: rest => by
    have hvalue := any_stopsAt_fragments level value
    have hrest := any_stopsAt_entryFragments level ("," ++ newline level) rest
    have hlayout : ∀ text, stopsAt (some (.whole text)) = false := fun _ => rfl
    rw [entryFragments, List.any_cons, List.any_cons, List.any_cons, List.any_append, hlayout,
      hlayout, stopsAt_key, hvalue, hrest, entryNumbers, List.any_append, entriesAreWhole,
      Bool.not_and, Bool.not_and, Bool.false_or, Bool.false_or]
    ac_rfl

end

/-- Fragments at which the writing does not stop are whole texts. -/
theorem eq_map_of_not_stopsAt {parts : List (Option Wording)} (h : parts.any stopsAt = false) :
    ∃ texts : List String, parts = texts.map fun text => some (.whole text) := by
  induction parts with
  | nil => exact ⟨[], rfl⟩
  | cons part rest ih =>
    rw [List.any_cons, Bool.or_eq_false_iff] at h
    obtain ⟨hpart, hrest⟩ := h
    obtain ⟨texts, rfl⟩ := ih hrest
    match part, hpart with
    | some (.whole text), _ => exact ⟨text :: texts, rfl⟩

/-- Whole texts are written to their end. -/
theorem upToHindrance_map_whole (texts : List String) :
    upToHindrance (texts.map fun text => some (.whole text)) = (String.join texts, none) := by
  have hall : ∀ part ∈ texts.map some, part.isSome = true :=
    List.forall_mem_map.mpr fun _ _ => rfl
  have hkept : (texts.map some ++ []).takeWhile (·.isSome) =
      texts.map some ++ [].takeWhile (·.isSome) := List.takeWhile_append_of_pos hall
  rw [List.append_nil, List.takeWhile_nil, List.append_nil] at hkept
  have htexts : (texts.map fun text => some (Wording.whole text)).map (·.bind Wording.text?) =
      texts.map some := List.map_map
  have hnone : (texts.map fun text => some (Wording.whole text)).findSome? hindrance? = none := by
    rw [List.findSome?_eq_none_iff, List.forall_mem_map]
    exact fun _ _ => rfl
  rw [upToHindrance, htexts, hkept, hnone, List.filterMap_map, Function.id_comp, List.filterMap_some]

/-- Whole texts are put together. -/
theorem assembled_map_whole (texts : List String) :
    assembled (texts.map fun text => some (.whole text)) = .ok (String.join texts) := by
  have hsome : (texts.map fun text => some (Wording.whole text)).any (·.isNone) = false := by
    rw [List.any_map, List.any_eq_false]
    exact fun _ _ => Bool.false_ne_true
  have hjoin : Wording.join (texts.map .whole) = .whole (String.join texts) := by
    have hpieces : (texts.map Wording.whole).flatMap Wording.pieces =
        (texts.flatMap String.toList).map TextPiece.char := by
      rw [List.flatMap_map, List.map_flatMap]
      rfl
    rw [Wording.join, hpieces, Wording.ofPieces_map_char, ← String.toList_join, String.ofList_toList]
  have hparts : (texts.map fun text => some (Wording.whole text)).filterMap id =
      texts.map .whole := by
    rw [List.filterMap_map]
    exact congrFun List.filterMap_eq_map texts
  rw [assembled, if_neg (Bool.eq_false_iff.mp hsome), hparts, hjoin]

/-- Fragments are not put together if the writing would stop at one of them. -/
theorem assembled_of_stopsAt {parts : List (Option Wording)} (h : parts.any stopsAt = true) :
    ∃ hindrance, assembled parts = .error hindrance := by
  obtain ⟨part, hpart, hstops⟩ := List.any_eq_true.mp h
  unfold assembled
  split
  · exact ⟨_, rfl⟩
  · next hsome =>
    match part, hstops with
    | none, _ => exact absurd (List.any_eq_true.mpr ⟨none, hpart, rfl⟩) hsome
    | some (.torn text), _ =>
      have hhalf : ((parts.filterMap id).flatMap Wording.pieces).any TextPiece.isHalf = true := by
        rw [List.any_flatMap, List.any_eq_true]
        exact ⟨.torn text, List.mem_filterMap.mpr ⟨_, hpart, rfl⟩, text.holdsHalf⟩
      rw [Wording.join, Wording.ofPieces, dif_pos hhalf]
      exact ⟨_, rfl⟩

/-- Entries in order have the same numbers. -/
theorem mem_entryNumbers_sortEntries {entries : List (Scalar × Value)} {n : Int} :
    n ∈ entryNumbers (sortEntries entries) ↔ n ∈ entryNumbers entries := by
  rw [mem_entryNumbers, mem_entryNumbers]
  unfold sortEntries
  simp only [List.mem_mergeSort]

mutual

/-- A value in canonical form has the same numbers. -/
theorem mem_numbers_canonical {n : Int} : ∀ value : Value,
    n ∈ (canonical value).numbers ↔ n ∈ value.numbers
  | .scalar s => by rw [canonical]
  | .list items => by
    rw [canonical, numbers, numbers, mem_itemNumbers_canonicalItems items]
  | .mapping entries => by
    rw [canonical, numbers, numbers, mem_entryNumbers_sortEntries,
      mem_entryNumbers_canonicalEntries entries]

/-- Items in canonical form have the same numbers. -/
theorem mem_itemNumbers_canonicalItems {n : Int} : ∀ items : List Value,
    n ∈ itemNumbers (canonicalItems items) ↔ n ∈ itemNumbers items
  | [] => Iff.rfl
  | item :: rest => by
    rw [canonicalItems, itemNumbers, itemNumbers, List.mem_append, List.mem_append,
      mem_numbers_canonical item, mem_itemNumbers_canonicalItems rest]

/-- Entries in canonical form have the same numbers. -/
theorem mem_entryNumbers_canonicalEntries {n : Int} : ∀ entries : List (Scalar × Value),
    n ∈ entryNumbers (canonicalEntries entries) ↔ n ∈ entryNumbers entries
  | [] => Iff.rfl
  | (key, value) :: rest => by
    rw [canonicalEntries, entryNumbers, entryNumbers, List.mem_append, List.mem_append,
      mem_numbers_canonical value, mem_entryNumbers_canonicalEntries rest]

end

/-- The writing of a document is stopped exactly if one of its numbers is too long or a text in it is
torn. -/
theorem transcript_stops_iff (value : Value) :
    (transcript value).2.isSome = true ↔
      (∃ n ∈ value.numbers, Digits.tooLong n = true) ∨ value.isWhole = false := by
  have hany : (transcript value).2.isSome = (fragments 0 (canonical value)).any stopsAt := by
    rw [Bool.eq_iff_iff, List.any_eq_true]
    exact List.findSome?_isSome_iff
  rw [hany, any_stopsAt_fragments, Bool.or_eq_true, List.any_eq_true, isWhole_canonical,
    Bool.not_eq_true']
  simp only [mem_numbers_canonical]

/-- A document whose writing is not stopped is rendered, and what is written of it is what is
rendered. -/
theorem render_of_transcript {value : Value} {text : String} (h : transcript value = (text, none)) :
    render value = .ok text := by
  have hnot : (fragments 0 (canonical value)).any stopsAt = false := by
    rw [List.any_eq_false]
    intro part hpart
    have hnone := List.findSome?_eq_none_iff.mp (congrArg Prod.snd h) part hpart
    rw [stopsAt, hnone]
    exact Bool.false_ne_true
  obtain ⟨texts, htexts⟩ := eq_map_of_not_stopsAt hnot
  rw [transcript, htexts, upToHindrance_map_whole] at h
  rw [render, htexts, assembled_map_whole, ← (Prod.mk.inj h).1]

/-- A document whose writing is stopped is not rendered. -/
theorem render_of_stopped {value : Value} (h : (transcript value).2.isSome = true) :
    ∃ hindrance, render value = .error hindrance := by
  apply assembled_of_stopsAt
  rw [List.any_eq_true]
  exact List.findSome?_isSome_iff.mp h

end Json

/-- The rows of a classification hold no whole numbers. -/
theorem Classified.numbers_rows (rows : List Classified) :
    (Value.list (rows.map toValue)).numbers = [] := by
  apply Value.numbers_list_eq_nil
  intro item hitem
  obtain ⟨⟨code, territory, color, taken, opacity⟩, -, rfl⟩ := List.mem_map.mp hitem
  cases territory <;> rfl

/-- Descriptions hold no whole numbers. -/
theorem Description.numbers_descriptions (descriptions : List Description) :
    (Value.list (descriptions.map toValue)).numbers = [] := by
  apply Value.numbers_list_eq_nil
  intro item hitem
  obtain ⟨⟨code, territory, lines⟩, -, rfl⟩ := List.mem_map.mp hitem
  have hlines := Value.numbers_texts lines
  unfold toValue Value.record
  cases territory with
  | none => simpa [Value.numbers, Value.entryNumbers] using hlines
  | some id => simpa [Value.numbers, Value.entryNumbers] using hlines

namespace Rulebook

end Rulebook

end DistrictAtlas
