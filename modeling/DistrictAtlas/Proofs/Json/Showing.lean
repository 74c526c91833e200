import DistrictAtlas.Json.Reader
import DistrictAtlas.Proofs.Entries
import DistrictAtlas.Proofs.Number.DigitValues
import DistrictAtlas.Proofs.Outcome

/-!
# Showing what was read

A message shows a value unless one of its numbers is too long to be written. Such numbers are refused
where a document is read, so every part of a document that was read can be shown.
-/

namespace DistrictAtlas

namespace Scalar

/-- A scalar is shown: it is no number that is too long. -/
def IsShowable (s : Scalar) : Prop :=
  ∃ text, s.shown = .ok text

/-- A number that is not too long is shown. -/
theorem isShowable_int {n : Int} (h : Digits.tooLong n = false) : (Scalar.int n).IsShowable :=
  ⟨String.ofList (Digits.ofInt n), by rw [shown, Digits.text, h, if_neg Bool.false_ne_true]⟩

/-- A text is shown, torn or not. -/
theorem isShowable_ofWording (wording : Wording) : (ofWording wording).IsShowable := by
  cases wording <;> exact ⟨_, rfl⟩

end Scalar

namespace Value

/-- A value is shown: no number in it is too long. -/
def IsShowable (value : Value) : Prop :=
  ∃ text, value.shown = .ok text

/-- A scalar that is shown is shown as a value. -/
theorem isShowable_scalar {s : Scalar} (h : s.IsShowable) : (Value.scalar s).IsShowable := by
  obtain ⟨text, htext⟩ := h
  exact ⟨text, by rw [shown, htext]⟩

/-- The items of a list are shown together if each of them is. -/
theorem exists_shownItems_iff {items : List Value} :
    (∃ texts, shownItems items = .ok texts) ↔ ∀ item ∈ items, item.IsShowable := by
  induction items with
  | nil => exact iff_of_true ⟨[], rfl⟩ (List.forall_mem_nil _)
  | cons item rest ih =>
    rw [List.forall_mem_cons, ← ih, shownItems]
    constructor
    · rintro ⟨texts, h⟩
      obtain ⟨text, htext, hall⟩ := Outcome.bind_eq_ok_iff.mp h
      obtain ⟨others, hothers, -⟩ := Outcome.bind_eq_ok_iff.mp hall
      exact ⟨⟨text, htext⟩, others, hothers⟩
    · rintro ⟨⟨text, htext⟩, others, hothers⟩
      exact ⟨text :: others, by rw [htext, hothers]; rfl⟩

/-- A list is shown if its items are. -/
theorem isShowable_list_iff {items : List Value} :
    (Value.list items).IsShowable ↔ ∀ item ∈ items, item.IsShowable := by
  rw [← exists_shownItems_iff, IsShowable, shown]
  constructor
  · rintro ⟨text, h⟩
    obtain ⟨texts, htexts, -⟩ := Outcome.bind_eq_ok_iff.mp h
    exact ⟨texts, htexts⟩
  · rintro ⟨texts, htexts⟩
    exact ⟨_, by rw [htexts]; rfl⟩

/-- A mapping is shown if its keys and values are. -/
theorem isShowable_mapping {entries : List (Scalar × Value)}
    (h : ∀ entry ∈ entries, entry.1.IsShowable ∧ entry.2.IsShowable) :
    (Value.mapping entries).IsShowable := by
  have hentries : ∃ texts, shownEntries entries = .ok texts := by
    induction entries with
    | nil => exact ⟨[], rfl⟩
    | cons entry rest ih =>
      obtain ⟨⟨⟨keyText, hkey⟩, text, htext⟩, hrest⟩ := List.forall_mem_cons.mp h
      obtain ⟨texts, htexts⟩ := ih hrest
      exact ⟨(keyText ++ ": " ++ text) :: texts, by rw [shownEntries, hkey, htext, htexts]; rfl⟩
  obtain ⟨texts, htexts⟩ := hentries
  exact ⟨_, by rw [shown, htexts]; rfl⟩

/-- A value that is shown has a text that stands for it. -/
theorem IsShowable.plainText {value : Value} (h : value.IsShowable) :
    ∃ text, value.plainText = .ok text := by
  unfold Value.plainText
  split
  · exact ⟨_, rfl⟩
  · obtain ⟨text, htext⟩ := h
    exact ⟨.whole text, by rw [htext]; rfl⟩

end Value

namespace Json

/-- The whole part of a number is made of digits. -/
theorem isDigit_of_wholePart {cs digits rest : List Char} (h : wholePart cs = some (digits, rest)) :
    ∀ c ∈ digits, c.isDigit = true := by
  unfold wholePart at h
  split at h
  · cases h
    exact List.forall_mem_singleton.mpr rfl
  · split at h
    · cases h
    · cases h
      exact List.all_eq_true.mp List.all_takeWhile

/-- A number that was read is shown. -/
theorem isShowable_of_readNumber {cs rest : List Char} {s : Scalar}
    (h : readNumber cs = .ok (s, rest)) : s.IsShowable := by
  unfold readNumber at h
  dsimp only at h
  split at h
  · cases h
  · next whole _ hwhole =>
    split at h
    · split at h
      · cases h
      · next n hread =>
        cases h
        have hshort : ∀ m : Int, m.natAbs = n → Digits.tooLong m = false := fun m =>
          Digits.tooLong_of_read (isDigit_of_wholePart hwhole) hread
        refine Scalar.isShowable_int (hshort _ ?_)
        split
        · exact Int.natAbs_neg n
        · rfl
    · cases h
      exact ⟨_, rfl⟩

/-- A word or number that was read is shown. -/
theorem isShowable_of_readScalar {cs rest : List Char} {s : Scalar}
    (h : readScalar cs = .ok (s, rest)) : s.IsShowable := by
  have hwords : ∀ word ∈ words, ∃ text, word.2.shown = .ok text := by
    simp only [words, List.forall_mem_cons]
    exact ⟨⟨_, rfl⟩, ⟨_, rfl⟩, ⟨_, rfl⟩, ⟨_, rfl⟩, ⟨_, rfl⟩, ⟨_, rfl⟩, nofun⟩
  unfold readScalar at h
  split at h
  · next word hword =>
    cases h
    exact hwords word (List.mem_of_find?_eq_some hword)
  · exact isShowable_of_readNumber h

/-- Entries that are shown stay so when a value that is shown is put under a text. -/
theorem isShowable_put {done : List (Scalar × Value)} (key : Wording) {value : Value}
    (hdone : ∀ entry ∈ done, entry.1.IsShowable ∧ entry.2.IsShowable) (hvalue : value.IsShowable) :
    ∀ entry ∈ Entries.put (.ofWording key) value done, entry.1.IsShowable ∧ entry.2.IsShowable := by
  intro entry hentry
  refine ⟨?_, ?_⟩
  · rcases Entries.key_of_mem_put hentry with ⟨old, hold, hkey⟩ | hkey
    · exact hkey ▸ (hdone old hold).1
    · exact hkey ▸ Scalar.isShowable_ofWording key
  · rcases Entries.mem_put hentry with hold | hput
    · exact (hdone entry hold).2
    · exact hput ▸ hvalue

/-- With so much fuel a value that is read is shown, and so is a list or mapping of which a part had
been read before, if that part is shown. -/
structure ShowsRead (fuel : Nat) : Prop where
  /-- A value is shown. -/
  value : ∀ depth cs value rest, readValue fuel depth cs = .ok (value, rest) → value.IsShowable
  /-- A list is shown if its first items are. -/
  items : ∀ depth done cs value rest, (∀ item ∈ done, item.IsShowable) →
    readItems fuel depth done cs = .ok (value, rest) → value.IsShowable
  /-- A mapping is shown if its first entries are. -/
  entries : ∀ depth done cs value rest, (∀ entry ∈ done, entry.1.IsShowable ∧ entry.2.IsShowable) →
    readEntries fuel depth done cs = .ok (value, rest) → value.IsShowable

variable {fuel depth : Nat} {cs rest : List Char} {value : Value}

/-- A value is shown if its items or entries are. -/
theorem ShowsRead.readValue (hreads : ShowsRead fuel)
    (h : readValue (fuel + 1) depth cs = .ok (value, rest)) : value.IsShowable := by
  unfold Json.readValue at h
  split at h
  · cases ‹_ + 1 = 0›
  · split at h
    · cases h
    · cases h
      exact Value.isShowable_scalar (Scalar.isShowable_ofWording _)
  · cases h
  · cases h
  · next hfuel =>
    cases hfuel
    split at h
    · cases h
      exact Value.isShowable_list_iff.mpr (List.forall_mem_nil _)
    · exact hreads.items _ _ _ _ _ (List.forall_mem_nil _) h
  · next hfuel =>
    cases hfuel
    split at h
    · cases h
      exact Value.isShowable_mapping (List.forall_mem_nil _)
    · exact hreads.entries _ _ _ _ _ (List.forall_mem_nil _) h
  · split at h
    · cases h
    · next hscalar =>
      cases h
      exact Value.isShowable_scalar (isShowable_of_readScalar hscalar)

/-- A list is shown if the next item and those before it are. -/
theorem ShowsRead.readItems (hreads : ShowsRead fuel) {done : List Value}
    (hdone : ∀ item ∈ done, item.IsShowable)
    (h : readItems (fuel + 1) depth done cs = .ok (value, rest)) : value.IsShowable := by
  rw [Json.readItems] at h
  split at h
  · cases h
  · next item _ hitem =>
    have hall : ∀ other ∈ item :: done, other.IsShowable :=
      List.forall_mem_cons.mpr ⟨hreads.value _ _ _ _ hitem, hdone⟩
    split at h
    · cases h
      exact Value.isShowable_list_iff.mpr fun other hother => hall other (List.mem_reverse.mp hother)
    · exact hreads.items _ _ _ _ _ hall h
    · cases h

/-- A mapping is shown if the next entry and those before it are. -/
theorem ShowsRead.readEntries (hreads : ShowsRead fuel) {done : List (Scalar × Value)}
    (hdone : ∀ entry ∈ done, entry.1.IsShowable ∧ entry.2.IsShowable)
    (h : readEntries (fuel + 1) depth done cs = .ok (value, rest)) : value.IsShowable := by
  unfold Json.readEntries at h
  split at h
  · cases ‹_ + 1 = 0›
  · next hfuel =>
    cases hfuel
    split at h
    · cases h
    · next key _ _ =>
      split at h
      · split at h
        · cases h
        · next hvalue =>
          have hall := isShowable_put key hdone (hreads.value _ _ _ _ hvalue)
          dsimp only at h
          split at h
          · cases h
            exact Value.isShowable_mapping hall
          · exact hreads.entries _ _ _ _ _ hall h
          · cases h
      · cases h
  · cases h

/-- What is read is shown, whatever the fuel is. -/
theorem showsRead (fuel : Nat) : ShowsRead fuel := by
  -- the readers call each other, and each call spends one unit of fuel
  induction fuel with
  | zero => exact ⟨nofun, nofun, nofun⟩
  | succ fuel ih =>
    exact
      { value := fun _ _ _ _ => ih.readValue
        items := fun _ _ _ _ _ => ih.readItems
        entries := fun _ _ _ _ _ => ih.readEntries }

/-- A document that was read is shown. -/
theorem isShowable_of_readWithin {depth : Nat} {text : String} {document : Value}
    (h : readWithin depth text = .ok document) : document.IsShowable := by
  have hread := Outcome.mapError_eq_ok_iff.mp h
  unfold readDocument at hread
  split at hread
  · cases hread
  · split at hread
    · cases hread
    · next hvalue =>
      split at hread
      · cases hread
        exact (showsRead _).value _ _ _ _ hvalue
      · cases hread

end Json

end DistrictAtlas
