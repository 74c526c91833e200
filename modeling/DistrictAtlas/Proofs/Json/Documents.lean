import DistrictAtlas.Proofs.Entries
import DistrictAtlas.Proofs.Json.Scalars
import DistrictAtlas.Proofs.Json.Stopping
import DistrictAtlas.Proofs.Text.CodeOrder

/-!
# Plain documents and their canonical form

A plain document is made of plain scalars, of lists, and of mappings whose keys are different texts.
Two documents are the same up to order if one comes from the other by changing the order of entries,
in any mapping at any depth. Such documents have one canonical form, which is a plain document, the
same up to order, and nested as deep.
-/

namespace DistrictAtlas

namespace Value

/-- The keys of entries are texts, each of them another one. -/
structure HasTextKeys (entries : List (Scalar × Value)) : Prop where
  /-- They are texts. -/
  texts : ∀ key ∈ Entries.keys entries, ∃ name, key = .text name
  /-- None of them comes twice. -/
  distinct : Entries.Distinct entries

/-- Plain scalars, lists, and mappings from different texts, nested in any way. -/
inductive IsPlain : Value → Prop where
  /-- A plain scalar. -/
  | scalar {s : Scalar} (plain : s.IsPlain) : IsPlain (.scalar s)
  /-- A list of plain documents. -/
  | list {items : List Value} (plain : ∀ item ∈ items, IsPlain item) : IsPlain (.list items)
  /-- A mapping from different texts to plain documents. -/
  | mapping {entries : List (Scalar × Value)} (keys : HasTextKeys entries)
      (plain : ∀ entry ∈ entries, IsPlain entry.2) : IsPlain (.mapping entries)

/-- Documents that are the same but for the order of entries in mappings, at any depth. -/
inductive SameUpToOrder : Value → Value → Prop where
  /-- A document is the same as itself. -/
  | refl (value : Value) : SameUpToOrder value value
  /-- The order can be changed more than once. -/
  | trans {first second third : Value} (left : SameUpToOrder first second)
      (right : SameUpToOrder second third) : SameUpToOrder first third
  /-- The entries of a mapping can change places. -/
  | perm {entries others : List (Scalar × Value)} (perm : entries.Perm others) :
      SameUpToOrder (.mapping entries) (.mapping others)
  /-- The order can be changed inside an item of a list. -/
  | item (before after : List Value) {item other : Value} (same : SameUpToOrder item other) :
      SameUpToOrder (.list (before ++ item :: after)) (.list (before ++ other :: after))
  /-- The order can be changed inside an entry of a mapping. -/
  | entry (before after : List (Scalar × Value)) (key : Scalar) {value other : Value}
      (same : SameUpToOrder value other) :
      SameUpToOrder (.mapping (before ++ (key, value) :: after))
        (.mapping (before ++ (key, other) :: after))

/-- Whether keys are different texts depends on the keys only, and not on their order. -/
theorem HasTextKeys.of_perm {entries others : List (Scalar × Value)} (h : HasTextKeys entries)
    (hperm : (Entries.keys entries).Perm (Entries.keys others)) : HasTextKeys others where
  texts key hkey := h.texts key (hperm.mem_iff.mpr hkey)
  distinct := by
    have hswap : ∀ {key later : Scalar}, (key == later) = false → (later == key) = false := by
      intro key later hapart
      rwa [BEq.comm]
    have hkeys : (Entries.keys entries).Pairwise fun key later => (key == later) = false :=
      List.pairwise_map.mpr h.distinct
    exact List.pairwise_map.mp ((hperm.pairwise_iff hswap).mp hkeys)

/-- A record of plain documents under different names is plain. -/
theorem isPlain_record {fields : List (String × Value)} (hnames : (fields.map Prod.fst).Nodup)
    (h : ∀ field ∈ fields, field.2.IsPlain) : (record fields).IsPlain := by
  have hapart : ∀ {name later : String}, name ≠ later → (Scalar.text name == .text later) = false :=
    fun hne => decide_eq_false fun heq => hne (Scalar.text.inj heq)
  refine .mapping ⟨?_, ?_⟩ (List.forall_mem_map.mpr h)
  · intro key hkey
    rw [Entries.keys, List.map_map] at hkey
    obtain ⟨field, -, rfl⟩ := List.mem_map.mp hkey
    exact ⟨field.1, rfl⟩
  · exact List.pairwise_map.mpr ((List.pairwise_map.mp hnames).imp hapart)

/-! ## Depth -/

mutual

/-- How deep lists and mappings are nested in a document. -/
def nesting : Value → Nat
  | .scalar _ => 0
  | .list items => itemsNesting items + 1
  | .mapping entries => entriesNesting entries + 1

/-- How deep lists and mappings are nested in items. -/
def itemsNesting : List Value → Nat
  | [] => 0
  | item :: rest => max item.nesting (itemsNesting rest)

/-- How deep lists and mappings are nested in the values of entries. -/
def entriesNesting : List (Scalar × Value) → Nat
  | [] => 0
  | (_, value) :: rest => max value.nesting (entriesNesting rest)

end

/-- Items are nested as deep as the deepest of them. -/
theorem itemsNesting_eq (items : List Value) :
    itemsNesting items = (items.map nesting).foldr max 0 := by
  induction items with
  | nil => rfl
  | cons item rest ih => rw [itemsNesting, ih, List.map_cons, List.foldr_cons]

/-- Entries are nested as deep as the deepest of their values. -/
theorem entriesNesting_eq (entries : List (Scalar × Value)) :
    entriesNesting entries = (entries.map fun entry => entry.2.nesting).foldr max 0 := by
  induction entries with
  | nil => rfl
  | cons entry rest ih =>
    obtain ⟨key, value⟩ := entry
    rw [entriesNesting, ih, List.map_cons, List.foldr_cons]

/-- The order of entries makes no difference to the depth. -/
theorem SameUpToOrder.nesting_eq {value other : Value} (h : SameUpToOrder value other) :
    value.nesting = other.nesting := by
  induction h with
  | refl value => rfl
  | trans _ _ ihleft ihright => exact ihleft.trans ihright
  | perm hperm =>
    have hmax := (hperm.map fun entry => entry.2.nesting).foldr_eq' (f := max)
      (fun a _ b _ c => Nat.max_left_comm b a c) 0
    rw [nesting, nesting, entriesNesting_eq, entriesNesting_eq, hmax]
  | item before after _ ih =>
    rw [nesting, nesting, itemsNesting_eq, itemsNesting_eq]
    simp only [List.map_append, List.map_cons, ih]
  | entry before after key _ ih =>
    rw [nesting, nesting, entriesNesting_eq, entriesNesting_eq]
    simp only [List.map_append, List.map_cons, ih]

/-- A list is nested one level deeper than its items. -/
theorem nesting_list_le_iff {items : List Value} {depth : Nat} :
    (Value.list items).nesting ≤ depth + 1 ↔ ∀ item ∈ items, item.nesting ≤ depth := by
  rw [nesting, Nat.add_le_add_iff_right]
  induction items with
  | nil => simp [itemsNesting]
  | cons item rest ih => rw [itemsNesting, Nat.max_le, ih, List.forall_mem_cons]

/-- A mapping is nested one level deeper than its values. -/
theorem nesting_mapping_le_iff {entries : List (Scalar × Value)} {depth : Nat} :
    (Value.mapping entries).nesting ≤ depth + 1 ↔ ∀ entry ∈ entries, entry.2.nesting ≤ depth := by
  rw [nesting, Nat.add_le_add_iff_right]
  induction entries with
  | nil => simp [entriesNesting]
  | cons entry rest ih =>
    obtain ⟨key, value⟩ := entry
    rw [entriesNesting, Nat.max_le, ih, List.forall_mem_cons]

/-! ## Numbers and texts -/

/-- No text in a plain document is torn. -/
theorem IsPlain.isWhole {value : Value} (h : value.IsPlain) : value.isWhole = true := by
  induction h with
  | @scalar s hs =>
    cases s with
    | torn text => cases hs
    | _ => rfl
  | list _ ih => exact isWhole_list ih
  | mapping hkeys _ ih =>
    rw [Value.isWhole, entriesAreWhole_iff]
    intro entry hentry
    obtain ⟨name, hname⟩ := hkeys.texts entry.1 (List.mem_map_of_mem hentry)
    exact ⟨hname ▸ rfl, ih entry hentry⟩

/-- No number of a plain document is too long to be written. -/
theorem IsPlain.tooLong_eq_false {value : Value} (h : value.IsPlain) :
    ∀ n ∈ value.numbers, Digits.tooLong n = false := by
  induction h with
  | @scalar s hs =>
    intro n hn
    cases s with
    | int m =>
      rw [numbers, List.mem_singleton] at hn
      exact hn ▸ Digits.tooLong_of_length_le hs
    | _ => cases hn
  | list _ ih =>
    intro n hn
    obtain ⟨item, hitem, hn⟩ := mem_itemNumbers.mp hn
    exact ih item hitem n hn
  | mapping _ _ ih =>
    intro n hn
    obtain ⟨entry, hentry, hn⟩ := mem_entryNumbers.mp hn
    exact ih entry hentry n hn

end Value

namespace Json

open Value

/-! ## Sorting -/

/-- Items are made canonical one by one. -/
theorem canonicalItems_eq_map (items : List Value) : canonicalItems items = items.map canonical := by
  induction items with
  | nil => rfl
  | cons item rest ih => rw [canonicalItems, ih, List.map_cons]

/-- Values are made canonical under their keys. -/
theorem canonicalEntries_eq_map (entries : List (Scalar × Value)) :
    canonicalEntries entries = entries.map fun entry => (entry.1, canonical entry.2) := by
  induction entries with
  | nil => rfl
  | cons entry rest ih =>
    obtain ⟨key, value⟩ := entry
    rw [canonicalEntries, ih, List.map_cons]

/-- Sorting changes the order of entries only. -/
theorem perm_sortEntries (entries : List (Scalar × Value)) : (sortEntries entries).Perm entries :=
  List.mergeSort_perm entries _

/-- In whatever order entries with different texts as keys come, sorted they are the same. -/
theorem sortEntries_eq_of_perm {entries others : List (Scalar × Value)} (hkeys : HasTextKeys entries)
    (h : entries.Perm others) : sortEntries entries = sortEntries others := by
  have hfirst := Text.pairwise_mergeSort_key (fun entry => keyText entry.1) entries
  have hsecond := Text.pairwise_mergeSort_key (fun entry => keyText entry.1) others
  have hperm : (sortEntries entries).Perm (sortEntries others) :=
    (perm_sortEntries entries).trans (h.trans (perm_sortEntries others).symm)
  refine hperm.eq_of_pairwise ?_ hfirst hsecond
  intro a b ha hb hab hba
  -- entries under the same key are one and the same
  have ha' : a ∈ entries := (perm_sortEntries entries).mem_iff.mp ha
  have hb' : b ∈ entries := h.mem_iff.mpr ((perm_sortEntries others).mem_iff.mp hb)
  obtain ⟨name, hname⟩ := hkeys.texts a.1 (List.mem_map_of_mem ha')
  obtain ⟨other, hother⟩ := hkeys.texts b.1 (List.mem_map_of_mem hb')
  have hkey : a.1 = b.1 := by
    have hsame := le_antisymm hab hba
    rw [hname, hother] at hsame ⊢
    exact congrArg Scalar.text hsame
  have hvalue : a.2 = b.2 := by
    have hfound := hkeys.distinct.get?_of_mem ha'
    rw [hkey, hkeys.distinct.get?_of_mem hb'] at hfound
    exact (Option.some.inj hfound).symm
  exact Prod.ext hkey hvalue

/-! ## Canonical form -/

/-- Entries keep their keys when their values are made canonical. -/
theorem keys_canonicalEntries (entries : List (Scalar × Value)) :
    Entries.keys (canonicalEntries entries) = Entries.keys entries := by
  rw [canonicalEntries_eq_map, Entries.keys, List.map_map]
  rfl

/-- The keys stay different texts when values are made canonical. -/
theorem hasTextKeys_canonicalEntries {entries : List (Scalar × Value)} (h : HasTextKeys entries) :
    HasTextKeys (canonicalEntries entries) :=
  h.of_perm (.of_eq (keys_canonicalEntries entries).symm)

/-- The order of entries makes no difference to whether a document is plain, nor to its canonical
form. -/
theorem canonical_eq_of_same {value other : Value} (h : SameUpToOrder value other)
    (hplain : value.IsPlain) : other.IsPlain ∧ canonical value = canonical other := by
  induction h with
  | refl value => exact ⟨hplain, rfl⟩
  | trans _ _ ihleft ihright =>
    obtain ⟨hmiddle, hleft⟩ := ihleft hplain
    obtain ⟨hlast, hright⟩ := ihright hmiddle
    exact ⟨hlast, hleft.trans hright⟩
  | @perm entries others hperm =>
    cases hplain with
    | mapping hkeys hvalues =>
      have hmapped : (canonicalEntries entries).Perm (canonicalEntries others) := by
        rw [canonicalEntries_eq_map, canonicalEntries_eq_map]
        exact hperm.map _
      have hsorted := sortEntries_eq_of_perm (hasTextKeys_canonicalEntries hkeys) hmapped
      refine ⟨.mapping (hkeys.of_perm (hperm.map _)) fun entry hentry => ?_, ?_⟩
      · exact hvalues entry (hperm.mem_iff.mpr hentry)
      · rw [canonical, canonical, hsorted]
  | item before after _ ih =>
    cases hplain with
    | list hitems =>
      rw [List.forall_mem_append, List.forall_mem_cons] at hitems
      obtain ⟨hbefore, hitem, hafter⟩ := hitems
      obtain ⟨hother, hsame⟩ := ih hitem
      refine ⟨.list ?_, ?_⟩
      · rw [List.forall_mem_append, List.forall_mem_cons]
        exact ⟨hbefore, hother, hafter⟩
      · simp only [canonical, canonicalItems_eq_map, List.map_append, List.map_cons, hsame]
  | entry before after key _ ih =>
    cases hplain with
    | mapping hkeys hvalues =>
      rw [List.forall_mem_append, List.forall_mem_cons] at hvalues
      obtain ⟨hbefore, hvalue, hafter⟩ := hvalues
      obtain ⟨hother, hsame⟩ := ih hvalue
      refine ⟨.mapping (hkeys.of_perm (.of_eq ?_)) ?_, ?_⟩
      · simp only [Entries.keys, List.map_append, List.map_cons]
      · rw [List.forall_mem_append, List.forall_mem_cons]
        exact ⟨hbefore, hother, hafter⟩
      · simp only [canonical, canonicalEntries_eq_map, List.map_append, List.map_cons, hsame]

/-- Items can be made canonical one after the other, behind others. -/
theorem same_canonicalItems {items : List Value}
    (h : ∀ item ∈ items, SameUpToOrder item (canonical item)) (before : List Value) :
    SameUpToOrder (.list (before ++ items)) (.list (before ++ canonicalItems items)) := by
  induction items generalizing before with
  | nil => exact .refl _
  | cons item rest ih =>
    obtain ⟨hitem, hrest⟩ := List.forall_mem_cons.mp h
    have hmore := ih hrest (before ++ [canonical item])
    rw [List.append_assoc, List.append_assoc] at hmore
    exact (SameUpToOrder.item before rest hitem).trans hmore

/-- Values can be made canonical under their keys one after the other, behind others. -/
theorem same_canonicalEntries {entries : List (Scalar × Value)}
    (h : ∀ entry ∈ entries, SameUpToOrder entry.2 (canonical entry.2))
    (before : List (Scalar × Value)) :
    SameUpToOrder (.mapping (before ++ entries)) (.mapping (before ++ canonicalEntries entries)) := by
  induction entries generalizing before with
  | nil => exact .refl _
  | cons entry rest ih =>
    obtain ⟨key, value⟩ := entry
    obtain ⟨hvalue, hrest⟩ := List.forall_mem_cons.mp h
    have hmore := ih hrest (before ++ [(key, canonical value)])
    rw [List.append_assoc, List.append_assoc] at hmore
    exact (SameUpToOrder.entry before rest key hvalue).trans hmore

/-- The canonical form of a plain document is the same up to order. -/
theorem same_canonical {value : Value} (h : value.IsPlain) :
    SameUpToOrder value (canonical value) := by
  induction h with
  | scalar _ =>
    rw [canonical]
    exact .refl _
  | list _ ih =>
    rw [canonical]
    exact same_canonicalItems ih []
  | mapping _ _ ih =>
    rw [canonical]
    exact (same_canonicalEntries ih []).trans (.perm (perm_sortEntries _).symm)

end Json

end DistrictAtlas
