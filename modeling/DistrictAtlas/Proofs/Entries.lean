import Mathlib.Data.List.Induction
import Mathlib.Data.List.Nodup
import DistrictAtlas.Entries

/-!
# Tables made entry by entry

What a table holds under a key once a list of entries has been put into it: the value that was put
last, and the old one when nothing was put under the key. No value comes into a table but by being
put.
-/

namespace DistrictAtlas.Entries

variable {κ α β : Type} [BEq κ]

/-- What is found under a key is the value of an entry. -/
theorem mem_of_get? {key : κ} {value : α} {entries : List (κ × α)}
    (h : get? key entries = some value) : ∃ entry ∈ entries, entry.2 = value := by
  induction entries with
  | nil => cases h
  | cons entry rest ih =>
    rw [get?] at h
    split at h
    · exact ⟨entry, List.mem_cons_self, Option.some.inj h⟩
    · obtain ⟨found, hmem, hvalue⟩ := ih h
      exact ⟨found, List.mem_cons_of_mem entry hmem, hvalue⟩

/-- An entry of a table into which a value was put was there before, or it holds this value. -/
theorem mem_put {key : κ} {value : α} {entries : List (κ × α)} {entry : κ × α}
    (h : entry ∈ put key value entries) : entry ∈ entries ∨ entry.2 = value := by
  induction entries with
  | nil =>
    rw [put, List.mem_singleton] at h
    exact Or.inr (congrArg Prod.snd h)
  | cons first rest ih =>
    rw [put] at h
    split at h
    · rcases List.mem_cons.mp h with rfl | hrest
      · exact Or.inr rfl
      · exact Or.inl (List.mem_cons_of_mem first hrest)
    · rcases List.mem_cons.mp h with rfl | hrest
      · exact Or.inl List.mem_cons_self
      · exact (ih hrest).imp_left (List.mem_cons_of_mem first)

/-- An entry of a table made entry by entry was there at the start, or it holds the value of one of
the items. -/
theorem mem_foldl_put {keyOf : β → κ} {valueOf : β → α} {items : List β} {table : List (κ × α)}
    {entry : κ × α}
    (h : entry ∈ items.foldl (fun table item => put (keyOf item) (valueOf item) table) table) :
    entry ∈ table ∨ ∃ item ∈ items, entry.2 = valueOf item := by
  induction items generalizing table with
  | nil => exact Or.inl h
  | cons item rest ih =>
    rcases ih h with hput | ⟨later, hlater, hvalue⟩
    · rcases mem_put hput with hold | hvalue
      · exact Or.inl hold
      · exact Or.inr ⟨item, List.mem_cons_self, hvalue⟩
    · exact Or.inr ⟨later, List.mem_cons_of_mem item hlater, hvalue⟩

/-- Putting a value under a key adds the key behind the others, unless it is there. -/
theorem keys_put [LawfulBEq κ] (key : κ) (value : α) (entries : List (κ × α)) :
    keys (put key value entries) =
      if (keys entries).contains key then keys entries else keys entries ++ [key] := by
  induction entries with
  | nil => rfl
  | cons entry rest ih =>
    have hkeys : keys (entry :: rest) = entry.1 :: keys rest := rfl
    rw [put, hkeys, List.contains_cons]
    by_cases hfirst : entry.1 = key
    · rw [hfirst, beq_self_eq_true, Bool.true_or, if_pos rfl, if_pos rfl]
      rfl
    · have hstep : keys (entry :: put key value rest) = entry.1 :: keys (put key value rest) := rfl
      rw [if_neg (fun he => hfirst (eq_of_beq he)), hstep, ih,
        beq_eq_false_iff_ne.mpr (Ne.symm hfirst), Bool.false_or]
      split
      · rfl
      · rfl

/-- One more item behind others is one more distinct item, unless it is there. -/
theorem eraseDups_concat [LawfulBEq κ] (keys : List κ) (key : κ) :
    (keys ++ [key]).eraseDups =
      if keys.contains key then keys.eraseDups else keys.eraseDups ++ [key] := by
  rw [List.eraseDups_append, List.removeAll, List.filter_cons, List.filter_nil, List.contains]
  cases keys.elem key with
  | true => exact List.append_nil _
  | false => rfl

/-- The keys of a table made entry by entry are the keys of the entries, each at its first place. -/
theorem keys_foldl_put [LawfulBEq κ] (keyOf : β → κ) (valueOf : β → α) (items : List β) :
    keys (items.foldl (fun table item => put (keyOf item) (valueOf item) table) []) =
      (items.map keyOf).eraseDups := by
  induction items using List.reverseRecOn with
  | nil => rfl
  | append_singleton items item ih =>
    have hsame : ∀ key, (items.map keyOf).eraseDups.contains key = (items.map keyOf).contains key := by
      intro key
      rw [Bool.eq_iff_iff, List.contains_iff_mem, List.contains_iff_mem, List.mem_eraseDups]
    rw [List.foldl_append, List.foldl_cons, List.foldl_nil, keys_put, ih, List.map_append,
      List.map_singleton, eraseDups_concat, hsame]

/-- In a table whose keys are distinct, every entry is found under its key. -/
theorem get?_of_mem [LawfulBEq κ] {entries : List (κ × α)} (hkeys : (keys entries).Nodup)
    {entry : κ × α} (h : entry ∈ entries) : get? entry.1 entries = some entry.2 := by
  induction entries with
  | nil => cases h
  | cons first rest ih =>
    obtain ⟨hfresh, hrest⟩ := List.nodup_cons.mp hkeys
    rw [get?]
    rcases List.mem_cons.mp h with rfl | hmem
    · rw [if_pos (beq_self_eq_true _)]
    · have hother : first.1 ≠ entry.1 := fun he =>
        hfresh (List.mem_map.mpr ⟨entry, hmem, he.symm⟩)
      rw [if_neg fun he => hother (eq_of_beq he), ih hrest hmem]

/-- A table made from a list of keys, some of which have a value, holds the values of the keys that
are listed. -/
theorem get?_filterMap [LawfulBEq κ] (valueOf? : κ → Option α) (keys : List κ) (key : κ) :
    get? key (keys.filterMap fun key => (valueOf? key).map (key, ·)) =
      if keys.contains key then valueOf? key else none := by
  induction keys with
  | nil => rfl
  | cons first rest ih =>
    rw [List.filterMap_cons, List.contains_cons]
    by_cases hfirst : key = first
    · subst hfirst
      rw [beq_self_eq_true, Bool.true_or, if_pos rfl]
      cases hvalue : valueOf? key with
      | some value => rw [Option.map_some, get?, if_pos (beq_self_eq_true key)]
      | none => rw [Option.map_none, ih, hvalue, ite_self]
    · rw [beq_eq_false_iff_ne.mpr hfirst, Bool.false_or]
      cases valueOf? first with
      | some value =>
        rw [Option.map_some, get?, if_neg (fun he => hfirst (eq_of_beq he).symm), ih]
      | none => rw [Option.map_none, ih]

/-- What is found under a key is found there among the entries that are kept, if those under this key
are. -/
theorem get?_filter {key : κ} {keep : κ → Bool}
    (hkeep : ∀ other, (other == key) = true → keep other = true) (entries : List (κ × α)) :
    get? key (entries.filter fun entry => keep entry.1) = get? key entries := by
  induction entries with
  | nil => rfl
  | cons entry rest ih =>
    rw [List.filter_cons, get?]
    by_cases hkey : (entry.1 == key) = true
    · rw [if_pos (hkeep _ hkey), get?, if_pos hkey, if_pos hkey]
    · rw [if_neg hkey, ← ih]
      split
      · rw [get?, if_neg hkey]
      · rfl

/-- Under a key that is the same as no other one is found what was found there, changed as the values
under this key are. -/
theorem get?_map {key : κ} (hkey : ∀ other, (other == key) = true → other = key)
    (change : κ → α → α) (entries : List (κ × α)) :
    get? key (entries.map fun entry => (entry.1, change entry.1 entry.2)) =
      (get? key entries).map (change key) := by
  induction entries with
  | nil => rfl
  | cons entry rest ih =>
    rw [List.map_cons, get?, get?, ih]
    split
    · next hsame => rw [hkey _ hsame, Option.map_some]
    · rfl

/-- A key is there if one of the entries has it. -/
theorem has_iff {key : κ} {entries : List (κ × α)} :
    has key entries = true ↔ ∃ other ∈ keys entries, (other == key) = true := by
  induction entries with
  | nil => exact iff_of_false Bool.false_ne_true (by rintro ⟨_, hmem, -⟩; cases hmem)
  | cons entry rest ih =>
    have hkeys : keys (entry :: rest) = entry.1 :: keys rest := rfl
    rw [hkeys, List.exists_mem_cons_iff, ← ih, has, has, get?]
    split
    · next hkey => exact iff_of_true rfl (Or.inl hkey)
    · next hkey => exact (or_iff_right hkey).symm

/-- No two of the entries are under the same key. -/
def Distinct (entries : List (κ × α)) : Prop :=
  entries.Pairwise fun entry later => (entry.1 == later.1) = false

/-- A key that no entry has comes behind all entries. -/
theorem put_of_fresh {key : κ} {value : α} {entries : List (κ × α)}
    (h : ∀ entry ∈ entries, (entry.1 == key) = false) :
    put key value entries = entries ++ [(key, value)] := by
  induction entries with
  | nil => rfl
  | cons first rest ih =>
    obtain ⟨hfirst, hrest⟩ := List.forall_mem_cons.mp h
    rw [put, hfirst, if_neg Bool.false_ne_true, ih hrest, List.cons_append]

/-- Where no key comes twice, putting an entry behind those before it leaves them as they are. -/
theorem Distinct.put_append {entries later : List (κ × α)} {key : κ} {value : α}
    (h : Distinct (entries ++ (key, value) :: later)) :
    put key value entries = entries ++ [(key, value)] := by
  obtain ⟨-, -, hacross⟩ := List.pairwise_append.mp h
  exact put_of_fresh fun entry hentry => hacross entry hentry (key, value) List.mem_cons_self

/-- Nothing is found under a key that none of the entries has. -/
theorem get?_eq_none {key : κ} {entries : List (κ × α)}
    (h : ∀ entry ∈ entries, (entry.1 == key) = false) : get? key entries = none := by
  induction entries with
  | nil => rfl
  | cons entry rest ih =>
    obtain ⟨hentry, hrest⟩ := List.forall_mem_cons.mp h
    rw [get?, hentry, if_neg Bool.false_ne_true, ih hrest]

/-- An entry of a table into which a value was put has the key of an old entry or the one of the
value. -/
theorem key_of_mem_put {key : κ} {value : α} {entries : List (κ × α)} {entry : κ × α}
    (h : entry ∈ put key value entries) :
    (∃ old ∈ entries, old.1 = entry.1) ∨ entry.1 = key := by
  induction entries with
  | nil =>
    rw [put, List.mem_singleton] at h
    exact Or.inr (congrArg Prod.fst h)
  | cons first rest ih =>
    rw [put] at h
    split at h
    · rcases List.mem_cons.mp h with rfl | hrest
      · exact Or.inl ⟨first, List.mem_cons_self, rfl⟩
      · exact Or.inl ⟨entry, List.mem_cons_of_mem first hrest, rfl⟩
    · rcases List.mem_cons.mp h with rfl | hrest
      · exact Or.inl ⟨entry, List.mem_cons_self, rfl⟩
      · rcases ih hrest with ⟨old, hold, hkey⟩ | hkey
        · exact Or.inl ⟨old, List.mem_cons_of_mem first hold, hkey⟩
        · exact Or.inr hkey

/-- Putting a value under the key where it is found changes nothing. -/
theorem put_of_get? {key : κ} {value : α} {entries : List (κ × α)}
    (h : get? key entries = some value) : put key value entries = entries := by
  induction entries with
  | nil => cases h
  | cons entry rest ih =>
    rw [get?] at h
    rw [put]
    split at h
    · next hkey => rw [if_pos hkey, ← Option.some.inj h]
    · next hkey => rw [if_neg hkey, ih h]

/-- Putting a value under a key leaves no key twice. -/
theorem Distinct.put {entries : List (κ × α)} (h : Distinct entries) (key : κ) (value : α) :
    Distinct (Entries.put key value entries) := by
  induction entries with
  | nil => exact List.pairwise_singleton _ _
  | cons first rest ih =>
    obtain ⟨hfirst, hrest⟩ := List.pairwise_cons.mp h
    rw [Entries.put]
    split
    · exact List.pairwise_cons.mpr ⟨hfirst, hrest⟩
    · next hother =>
      refine List.pairwise_cons.mpr ⟨fun entry hentry => ?_, ih hrest⟩
      rcases key_of_mem_put hentry with ⟨old, hold, hkey⟩ | hkey
      · rw [← hkey]
        exact hfirst old hold
      · rw [hkey]
        exact Bool.eq_false_iff.mpr hother

variable [EquivBEq κ]

/-- The last entry put under a key is the one that is found; earlier ones, also those of the table
at the start, are found only without it. -/
theorem get?_foldl_put (keyOf : β → κ) (valueOf : β → α) (items : List β) (table : List (κ × α))
    (key : κ) :
    get? key (items.foldl (fun table item => put (keyOf item) (valueOf item) table) table) =
      ((items.filter (keyOf · == key)).getLast?.map valueOf).or (get? key table) := by
  induction items generalizing table with
  | nil => rfl
  | cons item rest ih =>
    rw [List.foldl_cons, ih, get?_put, List.filter_cons]
    cases hkey : keyOf item == key with
    | true =>
      rw [if_pos rfl, if_pos rfl, List.getLast?_cons]
      cases (rest.filter (keyOf · == key)).getLast? <;> rfl
    | false => rw [if_neg Bool.false_ne_true, if_neg Bool.false_ne_true]

/-- The same is found under two spellings of a key. -/
theorem get?_congr {key other : κ} (h : (key == other) = true) (entries : List (κ × α)) :
    get? key entries = get? other entries := by
  induction entries with
  | nil => rfl
  | cons entry rest ih =>
    have hsame : (entry.1 == key) = (entry.1 == other) := BEq.congr_right h
    rw [get?, get?, hsame, ih]

/-- Where no key comes twice, every entry is found under its key. -/
theorem Distinct.get?_of_mem {entries : List (κ × α)} (hdistinct : Distinct entries)
    {entry : κ × α} (h : entry ∈ entries) : get? entry.1 entries = some entry.2 := by
  induction entries with
  | nil => cases h
  | cons first rest ih =>
    obtain ⟨hfirst, hrest⟩ := List.pairwise_cons.mp hdistinct
    rw [get?]
    rcases List.mem_cons.mp h with rfl | hmem
    · rw [if_pos BEq.rfl]
    · rw [hfirst entry hmem, if_neg Bool.false_ne_true, ih hrest hmem]

end DistrictAtlas.Entries
