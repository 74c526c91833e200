import DistrictAtlas.Proofs.Json.Documents
import DistrictAtlas.Proofs.Json.Parts

/-!
# Written documents are read back

The text of a plain document is read as this document, wherever it stands and however it is indented,
if it is not nested deeper than may be; otherwise the reading stops at the first list or mapping that
is too deep, and nothing else is read in place of the document.
-/

namespace DistrictAtlas.Json

open Value

/-! ## The text of a document -/

/-- The characters of fragments; one that is not written has none. -/
def joined (parts : List (Option Wording)) : List Char :=
  parts.flatMap fun part => ((part.bind Wording.text?).getD "").toList

/-- The characters of fragments one after the other. -/
theorem joined_append (parts others : List (Option Wording)) :
    joined (parts ++ others) = joined parts ++ joined others :=
  List.flatMap_append

/-- The characters of a fragment and others. -/
theorem joined_cons (text : String) (parts : List (Option Wording)) :
    joined (some (.whole text) :: parts) = text.toList ++ joined parts :=
  List.flatMap_cons

/-- The characters of one fragment. -/
theorem joined_singleton (text : String) : joined [some (.whole text)] = text.toList := by
  rw [joined_cons]
  exact List.append_nil _

/-- The characters of a value on a level. -/
def chars (level : Nat) (value : Value) : List Char := joined (fragments level value)

/-- The characters of items on a level, without what comes before the first. -/
def itemChars (level : Nat) (items : List Value) : List Char := joined (itemFragments level "" items)

/-- The characters of entries on a level, without what comes before the first. -/
def entryChars (level : Nat) (entries : List (Scalar × Value)) : List Char :=
  joined (entryFragments level "" entries)

variable {level : Nat}

/-- A plain scalar is written. -/
theorem scalar?_of_isPlain {s : Scalar} (h : s.IsPlain) :
    scalar? s = some (.whole (scalarText s)) := by
  cases s with
  | int n =>
    have hwritten : refuses (.int n) = false := Digits.tooLong_of_length_le h
    rw [scalar?, hwritten]
    · rfl
    · intro text htorn
      cases htorn
  | torn text => cases h
  | _ => rfl

/-- The characters of a plain scalar. -/
theorem chars_scalar {s : Scalar} (h : s.IsPlain) : chars level (.scalar s) = (scalarText s).toList := by
  rw [chars, fragments, scalar?_of_isPlain h, joined_singleton]

/-- What comes before the first item stands before the characters of the items. -/
theorem joined_itemFragments_cons (lead : String) {item : Value} (h : item.IsPlain)
    (rest : List Value) :
    joined (itemFragments level lead (item :: rest)) = lead.toList ++ (chars level item ++
      joined (itemFragments level ("," ++ newline level) rest)) := by
  cases h with
  | @scalar s hs =>
    rw [itemFragments, scalar?_of_isPlain hs, Option.map_some, Wording.behind, joined_cons,
      chars_scalar hs, String.toList_append, List.append_assoc]
  | list _ =>
    rw [itemFragments, List.cons_append, joined_cons, joined_append, chars]
    intro s hscalar
    cases hscalar
  | mapping _ _ =>
    rw [itemFragments, List.cons_append, joined_cons, joined_append, chars]
    intro s hscalar
    cases hscalar

/-- The characters of one item. -/
theorem itemChars_singleton {item : Value} (h : item.IsPlain) :
    itemChars level [item] = chars level item := by
  rw [itemChars, joined_itemFragments_cons "" h]
  exact List.append_nil _

/-- The characters of items: a comma and a new line stand behind all but the last. -/
theorem itemChars_cons {item next : Value} (hitem : item.IsPlain) (hnext : next.IsPlain)
    (rest : List Value) :
    itemChars level (item :: next :: rest) =
      chars level item ++ ',' :: ((newline level).toList ++ itemChars level (next :: rest)) := by
  rw [itemChars, itemChars, joined_itemFragments_cons "" hitem, joined_itemFragments_cons _ hnext,
    joined_itemFragments_cons "" hnext, String.toList_append, List.append_assoc]
  rfl

/-- What stands in front of further items makes the characters more. -/
theorem length_itemChars_cons (level : Nat) {item next : Value} (hitem : item.IsPlain)
    (hnext : next.IsPlain) (rest : List Value) :
    (chars level item).length + (itemChars level (next :: rest)).length <
      (itemChars level (item :: next :: rest)).length := by
  rw [itemChars_cons hitem hnext]
  simp only [List.length_append, List.length_cons]
  omega

/-- The characters of a list that is not empty. -/
theorem chars_list {item : Value} (h : item.IsPlain) (rest : List Value) :
    chars level (.list (item :: rest)) = '[' :: ((newline (level + 1)).toList ++
      (itemChars (level + 1) (item :: rest) ++ ((newline level).toList ++ [']']))) := by
  have hclose : joined [some (.whole (newline level)), some (.whole "]")] =
      (newline level).toList ++ [']'] := by
    rw [joined_cons, joined_singleton]
    rfl
  rw [chars, fragments, joined_append, hclose, itemChars, joined_itemFragments_cons _ h,
    joined_itemFragments_cons "" h, String.toList_append, List.append_assoc, List.append_assoc]
  · rfl
  · intro hempty
    cases hempty

/-- What comes before the first key stands before the characters of the entries. -/
theorem joined_entryFragments_cons (lead name : String) (value : Value)
    (rest : List (Scalar × Value)) :
    joined (entryFragments level lead ((.text name, value) :: rest)) = lead.toList ++
      keyChars name (chars level value ++
        joined (entryFragments level ("," ++ newline level) rest)) := by
  have hkey : quotedWording (keyWording (.text name)) = .whole (quoted name) := rfl
  rw [entryFragments, hkey, joined_cons, joined_cons, joined_cons, joined_append, chars, keyChars]
  rfl

/-- The characters of entries begin with the first key. -/
theorem entryChars_eq (name : String) (value : Value) (rest : List (Scalar × Value)) :
    entryChars level ((.text name, value) :: rest) = keyChars name (chars level value ++
      joined (entryFragments level ("," ++ newline level) rest)) := by
  rw [entryChars, joined_entryFragments_cons]
  exact List.nil_append _

/-- The characters of one entry. -/
theorem entryChars_singleton (name : String) (value : Value) :
    entryChars level [(.text name, value)] = keyChars name (chars level value) := by
  rw [entryChars_eq, entryFragments, joined, List.flatMap_nil, List.append_nil]

/-- The characters of entries: a comma and a new line stand behind all but the last. -/
theorem entryChars_cons (name next : String) (value other : Value) (rest : List (Scalar × Value)) :
    entryChars level ((.text name, value) :: (.text next, other) :: rest) =
      keyChars name (chars level value ++ ',' ::
        ((newline level).toList ++ entryChars level ((.text next, other) :: rest))) := by
  have hcomma : ("," ++ newline level).toList = ',' :: (newline level).toList := by
    rw [String.toList_append]
    rfl
  rw [entryChars_eq, joined_entryFragments_cons, hcomma, entryChars_eq, List.cons_append]

/-- What stands in front of further entries makes the characters more. -/
theorem length_entryChars_cons (level : Nat) (name next : String) (value other : Value)
    (rest : List (Scalar × Value)) :
    (chars level value).length + (entryChars level ((.text next, other) :: rest)).length <
      (entryChars level ((.text name, value) :: (.text next, other) :: rest)).length := by
  rw [entryChars_cons, keyChars]
  simp only [List.length_append, List.length_cons]
  omega

/-- The characters of a mapping that is not empty. -/
theorem chars_mapping (name : String) (value : Value) (rest : List (Scalar × Value)) :
    chars level (.mapping ((.text name, value) :: rest)) = '\x7b' :: ((newline (level + 1)).toList ++
      (entryChars (level + 1) ((.text name, value) :: rest) ++
        ((newline level).toList ++ ['\x7d']))) := by
  have hclose : joined [some (.whole (newline level)), some (.whole "\x7d")] =
      (newline level).toList ++ ['\x7d'] := by
    rw [joined_cons, joined_singleton]
    rfl
  rw [chars, fragments, List.cons_append, joined_cons, joined_append, hclose, entryChars_eq,
    joined_entryFragments_cons, List.append_assoc]
  · rfl
  · exact nofun

/-- A value starts with the characters of a plain document. -/
theorem startsValue_chars (level : Nat) {value : Value} (h : value.IsPlain) (rest : List Char) :
    StartsValue (chars level value ++ rest) := by
  cases h with
  | scalar hs =>
    rw [chars_scalar hs]
    exact startsValue_scalarText hs rest
  | @list items hitems =>
    cases items with
    | nil => exact ⟨'[', rfl, Or.inl (by decide)⟩
    | cons item more =>
      rw [chars_list (hitems item List.mem_cons_self)]
      exact ⟨'[', rfl, Or.inl (by decide)⟩
  | @mapping entries hkeys _ =>
    cases entries with
    | nil => exact ⟨'\x7b', rfl, Or.inl (by decide)⟩
    | cons entry more =>
      obtain ⟨key, other⟩ := entry
      obtain ⟨name, rfl⟩ := hkeys.texts key List.mem_cons_self
      rw [chars_mapping]
      exact ⟨'\x7b', rfl, Or.inl (by decide)⟩

/-- A value starts with the first of plain items. -/
theorem startsValue_itemChars (level : Nat) {item : Value} (h : item.IsPlain) (others : List Value)
    (rest : List Char) : StartsValue (itemChars level (item :: others) ++ rest) := by
  have hfirst : itemChars level (item :: others) = chars level item ++
      joined (itemFragments level ("," ++ newline level) others) := by
    rw [itemChars, joined_itemFragments_cons "" h]
    exact List.nil_append _
  rw [hfirst, List.append_assoc]
  exact startsValue_chars level h _

/-- A value starts with the key of the first of plain entries. -/
theorem startsValue_entryChars (level : Nat) (name : String) (value : Value)
    (others : List (Scalar × Value)) (rest : List Char) :
    StartsValue (entryChars level ((.text name, value) :: others) ++ rest) := by
  rw [entryChars_eq, keyChars_append]
  exact startsValue_keyChars name _

/-- A plain document has characters. -/
theorem length_chars_pos (level : Nat) {value : Value} (h : value.IsPlain) :
    0 < (chars level value).length := by
  obtain ⟨c, hc, -⟩ := startsValue_chars level h []
  rw [List.append_nil] at hc
  exact List.length_pos_of_mem (List.mem_of_mem_head? hc)

/-! ## Reading it -/

/-- What is read where a document stands: the document, if it fits into the depth that is left, or
the complaint that something is nested too deep. -/
def Gives (fits : Prop) (result : Except Stop (Value × List Char)) (value : Value)
    (rest : List Char) : Prop :=
  (fits → result = .ok (value, rest)) ∧ (¬fits → ∃ nested, result = .error (.tooDeep nested))

/-- What is read behind a first document is read if this fits; otherwise it ends the reading. -/
theorem Gives.next {first others : Prop} {result later : Except Stop (Value × List Char)}
    {value : Value} {rest : List Char} (hothers : Gives others later value rest)
    (hfits : first → result = later)
    (hdeep : ¬first → ∃ nested, result = .error (.tooDeep nested)) :
    Gives (first ∧ others) result value rest := by
  refine ⟨fun h => (hfits h.1).trans (hothers.1 h.2), fun h => ?_⟩
  by_cases hfirst : first
  · obtain ⟨nested, hstop⟩ := hothers.2 fun hall => h ⟨hfirst, hall⟩
    exact ⟨nested, (hfits hfirst).trans hstop⟩
  · exact hdeep hfirst

/-- A document is read back from its characters on any level, and with any depth that is left. -/
def ReadsBack (value : Value) : Prop :=
  ∀ (level fuel depth : Nat) {rest : List Char}, EndsNumber rest →
    2 * (chars level value).length ≤ fuel →
      Gives (value.nesting ≤ depth) (readValue fuel depth (chars level value ++ rest)) value rest

/-- Items are read back one after the other, behind those before them. -/
theorem readItems_itemChars {items : List Value} (hne : items ≠ [])
    (hplain : ∀ item ∈ items, item.IsPlain) (hread : ∀ item ∈ items, ReadsBack item)
    {fuel depth : Nat} {gap rest : List Char} (hgap : IsGap gap) (hend : EndsNumber (gap ++ ']' :: rest))
    (hfuel : 2 * (itemChars level items).length < fuel) (done : List Value) :
    Gives (∀ item ∈ items, item.nesting ≤ depth)
      (readItems fuel depth done (itemChars level items ++ (gap ++ ']' :: rest)))
      (.list (done.reverse ++ items)) rest := by
  induction items generalizing fuel done with
  | nil => exact absurd rfl hne
  | cons item more ih =>
    obtain ⟨hitem, hmore⟩ := List.forall_mem_cons.mp hplain
    obtain ⟨hreaditem, hreadmore⟩ := List.forall_mem_cons.mp hread
    obtain ⟨fuel, rfl⟩ : ∃ less, fuel = less + 1 := Nat.exists_eq_add_of_le' (Nat.zero_lt_of_lt hfuel)
    rw [List.forall_mem_cons]
    cases more with
    | nil =>
      rw [itemChars_singleton hitem] at hfuel ⊢
      obtain ⟨hfits, hdeep⟩ := hreaditem level fuel depth hend (Nat.le_of_lt_succ hfuel)
      refine ⟨fun h => readItems_last done hgap (hfits h.1), fun h => ?_⟩
      obtain ⟨nested, hstop⟩ := hdeep fun hle => h ⟨hle, nofun⟩
      exact ⟨nested, readItems_stop done hstop⟩
    | cons next others =>
      have hnext : next.IsPlain := hmore next List.mem_cons_self
      have hlength := length_itemChars_cons level hitem hnext others
      have hless : 2 * (itemChars level (next :: others)).length < fuel := by omega
      have hstart := startsValue_itemChars level hnext others (gap ++ ']' :: rest)
      have hcomma := endsNumber_comma ((newline level).toList ++
        (itemChars level (next :: others) ++ (gap ++ ']' :: rest)))
      obtain ⟨hfits, hdeep⟩ := hreaditem level fuel depth hcomma (by omega)
      have hothers := ih (List.cons_ne_nil _ _) hmore hreadmore hless (item :: done)
      rw [List.reverse_cons, List.append_assoc, List.singleton_append] at hothers
      rw [itemChars_cons hitem hnext, List.append_assoc, List.cons_append, List.append_assoc]
      refine hothers.next (fun hle => ?_) (fun hle => ?_)
      · exact readItems_next done (isGap_newline level) hstart (hfits hle)
      · obtain ⟨nested, hstop⟩ := hdeep hle
        exact ⟨nested, readItems_stop done hstop⟩

/-- Entries under different texts are read back one after the other, behind those before them. -/
theorem readEntries_entryChars {entries : List (Scalar × Value)} (hne : entries ≠ [])
    (htexts : ∀ key ∈ Entries.keys entries, ∃ name, key = .text name)
    (hplain : ∀ entry ∈ entries, entry.2.IsPlain) (hread : ∀ entry ∈ entries, ReadsBack entry.2)
    {fuel depth : Nat} {gap rest : List Char} (hgap : IsGap gap)
    (hend : EndsNumber (gap ++ '\x7d' :: rest)) (hfuel : 2 * (entryChars level entries).length < fuel)
    {done : List (Scalar × Value)} (hdone : Entries.Distinct (done ++ entries)) :
    Gives (∀ entry ∈ entries, entry.2.nesting ≤ depth)
      (readEntries fuel depth done (entryChars level entries ++ (gap ++ '\x7d' :: rest)))
      (.mapping (done ++ entries)) rest := by
  induction entries generalizing fuel done with
  | nil => exact absurd rfl hne
  | cons entry more ih =>
    obtain ⟨key, value⟩ := entry
    obtain ⟨name, rfl⟩ := htexts key List.mem_cons_self
    have hput : Entries.put (.text name) value done = done ++ [(.text name, value)] :=
      hdone.put_append
    have hvalue : value.IsPlain := hplain _ List.mem_cons_self
    have hreadvalue : ReadsBack value := hread _ List.mem_cons_self
    have hmore := (List.forall_mem_cons.mp hplain).2
    have hreadmore := (List.forall_mem_cons.mp hread).2
    obtain ⟨fuel, rfl⟩ : ∃ less, fuel = less + 1 :=
      Nat.exists_eq_add_of_le' (Nat.zero_lt_of_lt hfuel)
    rw [List.forall_mem_cons]
    cases more with
    | nil =>
      have hlength := length_lt_keyChars name (chars level value)
      rw [entryChars_singleton] at hfuel
      obtain ⟨hfits, hdeep⟩ := hreadvalue level fuel depth hend (by omega)
      have hstart := startsValue_chars level hvalue (gap ++ '\x7d' :: rest)
      rw [entryChars_singleton, keyChars_append, ← hput]
      refine ⟨fun h => readEntries_last done name hstart hgap (hfits h.1), fun h => ?_⟩
      obtain ⟨nested, hstop⟩ := hdeep fun hle => h ⟨hle, nofun⟩
      exact ⟨nested, readEntries_stop done name hstart hstop⟩
    | cons next others =>
      obtain ⟨nextKey, other⟩ := next
      have hothertexts : ∀ key ∈ Entries.keys ((nextKey, other) :: others), ∃ name, key = .text name :=
        fun key hkey => htexts key (List.mem_cons_of_mem _ hkey)
      obtain ⟨nextName, rfl⟩ := hothertexts nextKey List.mem_cons_self
      have hlength := length_entryChars_cons level name nextName value other others
      have hless : 2 * (entryChars level ((.text nextName, other) :: others)).length < fuel := by
        omega
      have hstart := startsValue_entryChars level nextName other others (gap ++ '\x7d' :: rest)
      have hcomma := endsNumber_comma ((newline level).toList ++
        (entryChars level ((.text nextName, other) :: others) ++ (gap ++ '\x7d' :: rest)))
      obtain ⟨hfits, hdeep⟩ := hreadvalue level fuel depth hcomma (by omega)
      have hvaluestart := startsValue_chars level hvalue (',' :: ((newline level).toList ++
        (entryChars level ((.text nextName, other) :: others) ++ (gap ++ '\x7d' :: rest))))
      have happend : done ++ (.text name, value) :: (.text nextName, other) :: others =
          done ++ [(.text name, value)] ++ (.text nextName, other) :: others := by
        rw [List.append_assoc]
        rfl
      rw [happend] at hdone ⊢
      have hothers := ih (List.cons_ne_nil _ _) hothertexts hmore hreadmore hless hdone
      rw [← hput] at hothers
      rw [← hput, entryChars_cons, keyChars_append, List.append_assoc, List.cons_append,
        List.append_assoc]
      refine hothers.next (fun hle => ?_) (fun hle => ?_)
      · exact readEntries_next done name hvaluestart (isGap_newline level) hstart (hfits hle)
      · obtain ⟨nested, hstop⟩ := hdeep hle
        exact ⟨nested, readEntries_stop done name hvaluestart hstop⟩

/-- A new line ends a number. -/
theorem endsNumber_gap (level : Nat) (rest : List Char) :
    EndsNumber ((newline level).toList ++ rest) := by
  rw [newline, String.toList_ofList]
  exact endsNumber_newline _

/-- Where no list and no mapping may stand, none is read. -/
theorem gives_tooDeep {fuel inner : Nat} {c : Char} (hc : c = '[' ∨ c = '\x7b') (cs : List Char)
    (value : Value) (rest : List Char) :
    Gives (inner + 1 ≤ 0) (readValue (fuel + 1) 0 (c :: cs)) value rest := by
  refine ⟨fun h => absurd h (Nat.not_succ_le_zero inner), fun _ => ?_⟩
  rcases hc with rfl | rfl
  · exact ⟨.list, by rw [readValue]⟩
  · exact ⟨.mapping, by rw [readValue]⟩

/-- An empty list is read back. -/
theorem readsBack_nil_list : ReadsBack (.list []) := by
  intro level fuel depth rest _ hfuel
  have hchars : chars level (.list []) = ['[', ']'] := rfl
  rw [hchars] at hfuel ⊢
  obtain ⟨fuel, rfl⟩ : ∃ less, fuel = less + 1 :=
    Nat.exists_eq_add_of_le' (Nat.le_trans (by decide) hfuel)
  cases depth with
  | zero => exact gives_tooDeep (Or.inl rfl) _ _ _
  | succ depth =>
    exact ⟨fun _ => rfl, fun h => absurd (nesting_list_le_iff.mpr (List.forall_mem_nil _)) h⟩

/-- An empty mapping is read back. -/
theorem readsBack_nil_mapping : ReadsBack (.mapping []) := by
  intro level fuel depth rest _ hfuel
  have hchars : chars level (.mapping []) = ['\x7b', '\x7d'] := rfl
  rw [hchars] at hfuel ⊢
  obtain ⟨fuel, rfl⟩ : ∃ less, fuel = less + 1 :=
    Nat.exists_eq_add_of_le' (Nat.le_trans (by decide) hfuel)
  cases depth with
  | zero => exact gives_tooDeep (Or.inr rfl) _ _ _
  | succ depth =>
    exact ⟨fun _ => rfl, fun h => absurd (nesting_mapping_le_iff.mpr (List.forall_mem_nil _)) h⟩

/-- A list is read back if its items are. -/
theorem readsBack_list {item : Value} {more : List Value}
    (hplain : ∀ other ∈ item :: more, other.IsPlain)
    (hread : ∀ other ∈ item :: more, ReadsBack other) : ReadsBack (.list (item :: more)) := by
  intro level fuel depth rest _ hfuel
  have hitem : item.IsPlain := hplain item List.mem_cons_self
  rw [chars_list hitem] at hfuel ⊢
  simp only [List.length_cons, List.length_append] at hfuel
  obtain ⟨fuel, rfl⟩ : ∃ less, fuel = less + 1 := Nat.exists_eq_add_of_le' (by omega)
  cases depth with
  | zero => exact gives_tooDeep (Or.inl rfl) _ _ _
  | succ depth =>
    have hstart := startsValue_itemChars (level + 1) hitem more
      ((newline level).toList ++ ']' :: rest)
    have hend := endsNumber_gap level (']' :: rest)
    simp only [List.cons_append, List.append_assoc, List.nil_append]
    rw [readValue_list (isGap_newline (level + 1)) hstart, nesting_list_le_iff]
    exact readItems_itemChars (List.cons_ne_nil item more) hplain hread (isGap_newline level) hend
      (by omega) []

/-- A mapping from different texts is read back if its values are. -/
theorem readsBack_mapping {entry : Scalar × Value} {more : List (Scalar × Value)}
    (hkeys : HasTextKeys (entry :: more)) (hplain : ∀ other ∈ entry :: more, other.2.IsPlain)
    (hread : ∀ other ∈ entry :: more, ReadsBack other.2) :
    ReadsBack (.mapping (entry :: more)) := by
  intro level fuel depth rest _ hfuel
  obtain ⟨key, value⟩ := entry
  obtain ⟨name, rfl⟩ := hkeys.texts key List.mem_cons_self
  rw [chars_mapping] at hfuel ⊢
  simp only [List.length_cons, List.length_append] at hfuel
  obtain ⟨fuel, rfl⟩ : ∃ less, fuel = less + 1 := Nat.exists_eq_add_of_le' (by omega)
  cases depth with
  | zero => exact gives_tooDeep (Or.inr rfl) _ _ _
  | succ depth =>
    have hstart := startsValue_entryChars (level + 1) name value more
      ((newline level).toList ++ '\x7d' :: rest)
    have hend := endsNumber_gap level ('\x7d' :: rest)
    simp only [List.cons_append, List.append_assoc, List.nil_append]
    rw [readValue_mapping (isGap_newline (level + 1)) hstart, nesting_mapping_le_iff]
    exact readEntries_entryChars (List.cons_ne_nil _ more) hkeys.texts hplain hread
      (isGap_newline level) hend (by omega) hkeys.distinct

/-- A plain scalar is read back. -/
theorem readsBack_scalar {s : Scalar} (h : s.IsPlain) : ReadsBack (.scalar s) := by
  intro level fuel depth rest hrest hfuel
  have hpos := length_chars_pos level (.scalar h)
  obtain ⟨fuel, rfl⟩ : ∃ less, fuel = less + 1 := Nat.exists_eq_add_of_le' (by omega)
  rw [chars_scalar h]
  exact ⟨fun _ => readValue_scalarText h hrest fuel depth, fun h => absurd (Nat.zero_le _) h⟩

/-- A plain document is read back. -/
theorem readsBack {value : Value} (h : value.IsPlain) : ReadsBack value := by
  induction h with
  | scalar hs => exact readsBack_scalar hs
  | @list items hitems ih =>
    cases items with
    | nil => exact readsBack_nil_list
    | cons item more => exact readsBack_list hitems ih
  | @mapping entries hkeys hvalues ih =>
    cases entries with
    | nil => exact readsBack_nil_mapping
    | cons entry more => exact readsBack_mapping hkeys hvalues ih

/-- The text of a plain document, with nothing but spaces behind it, is read as this document if it is
not nested deeper than it may be, and otherwise something in it is found to be nested too deep. -/
theorem readDocument_chars {value : Value} (h : value.IsPlain) (depth : Nat) {gap : List Char}
    (hgap : IsGap gap) (hend : EndsNumber gap) :
    (value.nesting ≤ depth → readDocument depth (chars 0 value ++ gap) = .ok value) ∧
      (¬value.nesting ≤ depth →
        ∃ nested, readDocument depth (chars 0 value ++ gap) = .error (.tooDeep nested)) := by
  have hstart := startsValue_chars 0 h gap
  obtain ⟨hfits, hdeep⟩ := readsBack h 0 (2 * (chars 0 value ++ gap).length + 2) depth hend
    (by rw [List.length_append]; omega)
  refine ⟨fun hle => readDocument_of_readValue hstart hgap (hfits hle), fun hnot => ?_⟩
  obtain ⟨nested, hstop⟩ := hdeep hnot
  exact ⟨nested, readDocument_of_readValue_error hstart hstop⟩

end DistrictAtlas.Json
