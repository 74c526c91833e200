import Mathlib.Data.List.Forall2
import DistrictAtlas.Proofs.Table.ColumnOrder
import DistrictAtlas.Proofs.Text.LowerForms

/-!
# Names in a header

A field takes the first column that has the earliest of its names in the header, and no two fields
take the same one, since they have no name in common. It makes no difference in which case names are
written, nor which blanks and marks of ASCII stand in them. A plain name can change by this: what
stands around a capital sigma decides how it is put in lower case. But the names of the fields have
no sigma, so no field is found by it or missed for it. Making a name plain twice is making it plain
once.
-/

namespace DistrictAtlas

namespace Text

/-- The code points of the blanks. -/
def blankCodes : List Nat :=
  List.range' 0x09 5 ++ List.range' 0x1C 5 ++ [0x85, 0xA0, 0x1680] ++ List.range' 0x2000 11 ++
    [0x2028, 0x2029, 0x202F, 0x205F, 0x3000]

/-- The blanks are the characters with these code points. -/
theorem mem_blankCodes {c : Char} (h : isBlank c = true) : c.toNat ∈ blankCodes := by
  simp only [isBlank, Bool.or_eq_true, Bool.and_eq_true, decide_eq_true_eq, beq_iff_eq] at h
  simp only [blankCodes, List.mem_append, List.mem_range'_1, List.mem_cons, List.not_mem_nil, or_false]
  omega

/-- Every blank is its own lower-case form, and none is a letter or digit. -/
theorem isLower_blankCodes : ∀ code ∈ blankCodes, IsLower (Char.ofNat code) ∧
    isAlphanumeric (Char.ofNat code) = false := by decide +kernel

/-- No blank is a letter or digit. -/
theorem not_isBlank_of_isAlphanumeric {c : Char} (h : isAlphanumeric c = true) :
    isBlank c = false := by
  rw [Bool.eq_false_iff]
  intro hblank
  have hcode := (isLower_blankCodes c.toNat (mem_blankCodes hblank)).2
  rw [Char.ofNat_toNat, h] at hcode
  cases hcode

/-- The two small forms of sigma are letters. -/
theorem isAlphanumeric_oneSigma (c : Char) : isAlphanumeric (oneSigma c) = isAlphanumeric c := by
  unfold oneSigma
  split
  · next hfinal =>
    rw [hfinal]
    decide +kernel
  · rfl

/-- The letters and digits that a character becomes in lower case. -/
def plainChar (c : Char) : List Char :=
  (lowerChar c).filter isAlphanumeric

/-- Nothing is left of a blank. -/
theorem plainChar_of_isBlank {c : Char} (h : isBlank c = true) : plainChar c = [] := by
  obtain ⟨hlower, hnone⟩ := isLower_blankCodes c.toNat (mem_blankCodes h)
  rw [Char.ofNat_toNat] at hlower hnone
  have hform : lowerChar c = [c] := hlower
  rw [plainChar, hform, List.filter_cons, hnone, if_neg Bool.false_ne_true, List.filter_nil]

/-- Within ASCII a character is judged by its small form. -/
theorem plainChar_of_ascii {c : Char} (hc : c.toNat < 0x80) :
    plainChar c = if c.isAlphanum then [c.toLower] else [] := by
  have hlower : lowerChar c = [c.toLower] := if_pos hc
  have hsmall : c.toLower.toNat < 0x80 :=
    of_ascii (p := fun c => c.toLower.toNat < 0x80) (by decide) hc
  have hsame : isAlphanumeric c.toLower = c.isAlphanum := by
    rw [isAlphanumeric, if_pos hsmall, isAlphanum_toLower]
  rw [plainChar, hlower, List.filter_cons, hsame, List.filter_nil]

/-- Characters that are the same in small letters of ASCII leave the same. -/
theorem plainChar_congr {c d : Char} (h : c.toLower = d.toLower) : plainChar c = plainChar d := by
  by_cases hc : c.toNat < 0x80
  · have hd : d.toNat < 0x80 := isAscii_of_toLower
      (h ▸ of_ascii (p := fun c => c.toLower.toNat < 0x80) (by decide) hc)
    rw [plainChar_of_ascii hc, plainChar_of_ascii hd, h, ← isAlphanum_toLower c, h,
      isAlphanum_toLower]
  · rw [toLower_of_not_ascii hc] at h
    have hd : ¬d.toNat < 0x80 := fun hd =>
      hc (h ▸ of_ascii (p := fun c => c.toLower.toNat < 0x80) (by decide) hd)
    rw [h, toLower_of_not_ascii hd]

end Text

namespace Table

/-- The characters of a plain name, with the two small forms of sigma taken for one, are made from
those of the name one by one. -/
theorem map_oneSigma_plainName (name : String) :
    (plainName name).toList.map Text.oneSigma =
      (name.toList.flatMap Text.plainChar).map Text.oneSigma := by
  have hsame : Text.isAlphanumeric ∘ Text.oneSigma = Text.isAlphanumeric :=
    funext Text.isAlphanumeric_oneSigma
  have hfilter : ∀ cs : List Char, (cs.filter Text.isAlphanumeric).map Text.oneSigma =
      (cs.map Text.oneSigma).filter Text.isAlphanumeric := by
    intro cs
    rw [List.filter_map, hsame]
  obtain ⟨front, back, hname, hfront, hback⟩ := Text.exists_trimChars name.toList
  have hnone : ∀ {cs : List Char}, (∀ c ∈ cs, Text.isBlank c = true) →
      cs.flatMap Text.plainChar = [] := fun hcs =>
    List.flatMap_eq_nil_iff.mpr fun c hc => Text.plainChar_of_isBlank (hcs c hc)
  calc (plainName name).toList.map Text.oneSigma
      = ((Text.lowerChars (Text.trimChars name.toList)).map Text.oneSigma).filter
          Text.isAlphanumeric := by rw [plainName, String.toList_ofList, hfilter]
    _ = (((Text.trimChars name.toList).flatMap Text.lowerChar).filter Text.isAlphanumeric).map
          Text.oneSigma := by rw [Text.map_oneSigma_lowerChars, hfilter]
    _ = ((Text.trimChars name.toList).flatMap Text.plainChar).map Text.oneSigma := by
        rw [List.filter_flatMap]
        rfl
    _ = (name.toList.flatMap Text.plainChar).map Text.oneSigma := by
        conv_rhs => rw [hname, List.flatMap_append, List.flatMap_append, hnone hfront, hnone hback,
          List.nil_append, List.append_nil]

/-- A name is written like another one: some letters of ASCII may be in the other case, and characters
of ASCII other than letters and digits may stand anywhere. -/
inductive WrittenLike : List Char → List Char → Prop
  /-- Nothing is left. -/
  | nil : WrittenLike [] []
  /-- A character stands for itself, a letter of ASCII also for the one in the other case. -/
  | keep {c d : Char} {cs ds : List Char} :
      c.toLower = d.toLower → WrittenLike cs ds → WrittenLike (c :: cs) (d :: ds)
  /-- A blank or a mark of ASCII is put in. -/
  | insert {d : Char} {cs ds : List Char} :
      d.toNat < 0x80 → d.isAlphanum = false → WrittenLike cs ds → WrittenLike cs (d :: ds)

/-- The same is left of a name that is written like another one. -/
theorem WrittenLike.flatMap_plainChar {cs ds : List Char} (h : WrittenLike cs ds) :
    ds.flatMap Text.plainChar = cs.flatMap Text.plainChar := by
  induction h with
  | nil => rfl
  | keep hchar _ ih => rw [List.flatMap_cons, List.flatMap_cons, ih, Text.plainChar_congr hchar]
  | insert hascii hnone _ ih =>
    rw [List.flatMap_cons, Text.plainChar_of_ascii hascii, hnone, if_neg Bool.false_ne_true,
      List.nil_append, ih]

/-- No name of a field has a sigma. -/
theorem sigma_not_mem_aliases (field : Field) : ∀ name ∈ field.aliases,
    Text.innerSigma ∉ (plainName name).toList ∧ Text.finalSigma ∉ (plainName name).toList := by
  cases field <;> decide +kernel

/-- Whether a cell goes by a name of a field is seen with the two small forms of sigma taken for
one. -/
theorem plainName_eq_iff {field : Field} {name : String} (hname : name ∈ field.aliases)
    (cell : String) : plainName cell = plainName name ↔
      (cell.toList.flatMap Text.plainChar).map Text.oneSigma = (plainName name).toList := by
  obtain ⟨hinner, hfinal⟩ := sigma_not_mem_aliases field name hname
  rw [← map_oneSigma_plainName, Text.map_oneSigma_eq_iff hinner hfinal, String.toList_inj]

/-- Cell by cell, a header is written like another one. -/
def HeaderLike (header header' : List String) : Prop :=
  List.Forall₂ (fun cell cell' => WrittenLike cell.toList cell'.toList) header header'

/-- A name of a field is found at the same place in a header that is written like another one. -/
theorem findIdx?_of_headerLike {header header' : List String} (h : HeaderLike header header')
    {field : Field} {name : String} (hname : name ∈ field.aliases) :
    (header'.map plainName).findIdx? (· = plainName name) =
      (header.map plainName).findIdx? (· = plainName name) := by
  induction h with
  | nil => rfl
  | @cons cell cell' _ _ hcell _ ih =>
    have hsame : plainName cell' = plainName name ↔ plainName cell = plainName name := by
      rw [plainName_eq_iff hname, plainName_eq_iff hname, hcell.flatMap_plainChar]
    rw [List.map_cons, List.map_cons, List.findIdx?_cons, List.findIdx?_cons, ih,
      decide_eq_decide.mpr hsame]

/-- Names that are found at the same places give the same column. -/
theorem findColumn_congr {header header' names : List String}
    (h : ∀ name ∈ names, header'.findIdx? (· = name) = header.findIdx? (· = name)) :
    findColumn header' names = findColumn header names := by
  induction names with
  | nil => rfl
  | cons name rest ih =>
    obtain ⟨hname, hrest⟩ := List.forall_mem_cons.mp h
    rw [findColumn, findColumn, hname, ih hrest]

/-- A field takes the same column in a header that is written like another one. -/
theorem column?_of_headerLike {header header' : List String} (h : HeaderLike header header')
    (field : Field) :
    column? (header'.map plainName) field = column? (header.map plainName) field := by
  refine findColumn_congr fun plain hplain => ?_
  obtain ⟨name, hname, rfl⟩ := List.mem_map.mp hplain
  exact findIdx?_of_headerLike h hname

/-- A header that is written like another one has the same columns. -/
theorem columns_of_headerLike {header header' : List String} (h : HeaderLike header header') :
    columns header' = columns header := by
  unfold columns
  simp only [column?_of_headerLike h]

/-- The column is the first one that goes by a name of the field, and no column goes by an earlier name
of the field. -/
def IsFirstColumn (header : List String) (field : Field) (index : Nat) : Prop :=
  ∃ earlier name later, field.aliases = earlier ++ name :: later ∧
    (∀ other ∈ earlier, ∀ cell ∈ header, plainName cell ≠ plainName other) ∧
    (∃ cell, header[index]? = some cell ∧ plainName cell = plainName name) ∧
    ∀ before cell, before < index → header[before]? = some cell → plainName cell ≠ plainName name

/-- A plain name is found where a cell goes by it and none in front of it does. -/
theorem findIdx?_plainName_eq_some_iff (header : List String) (name : String) (index : Nat) :
    (header.map plainName).findIdx? (· = plainName name) = some index ↔
      (∃ cell, header[index]? = some cell ∧ plainName cell = plainName name) ∧
      ∀ before cell, before < index → header[before]? = some cell →
        plainName cell ≠ plainName name := by
  rw [List.findIdx?_map, List.findIdx?_eq_some_iff_getElem]
  simp only [Function.comp_apply, decide_eq_true_eq]
  constructor
  · rintro ⟨hindex, hname, hbefore⟩
    refine ⟨⟨header[index], List.getElem?_eq_getElem hindex, hname⟩, ?_⟩
    intro before cell hless hcell
    obtain ⟨-, rfl⟩ := List.getElem?_eq_some_iff.mp hcell
    exact hbefore before hless
  · rintro ⟨⟨cell, hcell, hname⟩, hbefore⟩
    obtain ⟨hindex, rfl⟩ := List.getElem?_eq_some_iff.mp hcell
    refine ⟨hindex, hname, fun before hless => ?_⟩
    exact hbefore before _ hless (List.getElem?_eq_getElem (hless.trans hindex))

/-- A plain name is not found where no cell goes by it. -/
theorem findIdx?_plainName_eq_none_iff (header : List String) (name : String) :
    (header.map plainName).findIdx? (· = plainName name) = none ↔
      ∀ cell ∈ header, plainName cell ≠ plainName name := by
  rw [List.findIdx?_eq_none_iff]
  simp only [List.mem_map, forall_exists_index, and_imp, forall_apply_eq_imp_iff₂,
    decide_eq_false_iff_not]

/-- A field takes the first column that has the earliest of its names. -/
theorem column?_eq_some_iff (header : List String) (field : Field) (index : Nat) :
    column? (header.map plainName) field = some index ↔ IsFirstColumn header field index := by
  unfold column? IsFirstColumn
  rw [findColumn_eq, List.findSome?_map, List.findSome?_eq_some_iff]
  constructor
  · rintro ⟨earlier, name, later, hnames, hfound, hnone⟩
    obtain ⟨hcell, hbefore⟩ := (findIdx?_plainName_eq_some_iff header name index).mp hfound
    refine ⟨earlier, name, later, hnames, fun other hother => ?_, hcell, hbefore⟩
    exact (findIdx?_plainName_eq_none_iff header other).mp (hnone other hother)
  · rintro ⟨earlier, name, later, hnames, hnone, hcell, hbefore⟩
    refine ⟨earlier, name, later, hnames, ?_, fun other hother => ?_⟩
    · exact (findIdx?_plainName_eq_some_iff header name index).mpr ⟨hcell, hbefore⟩
    · exact (findIdx?_plainName_eq_none_iff header other).mpr (hnone other hother)

/-- Every field is listed. -/
theorem mem_all (field : Field) : field ∈ Field.all := by cases field <;> decide

/-- No two fields have a name in common. -/
theorem eq_of_plainName_eq : ∀ field ∈ Field.all, ∀ other ∈ Field.all, ∀ name ∈ field.aliases,
    ∀ name' ∈ other.aliases, plainName name = plainName name' → field = other := by
  decide +kernel

/-- No two fields take the same column. -/
theorem IsFirstColumn.eq {header : List String} {field other : Field} {index : Nat}
    (h : IsFirstColumn header field index) (hother : IsFirstColumn header other index) :
    field = other := by
  obtain ⟨earlier, name, later, hnames, -, ⟨cell, hcell, hname⟩, -⟩ := h
  obtain ⟨earlier', name', later', hnames', -, ⟨cell', hcell', hname'⟩, -⟩ := hother
  have hsame : cell = cell' := Option.some.inj (hcell.symm.trans hcell')
  have hmem : name ∈ field.aliases := by
    rw [hnames]
    exact List.mem_append_right earlier List.mem_cons_self
  have hmem' : name' ∈ other.aliases := by
    rw [hnames']
    exact List.mem_append_right earlier' List.mem_cons_self
  exact eq_of_plainName_eq field (mem_all field) other (mem_all other) name hmem name' hmem'
    (hname.symm.trans (hsame ▸ hname'))

/-- The first column of a field is one of the columns. -/
theorem IsFirstColumn.lt_length {header : List String} {field : Field} {index : Nat}
    (h : IsFirstColumn header field index) : index < header.length := by
  obtain ⟨_, _, _, -, -, ⟨cell, hcell, -⟩, -⟩ := h
  exact (List.getElem?_eq_some_iff.mp hcell).1

/-- Making a name plain twice is making it plain once. -/
theorem plainName_plainName (name : String) : plainName (plainName name) = plainName name := by
  have hkept : ∀ c ∈ (plainName name).toList,
      Text.IsLower c ∧ Text.isAlphanumeric c = true ∧ Text.isBlank c = false := by
    intro c hc
    rw [plainName, String.toList_ofList] at hc
    obtain ⟨hlower, halphanumeric⟩ := List.mem_filter.mp hc
    exact ⟨Text.isLower_of_mem_lowerChars hlower, halphanumeric,
      Text.not_isBlank_of_isAlphanumeric halphanumeric⟩
  have htrimmed : Text.trimChars (plainName name).toList = (plainName name).toList :=
    (Text.trimChars_eq_self_iff _).mpr ⟨fun c hc => (hkept c (List.mem_of_head? hc)).2.2,
      fun c hc => (hkept c (List.mem_of_getLast? hc)).2.2⟩
  have hlower : Text.lowerChars (plainName name).toList = (plainName name).toList :=
    Text.lowerChars_eq_self fun c hc => (hkept c hc).1
  have hfilter : (plainName name).toList.filter Text.isAlphanumeric = (plainName name).toList :=
    List.filter_eq_self.mpr fun c hc => (hkept c hc).2.1
  rw [plainName, htrimmed, hlower, hfilter, String.ofList_toList]

/-- What columns a header gives to the fields. A field has one exactly if some cell goes by one of its
names, and it is the first column that goes by the earliest of its names in the header. No two fields
have the same column, and every column is one of the header. Letters of ASCII in the other case, and
blanks and marks of ASCII put into cells, change nothing. And making a name plain, by which names are
compared, changes no plain name. -/
theorem columns_by_earliest_names (header : List String) :
    (∀ field, (∃ index, Entries.get? field (columns header) = some index) ↔
        ∃ cell ∈ header, IsNameOf field cell) ∧
      (∀ field index, Entries.get? field (columns header) = some index ↔
        IsFirstColumn header field index) ∧
      (∀ field other index, Entries.get? field (columns header) = some index →
        Entries.get? other (columns header) = some index → field = other) ∧
      (∀ field index, Entries.get? field (columns header) = some index → index < header.length) ∧
      (∀ header', HeaderLike header header' → columns header' = columns header) ∧
      ∀ name, plainName (plainName name) = plainName name := by
  have hfirst : ∀ field index, Entries.get? field (columns header) = some index ↔
      IsFirstColumn header field index := by
    intro field index
    rw [get?_columns, column?_eq_some_iff]
  refine ⟨?_, hfirst, ?_, ?_, fun header' => columns_of_headerLike, plainName_plainName⟩
  · intro field
    rw [← Option.isSome_iff_exists, get?_columns, isSome_column?_iff]
  · intro field other index hfield hother
    exact ((hfirst field index).mp hfield).eq ((hfirst other index).mp hother)
  · intro field index hfield
    exact ((hfirst field index).mp hfield).lt_length

/-- A header with a capital sigma inside a word. -/
def sigmaHeader : List String := ["ΑΣΑ", "id"]

/-- The same header written otherwise, with the sigma at the end of a word. -/
def gappedHeader : List String := ["ΑΣ Α", "I_D"]

/-- It is written like the other one. -/
theorem headerLike_gappedHeader : HeaderLike sigmaHeader gappedHeader := by
  have hword : WrittenLike "ΑΣΑ".toList "ΑΣ Α".toList :=
    .keep rfl (.keep rfl (.insert (by decide) rfl (.keep rfl .nil)))
  have hid : WrittenLike "id".toList "I_D".toList :=
    .keep (by decide) (.insert (by decide) rfl (.keep (by decide) .nil))
  exact .cons hword (.cons hid .nil)

/-- The plain name of the first cell changes with the sigma, and the columns stay as they are. -/
theorem gappedHeader_columns :
    HeaderLike sigmaHeader gappedHeader ∧ plainName "ΑΣ Α" ≠ plainName "ΑΣΑ" ∧
      columns gappedHeader = columns sigmaHeader ∧
      Entries.get? .id (columns sigmaHeader) = some 1 ∧ IsFirstColumn sigmaHeader .id 1 := by
  obtain ⟨-, hfirst, -, -, hlike, -⟩ := columns_by_earliest_names sigmaHeader
  have hchanged : plainName "ΑΣ Α" ≠ plainName "ΑΣΑ" := by decide +kernel
  have hid : Entries.get? .id (columns sigmaHeader) = some 1 := by decide +kernel
  exact ⟨headerLike_gappedHeader, hchanged, hlike gappedHeader headerLike_gappedHeader, hid,
    (hfirst .id 1).mp hid⟩

end Table

end DistrictAtlas
