import DistrictAtlas.Fetch.Payload
import DistrictAtlas.Proofs.Text.Cutting
import DistrictAtlas.Proofs.Text.LowerForms
import DistrictAtlas.Proofs.Text.Tidying
import DistrictAtlas.Proofs.Text.Utf8

/-!
# Responses in UTF-8

A table in the body of a response is read as UTF-8 when the response does not say what kind of content
it has, when it says nothing about a character set, and when it names UTF-8. Names count in any case
and with or without quotes. In none of these cases does the library find an error in the headers.
-/

namespace DistrictAtlas

namespace Charset

/-- The case of a name does not matter. -/
theorem tidy_toLower (cs : List Char) :
    tidy (String.ofList (cs.map Char.toLower)) = tidy (String.ofList cs) := by
  unfold tidy
  simp only [String.toList_ofList, List.foldl_map, Text.isAlphanum_toLower, Text.toLower_toLower,
    Text.toLower_eq_point_iff]

/-- The name of UTF-8. -/
def utf8Name : List Char := "utf-8".toList

/-- It is the name of UTF-8. -/
theorem named?_utf8Name : named? (String.ofList utf8Name) = some .utf8 := by decide +kernel

/-- By the name of UTF-8 in any case bytes are read as UTF-8. -/
theorem readNamed_of_utf8Name {name : List Char} (hname : name.map Char.toLower = utf8Name)
    (bytes : Bytes) : readNamed (String.ofList name) bytes = .ok (Utf8.decodeLenient bytes) := by
  have htidy : tidy (String.ofList name) = tidy (String.ofList utf8Name) := by
    rw [← hname, tidy_toLower]
  have hnamed : named? (String.ofList name) = some .utf8 := by
    rw [← named?_utf8Name]
    unfold named?
    rw [htidy]
  have hnull : Char.ofNat 0 ∉ name := by
    intro hmem
    have hlower : (Char.ofNat 0).toLower ∈ utf8Name := by
      rw [← hname]
      exact List.mem_map_of_mem hmem
    exact absurd hlower (by decide)
  have hrefusal : refusal? (String.ofList name) = none := by
    unfold refusal?
    rw [String.toList_ofList, if_neg fun h => hnull (List.contains_iff_mem.mp h), htidy]
    rfl
  unfold readNamed
  split
  · next hempty =>
    rw [List.isEmpty_iff.mp hempty, ← Utf8.encode_empty, Utf8.decodeLenient_encode]
  · rw [hrefusal, hnamed]
    rfl

end Charset

namespace Response

/-- A text holds another one exactly if this stands somewhere in it. -/
theorem holds_iff (part cs : List Char) : holds part cs = true ↔ part <:+: cs := by
  induction cs with
  | nil => rw [holds, List.isEmpty_iff, List.infix_nil]
  | cons c rest ih => rw [holds, Bool.or_eq_true, List.isPrefixOf_iff_prefix, ih, List.infix_cons_iff]

/-- What is left of characters when those around them are dropped at both ends. -/
theorem dropWhile_both {p : Char → Bool} (front : List Char) {core : List Char} (back : List Char)
    (hcore : core ≠ []) (hfront : ∀ c ∈ front, p c = true)
    (hkept : ∀ c ∈ core, p c = false) (hback : ∀ c ∈ back, p c = true) :
    (((front ++ core ++ back).dropWhile p).reverse.dropWhile p).reverse = core := by
  have hstop : ∀ cs behind : List Char, cs ≠ [] → (∀ c ∈ cs, p c = false) →
      (cs ++ behind).dropWhile p = cs ++ behind := by
    intro cs behind hcs hfalse
    obtain ⟨c, rest, rfl⟩ := List.exists_cons_of_ne_nil hcs
    rw [List.cons_append, List.dropWhile_cons, hfalse c List.mem_cons_self,
      if_neg Bool.false_ne_true]
  have hlast : core.reverse.dropWhile p = core.reverse := by
    have h := hstop core.reverse [] (mt List.reverse_eq_nil_iff.mp hcore)
      fun c hc => hkept c (List.mem_reverse.mp hc)
    rwa [List.append_nil] at h
  rw [List.append_assoc, List.dropWhile_append_of_pos hfront, hstop core back hcore hkept,
    List.reverse_append,
    List.dropWhile_append_of_pos fun c hc => hback c (List.mem_reverse.mp hc), hlast,
    List.reverse_reverse]

/-- Nothing is dropped at the ends of characters none of which is to be dropped. -/
theorem stripChars_of_kept {ends core : List Char} (hcore : core ≠ [])
    (hkept : ∀ c ∈ core, ends.contains c = false) : stripChars ends core = core := by
  have h := dropWhile_both [] [] hcore nofun hkept nofun
  rwa [List.nil_append, List.append_nil] at h

/-- The name of the parameter that names a character set. -/
def charsetName : List Char := "charset".toList

/-- A parameter that names UTF-8, as it may be written: name and value in any case, the value in quotes
or not, and blanks around the whole. -/
structure Utf8Parameter where
  /-- What stands in front. -/
  front : List Char
  /-- The name as it is written. -/
  name : List Char
  /-- The quote on both sides of the value, if there are any. -/
  quote : List Char
  /-- The value as it is written. -/
  value : List Char
  /-- What stands behind. -/
  back : List Char
  /-- There are blanks in front. -/
  front_blank : ∀ c ∈ front, Text.isBlank c = true
  /-- The name is that of the parameter. -/
  name_eq : name.map Char.toLower = charsetName
  /-- The quotes are of one kind or the other. -/
  quote_mem : quote ∈ [[], ['"'], ['\'']]
  /-- The value is the name of UTF-8. -/
  value_eq : value.map Char.toLower = Charset.utf8Name
  /-- There are blanks behind. -/
  back_blank : ∀ c ∈ back, Text.isBlank c = true

/-- The written form of the parameter without the blanks around it. -/
def Utf8Parameter.core (parameter : Utf8Parameter) : List Char :=
  parameter.name ++ '=' :: (parameter.quote ++ parameter.value ++ parameter.quote)

/-- The written form of the parameter. -/
def Utf8Parameter.chars (parameter : Utf8Parameter) : List Char :=
  parameter.front ++ parameter.core ++ parameter.back

/-- The parameters of a content type name UTF-8; where more than one is for the character set, with a
value or without, the last one does. -/
def NamesUtf8 (contentType : String) : Prop :=
  ∃ (kind : List Char) (before : List (List Char)) (parameter : Utf8Parameter)
    (behind : List (List Char)),
    Text.splitChars ';' contentType.toList = kind :: (before ++ parameter.chars :: behind) ∧
      ∀ other ∈ behind, (Response.parameter (Text.trimChars other)).1 ≠ charsetName

/-- A response leaves it at UTF-8: it does not tell the type of its content, or says nothing about a
character set there, or names UTF-8. -/
def LeavesUtf8 (response : Response) : Prop :=
  (∀ header ∈ response.headers, Text.lower header.1 ≠ "content-type") ∨
    ¬charsetName <:+: (Text.lower response.contentType).toList ∨
    NamesUtf8 response.contentType

/-- A character stays where blanks or quotes are dropped, and does not end a name. -/
structure IsKept (c : Char) : Prop where
  /-- It is no blank. -/
  blank : Text.isBlank c = false
  /-- It is neither quote nor space. -/
  margin : ['"', '\'', ' '].contains c = false
  /-- It is no quote. -/
  quote : ['"', '\''].contains c = false
  /-- It does not stand between name and value. -/
  sign : c ≠ '='

/-- The characters of name and value, in any case, stay. -/
theorem isKept_of_toLower {c : Char} (h : c.toLower ∈ charsetName ++ Charset.utf8Name) :
    IsKept c := by
  have hletters : ∀ c ∈ charsetName ++ Charset.utf8Name, c.toNat < 0x80 :=
    Text.isAscii_of_all (by decide)
  have hascii : c.toNat < 0x80 := Text.isAscii_of_toLower (hletters _ h)
  have hall := Text.of_ascii (p := fun c => c.toLower ∈ charsetName ++ Charset.utf8Name →
    Text.isBlank c = false ∧ ['"', '\'', ' '].contains c = false ∧
      ['"', '\''].contains c = false ∧ c ≠ '=') (by decide) hascii
  obtain ⟨hblank, hmargin, hquote, hsign⟩ := hall h
  exact ⟨hblank, hmargin, hquote, hsign⟩

namespace Utf8Parameter

variable (parameter : Utf8Parameter)

/-- The characters of the name stay. -/
theorem isKept_name {c : Char} (h : c ∈ parameter.name) : IsKept c := by
  apply isKept_of_toLower
  rw [← parameter.name_eq]
  exact List.mem_append_left _ (List.mem_map_of_mem h)

/-- The characters of the value stay. -/
theorem isKept_value {c : Char} (h : c ∈ parameter.value) : IsKept c := by
  apply isKept_of_toLower
  rw [← parameter.value_eq]
  exact List.mem_append_right _ (List.mem_map_of_mem h)

/-- The quotes are no blanks, but quotes. -/
theorem quote_dropped {c : Char} (h : c ∈ parameter.quote) :
    Text.isBlank c = false ∧ ['"', '\'', ' '].contains c = true := by
  have hall : ∀ quote ∈ [[], ['"'], ['\'']],
      quote.all (fun c => !Text.isBlank c && ['"', '\'', ' '].contains c) = true := by decide
  have hquote := List.all_eq_true.mp (hall _ parameter.quote_mem) c h
  rwa [Bool.and_eq_true, Bool.not_eq_true'] at hquote

/-- There is a name. -/
theorem name_ne_nil : parameter.name ≠ [] := by
  intro h
  have hname := parameter.name_eq
  rw [h] at hname
  exact absurd hname (by decide)

/-- There is a value. -/
theorem value_ne_nil : parameter.value ≠ [] := by
  intro h
  have hvalue := parameter.value_eq
  rw [h] at hvalue
  exact absurd hvalue (by decide)

/-- Trimming leaves the parameter. -/
theorem trimChars_chars : Text.trimChars parameter.chars = parameter.core := by
  have hcore : parameter.core ≠ [] :=
    List.append_ne_nil_of_left_ne_nil parameter.name_ne_nil _
  refine dropWhile_both _ _ hcore parameter.front_blank (fun c hc => ?_) parameter.back_blank
  rcases List.mem_append.mp hc with hname | hrest
  · exact (parameter.isKept_name hname).blank
  · rcases List.mem_cons.mp hrest with rfl | hrest
    · decide
    · rcases List.mem_append.mp hrest with hrest | hquote
      · rcases List.mem_append.mp hrest with hquote | hvalue
        · exact (parameter.quote_dropped hquote).1
        · exact (parameter.isKept_value hvalue).blank
      · exact (parameter.quote_dropped hquote).1

/-- The name is put in lower case. -/
theorem lowerChars_name : Text.lowerChars parameter.name = charsetName := by
  rw [← parameter.name_eq]
  have hascii : ∀ c ∈ charsetName, c.toNat < 0x80 := Text.isAscii_of_all (by decide)
  exact Text.lowerChars_of_ascii (Text.isAscii_of_map_toLower hascii parameter.name_eq)

/-- The parameter is read: its name is the expected one, and its value comes without quotes. -/
theorem parameter_chars : Response.parameter (Text.trimChars parameter.chars) =
    (charsetName, some parameter.value) := by
  have hbefore : ∀ c ∈ parameter.name, decide (c ≠ '=') = true :=
    fun c hc => decide_eq_true (parameter.isKept_name hc).sign
  have hname : stripChars ['"', '\'', ' '] parameter.name = parameter.name :=
    stripChars_of_kept parameter.name_ne_nil fun c hc => (parameter.isKept_name hc).margin
  have hvalue : stripChars ['"', '\'', ' ']
      (parameter.quote ++ parameter.value ++ parameter.quote) = parameter.value :=
    dropWhile_both _ _ parameter.value_ne_nil (fun c hc => (parameter.quote_dropped hc).2)
      (fun c hc => (parameter.isKept_value hc).margin)
      (fun c hc => (parameter.quote_dropped hc).2)
  rw [trimChars_chars, core, Response.parameter, List.dropWhile_append_of_pos hbefore,
    List.takeWhile_append_of_pos hbefore, List.dropWhile_cons_of_neg (by decide),
    List.takeWhile_cons_of_neg (by decide), List.append_nil]
  dsimp only
  rw [hname, hvalue, parameter.lowerChars_name]

end Utf8Parameter

/-- Parameters with other names behind it leave it the last one for the character set. -/
theorem charsetValues_of_last (before : List (List Char)) (parameter : Utf8Parameter)
    {behind : List (List Char)}
    (hbehind : ∀ other ∈ behind, (Response.parameter (Text.trimChars other)).1 ≠ charsetName) :
    charsetValues (before ++ parameter.chars :: behind) =
      charsetValues before ++ [some parameter.value] := by
  have hnone : ((behind.map fun cs => Response.parameter (Text.trimChars cs)).filter fun entry =>
      entry.1 = "charset".toList) = [] := by
    refine List.filter_eq_nil_iff.mpr fun entry hentry hname => ?_
    obtain ⟨other, hother, rfl⟩ := List.mem_map.mp hentry
    exact hbehind other hother (of_decide_eq_true hname)
  have hself : decide (charsetName = "charset".toList) = true := by decide
  unfold charsetValues
  rw [List.map_append, List.map_cons, parameter.parameter_chars, List.filter_append,
    List.filter_cons, hself, if_pos rfl, hnone, List.map_append]
  rfl

/-- The last parameter that names a character set decides. -/
theorem charsetName?_of_last (before : List (List Char)) (parameter : Utf8Parameter)
    {behind : List (List Char)}
    (hbehind : ∀ other ∈ behind, (Response.parameter (Text.trimChars other)).1 ≠ charsetName) :
    charsetName? (before ++ parameter.chars :: behind) =
      some (String.ofList parameter.value) := by
  have hvalue : stripChars ['"', '\''] parameter.value = parameter.value :=
    stripChars_of_kept parameter.value_ne_nil fun c hc => (parameter.isKept_value hc).quote
  have hlast : ([some parameter.value].filterMap id) = [parameter.value] := rfl
  unfold charsetName?
  dsimp only
  rw [charsetValues_of_last before parameter hbehind, List.filterMap_append, hlast,
    List.getLast?_concat, Option.map_some, hvalue]

/-- Where the type of the content is not told, nothing is read of it. -/
theorem contentType_of_absent {response : Response}
    (h : ∀ header ∈ response.headers, Text.lower header.1 ≠ "content-type") :
    response.contentType = "" := by
  have hnone : (response.headers.filter fun header => Text.lower header.1 = "content-type") = [] :=
    List.filter_eq_nil_iff.mpr fun header hheader hname => h header hheader (of_decide_eq_true hname)
  rw [contentType, hnone]
  rfl

/-- A parameter for the character set without a value stands in the type of the content as the word in
some case. -/
theorem infix_of_hasBareCharset {response : Response} (h : response.hasBareCharset = true) :
    charsetName <:+: (Text.lower response.contentType).toList := by
  have hlast := List.mem_of_getLast? (of_decide_eq_true h)
  obtain ⟨⟨name, value⟩, hentry, hvalue⟩ := List.mem_map.mp hlast
  obtain ⟨hentry, hname⟩ := List.mem_filter.mp hentry
  obtain ⟨part, hpart, hparameter⟩ := List.mem_map.mp hentry
  have hlower : Text.lowerChars (Text.trimChars part) = charsetName := by
    unfold Response.parameter at hparameter
    split at hparameter
    · exact (congrArg Prod.fst hparameter).trans (of_decide_eq_true hname)
    · cases (congrArg Prod.snd hparameter).trans hvalue
  have hwhole : Text.trimChars part <:+: response.contentType.toList :=
    (Text.trimChars_infix part).trans
      (Text.infix_of_mem_splitChars (List.mem_of_mem_tail hpart))
  have hinfix := Text.infix_lowerChars hwhole (by rw [hlower]; decide) (by rw [hlower]; decide)
  rw [hlower] at hinfix
  rwa [Text.toList_lower]

/-- A response that leaves it at UTF-8 has no parameter for the character set that lacks its value, or
another one comes behind it. -/
theorem hasBareCharset_of_leavesUtf8 {response : Response} (h : response.LeavesUtf8) :
    response.hasBareCharset = false := by
  rw [← Bool.not_eq_true]
  intro hbare
  rcases h with habsent | hsilent | ⟨kind, before, parameter, behind, hparts, hbehind⟩
  · have hinfix := infix_of_hasBareCharset hbare
    rw [contentType_of_absent habsent] at hinfix
    exact absurd (List.infix_nil.mp hinfix) (by decide)
  · exact hsilent (infix_of_hasBareCharset hbare)
  · rw [hasBareCharset, hparts, List.tail_cons, charsetValues_of_last before parameter hbehind,
      List.getLast?_concat] at hbare
    cases Option.some.inj (of_decide_eq_true hbare)

/-- The body of a response that leaves it at UTF-8 is read as UTF-8. -/
theorem text_of_leavesUtf8 {response : Response} (h : response.LeavesUtf8) :
    response.text = .ok (Utf8.decodeLenient response.body) := by
  have hplain : ∀ name : List Char, name.map Char.toLower = Charset.utf8Name →
      response.textIn (String.ofList name) = .ok (Utf8.decodeLenient response.body) :=
    fun _ hname => Charset.readNamed_of_utf8Name hname response.body
  have hunnamed : response.textIn "utf-8" = .ok (Utf8.decodeLenient response.body) :=
    hplain Charset.utf8Name (by decide)
  unfold text
  split
  · next hholds =>
    have hinfix := (holds_iff _ _).mp hholds
    rcases h with habsent | hsilent | ⟨kind, before, parameter, behind, hparts, hbehind⟩
    · rw [contentType_of_absent habsent] at hinfix
      exact absurd (List.infix_nil.mp hinfix) (by decide)
    · exact absurd hinfix hsilent
    · rw [charsetOf, hparts]
      dsimp only
      rw [charsetName?_of_last before parameter hbehind]
      exact hplain parameter.value parameter.value_eq
  · exact hunnamed

end Response

end DistrictAtlas
