import DistrictAtlas.Proofs.Rules.OwnTokens
import DistrictAtlas.Proofs.Rules.Ownership
import DistrictAtlas.Proofs.Rules.TokenSpellings

/-!
# The stems of marked codes

A single code is always trimmed. A code with a mark is trimmed together with its mark, and only then
the mark is taken away. So blanks between the code and the mark stay at the end of the stem, and what
is claimed is not the code but only what goes on behind these blanks. Every other stem is trimmed, and
its code has an owner.
-/

namespace DistrictAtlas

/-- The mark of a continuation is one character that tells its kind. It is neutral and not blank. -/
theorem TokenKind.exists_mark {kind : TokenKind} (h : kind ≠ .exact) :
    ∃ mark, kind.mark = [mark] ∧ Token.kindOfLast (some mark) = kind ∧
      Text.isBlank mark = false ∧ Text.isNeutral mark = true := by
  cases kind with
  | exact => exact absurd rfl h
  | letter => exact ⟨'+', by decide⟩
  | any => exact ⟨'*', by decide⟩

/-- A code with a mark as it stands in a cell, with blanks in front of the code, between the code and
the mark, and behind the mark. -/
structure MarkedCode where
  /-- What stands in front of the code. -/
  front : List Char
  /-- The code. -/
  code : List Char
  /-- What stands between the code and the mark. -/
  gap : List Char
  /-- What the mark says. -/
  kind : TokenKind
  /-- What stands behind the mark. -/
  back : List Char
  /-- There are only blanks in front of the code. -/
  blank_front : ∀ c ∈ front, Text.isBlank c = true
  /-- The code is not empty. -/
  code_ne_nil : code ≠ []
  /-- No blanks stand at the ends of the code. -/
  trim_code : Text.trimChars code = code
  /-- There are only blanks between the code and the mark. -/
  blank_gap : ∀ c ∈ gap, Text.isBlank c = true
  /-- There is a mark. -/
  kind_ne_exact : kind ≠ .exact
  /-- There are only blanks behind the mark. -/
  blank_back : ∀ c ∈ back, Text.isBlank c = true

namespace Token

/-- A token that is read has the code and the mark of what is read, in the form of tokens. -/
theorem tidy_eq_code_mark (text : String) :
    tidy text.toList = (read text).code.toList ++ (read text).kind.mark := by
  have htext : (read text).text = String.ofList (tidy text.toList) := rfl
  have hform := text_read_eq text
  rw [htext, ← String.toList_inj, String.toList_ofList, String.toList_append,
    String.toList_ofList] at hform
  exact hform

/-- What ends in the mark of a continuation, in the form of tokens, is read as one. -/
theorem read_marked {text code : String} {kind : TokenKind} (hkind : kind ≠ .exact)
    (h : tidy text.toList = code.toList ++ kind.mark) :
    read text = ⟨kind, code, code ++ String.ofList kind.mark⟩ := by
  obtain ⟨mark, hmark, htold, -, -⟩ := TokenKind.exists_mark hkind
  unfold read
  dsimp only
  rw [h, hmark, List.getLast?_concat, htold, if_neg hkind, List.dropLast_concat, String.ofList_append,
    String.ofList_toList]

/-- A code that a token fits begins with the code of the token. -/
theorem Fits.begins {token : Token} {code : List Char} (h : token.Fits code) :
    token.code.toList <+: code := by
  unfold Token.Fits at h
  split at h
  · exact h ▸ List.prefix_refl _
  · rcases h with rfl | ⟨letter, rest, -, -, rfl⟩
    · exact List.prefix_refl _
    · exact List.prefix_append _ _
  · exact h

end Token

namespace MarkedCode

variable (written : MarkedCode)

/-- All the characters of the part of a cell. -/
def chars : List Char :=
  written.front ++ (written.code ++ written.gap ++ written.kind.mark) ++ written.back

/-- The code in upper case with the blanks in front of the mark. -/
def stem : String := String.ofList (Text.upperChars written.code ++ written.gap)

/-- The claim to the stem. -/
def token : Token where
  kind := written.kind
  code := written.stem
  text := written.stem ++ String.ofList written.kind.mark

/-- The code begins with a character that is not blank, and so does all that goes on from it. -/
theorem not_isBlank_head (cs : List Char) {c : Char} (h : (written.code ++ cs).head? = some c) :
    Text.isBlank c = false := by
  obtain ⟨first, rest, hcode⟩ := List.exists_cons_of_ne_nil written.code_ne_nil
  have hfirst := ((Text.trimChars_eq_self_iff _).mp written.trim_code).1
  rw [hcode] at h hfirst
  exact hfirst c h

/-- Upper-casing leaves the blanks in front of the mark as they are. -/
theorem isUpper_gap : ∀ c ∈ written.gap, Text.IsUpper c := fun c hc =>
  Text.isUpper_of_isNeutral (Text.isNeutral_of_isBlank (written.blank_gap c hc))

/-- In the form of tokens only the outer blanks are gone. -/
theorem tidy_chars : Token.tidy written.chars = written.stem.toList ++ written.kind.mark := by
  obtain ⟨mark, hmark, -, hblank, hneutral⟩ := TokenKind.exists_mark written.kind_ne_exact
  have hends : Text.trimChars (written.code ++ written.gap ++ [mark]) =
      written.code ++ written.gap ++ [mark] := by
    refine (Text.trimChars_eq_self_iff _).mpr ⟨fun c hc => ?_, fun c hc => ?_⟩
    · rw [List.append_assoc] at hc
      exact written.not_isBlank_head _ hc
    · rw [List.getLast?_concat] at hc
      cases hc
      exact hblank
  have hupper : ∀ c ∈ written.gap ++ [mark], Text.IsUpper c :=
    List.forall_mem_append.mpr ⟨written.isUpper_gap,
      List.forall_mem_singleton.mpr (Text.isUpper_of_isNeutral hneutral)⟩
  rw [chars, stem, hmark, Token.tidy, Text.trimChars_padded written.blank_front _ written.blank_back,
    hends, List.append_assoc, Text.upperChars_append, Text.upperChars_eq_self hupper,
    String.toList_ofList, List.append_assoc]

/-- A marked code is read as the claim to its stem. -/
theorem read_chars : Token.read (String.ofList written.chars) = written.token := by
  refine Token.read_marked written.kind_ne_exact ?_
  rw [String.toList_ofList, tidy_chars]

/-- The stem is not empty. -/
theorem stem_ne_empty : written.stem ≠ "" := by
  intro hnone
  have hcode := (List.append_eq_nil_iff.mp (String.ofList_eq_empty_iff.mp hnone)).1
  exact written.code_ne_nil ((Text.upperChars_eq_nil_iff _).mp hcode)

/-- The stem is in upper case. -/
theorem upper_stem : Text.upper written.stem = written.stem := by
  have hfinal : ∀ c ∈ Text.upperChars written.code ++ written.gap, Text.IsUpper c :=
    List.forall_mem_append.mpr ⟨fun _ => Text.isUpper_of_mem_upperChars, written.isUpper_gap⟩
  rw [stem, Text.upper, String.toList_ofList, Text.upperChars_eq_self hfinal]

/-- The stem without the blanks at its ends is the code in upper case. -/
theorem trim_stem : Text.trim written.stem = String.ofList (Text.upperChars written.code) := by
  have hcode : Text.trimChars (Text.upperChars written.code ++ written.gap) =
      Text.upperChars written.code := by
    calc Text.trimChars (Text.upperChars written.code ++ written.gap)
        = Text.trimChars (Text.upperChars written.code) :=
          Text.trimChars_padded (List.forall_mem_nil _) _ written.blank_gap
      _ = Text.upperChars written.code := by rw [Text.trimChars_upperChars, written.trim_code]
  rw [stem, Text.trim, String.toList_ofList, hcode]

/-- The stem is trimmed exactly if the mark stands right behind the code. -/
theorem trim_stem_eq_iff : Text.trim written.stem = written.stem ↔ written.gap = [] := by
  rw [trim_stem, stem, String.ofList_inj, List.self_eq_append_right]

/-- The code alone is claimed exactly if the mark stands right behind it. -/
theorem fits_code_iff : written.token.Fits (Text.upperChars written.code) ↔ written.gap = [] := by
  have hstem : written.token.code.toList = Text.upperChars written.code ++ written.gap :=
    String.toList_ofList
  constructor
  · intro h
    -- the stem is no longer than a code that it fits
    have hlength := h.begins.length_le
    rw [hstem, List.length_append] at hlength
    exact List.length_eq_zero_iff.mp (by omega)
  · intro h
    rw [h, List.append_nil] at hstem
    rw [← hstem]
    exact written.token.fits_code

/-- A part of a cell that is read as a continuation of some code is a marked code. -/
theorem exists_chars_eq {part : List Char} (hkind : (Token.read (String.ofList part)).kind ≠ .exact)
    (hcode : (Token.read (String.ofList part)).code ≠ "") :
    ∃ written : MarkedCode, written.chars = part := by
  obtain ⟨mark, hmark, -, -, hneutral⟩ := TokenKind.exists_mark hkind
  have htidy := Token.tidy_eq_code_mark (String.ofList part)
  rw [String.toList_ofList, hmark] at htidy
  obtain ⟨body, htrimmed, hbody⟩ := Text.exists_of_upperChars_eq_concat hneutral htidy
  have hbodyNonempty : body ≠ [] := by
    rintro rfl
    exact hcode (String.toList_eq_nil_iff.mp hbody.symm)
  -- blanks in front of the code would be in front of the part
  have hhead : ∀ c, body.head? = some c → Text.isBlank c = false := by
    intro c hc
    have hfirst : (Text.trimChars part).head? = some c := by
      rw [htrimmed, List.head?_append, hc]
      rfl
    exact Text.not_isBlank_of_head?_trimChars hfirst
  obtain ⟨front, back, hpart, hfront, hback⟩ := Text.exists_trimChars part
  obtain ⟨gap, hgap, hgapBlank⟩ := Text.exists_trimChars_append hhead
  have hcodeNonempty : Text.trimChars body ≠ [] := by
    intro hnone
    obtain ⟨c, rest, rfl⟩ := List.exists_cons_of_ne_nil hbodyNonempty
    have hblank := List.all_eq_true.mp ((Text.trimChars_eq_nil_iff _).mp hnone) c List.mem_cons_self
    rw [hhead c rfl] at hblank
    cases hblank
  have hwhole : front ++ (Text.trimChars body ++ gap ++
      (Token.read (String.ofList part)).kind.mark) ++ back = part := by
    rw [hgap, hmark, ← htrimmed, ← hpart]
  exact ⟨⟨front, Text.trimChars body, gap, _, back, hfront, hcodeNonempty,
    Text.trimChars_trimChars body, hgapBlank, hkind, hback⟩, hwhole⟩

end MarkedCode

namespace Record

/-- The row has an id, and one of the parts of its cell of tokens is the marked code. -/
def Writes (record : Record) (written : MarkedCode) : Prop :=
  Text.trim record.id ≠ "" ∧ written.chars ∈ Token.partsOf record.tokens

instance (record : Record) (written : MarkedCode) : Decidable (record.Writes written) :=
  inferInstanceAs (Decidable
    (Text.trim record.id ≠ "" ∧ written.chars ∈ Token.partsOf record.tokens))

/-- The claims of a row are the parts of its cell that are read as tokens with a code. -/
theorem mem_claims_iff {record : Record} {claim : Claim} :
    claim ∈ record.claims ↔ Text.trim record.id ≠ "" ∧ ∃ part ∈ Token.partsOf record.tokens,
      (Token.read (String.ofList part)).code ≠ "" ∧
        claim = ⟨Text.trim record.id, Token.read (String.ofList part)⟩ := by
  unfold claims
  by_cases hid : Text.trim record.id = ""
  · rw [if_pos hid]
    exact iff_of_false List.not_mem_nil fun h => h.1 hid
  · rw [if_neg hid, and_iff_right hid, List.mem_map]
    constructor
    · rintro ⟨token, htoken, rfl⟩
      obtain ⟨hread, hcode⟩ := List.mem_filter.mp htoken
      obtain ⟨text, htext, rfl⟩ := List.mem_map.mp hread
      obtain ⟨part, hpart, -, rfl⟩ := Token.mem_texts_iff.mp htext
      rw [Token.read_tidy] at hcode ⊢
      exact ⟨part, hpart, of_decide_eq_true hcode, rfl⟩
    · rintro ⟨part, hpart, hcode, rfl⟩
      have hnonempty : Token.tidy part ≠ [] := by
        have hform := Token.tidy_eq_code_mark (String.ofList part)
        rw [String.toList_ofList] at hform
        intro hnone
        rw [hnone] at hform
        exact hcode (String.toList_eq_nil_iff.mp (List.append_eq_nil_iff.mp hform.symm).1)
      have htext := Token.mem_texts_iff.mpr ⟨part, hpart, hnonempty, rfl⟩
      exact ⟨_, List.mem_filter.mpr ⟨List.mem_map.mpr ⟨_, htext, Token.read_tidy part⟩,
        decide_eq_true hcode⟩, rfl⟩

end Record

namespace Rulebook

/-- The rules for the continuations of a kind. -/
def continuations (book : Rulebook) : TokenKind → List Rule
  | .exact => []
  | .letter => book.letter
  | .any => book.any

/-- The rules for the continuations of a kind are the claims of this kind. -/
theorem continuations_ofTerritories (declared : List Territory) (notices : List Notice)
    {kind : TokenKind} (h : kind ≠ .exact) :
    (ofTerritories declared notices).continuations kind = declared.flatMap (claims kind) := by
  cases kind with
  | exact => exact absurd rfl h
  | letter => rfl
  | any => rfl

variable (palette : Palette) (records : List Record)

/-- A single code that is claimed is in the form of tokens. -/
theorem isTidy_of_mem_exact {key : String}
    (h : key ∈ Entries.keys (ofRecords palette records).exact) : Token.IsTidy key := by
  unfold ofRecords ofTerritories at h
  dsimp only at h
  rw [Entries.keys_foldl_put, List.mem_eraseDups, flatMap_claims_addRows] at h
  obtain ⟨rule, hrule, rfl⟩ := List.mem_map.mp h
  obtain ⟨claim, hclaim, rfl⟩ := List.mem_map.mp hrule
  obtain ⟨hmem, hexact⟩ := List.mem_filter.mp hclaim
  obtain ⟨record, -, hclaimed⟩ := List.mem_flatMap.mp hmem
  obtain ⟨-, part, -, hcode, rfl⟩ := Record.mem_claims_iff.mp hclaimed
  have hkind : (Token.read (String.ofList part)).kind = .exact := of_decide_eq_true hexact
  have hform := Token.tidy_eq_code_mark (String.ofList part)
  rw [hkind, TokenKind.mark, List.append_nil, String.toList_ofList] at hform
  have hnonempty : Token.tidy part ≠ [] := by
    rw [hform]
    exact mt String.toList_eq_nil_iff.mp hcode
  have htidy := Token.isTidy_ofList_tidy hnonempty
  rwa [hform, String.ofList_toList] at htidy

/-- The rules for the continuations of a kind are the stems of the marked codes of this kind. -/
theorem mem_continuations_iff {kind : TokenKind} {rule : Rule} :
    rule ∈ (ofRecords palette records).continuations kind ↔
      ∃ record ∈ records, ∃ written : MarkedCode, record.Writes written ∧ written.kind = kind ∧
        rule = ⟨written.stem, Text.trim record.id⟩ := by
  by_cases hkind : kind = .exact
  · subst hkind
    refine iff_of_false List.not_mem_nil ?_
    rintro ⟨-, -, written, -, hexact, -⟩
    exact written.kind_ne_exact hexact
  · rw [ofRecords, continuations_ofTerritories _ _ hkind, flatMap_claims_addRows, List.mem_map]
    constructor
    · rintro ⟨claim, hclaim, rfl⟩
      obtain ⟨hmem, hsame⟩ := List.mem_filter.mp hclaim
      obtain ⟨record, hrecord, hclaimed⟩ := List.mem_flatMap.mp hmem
      obtain ⟨hid, part, hpart, hcode, rfl⟩ := Record.mem_claims_iff.mp hclaimed
      have hsame : (Token.read (String.ofList part)).kind = kind := of_decide_eq_true hsame
      obtain ⟨written, rfl⟩ := MarkedCode.exists_chars_eq (hsame ▸ hkind) hcode
      rw [written.read_chars] at hsame ⊢
      exact ⟨record, hrecord, written, ⟨hid, hpart⟩, hsame, rfl⟩
    · rintro ⟨record, hrecord, written, ⟨hid, hpart⟩, rfl, rfl⟩
      have hclaimed : ⟨Text.trim record.id, written.token⟩ ∈ record.claims := by
        rw [Record.mem_claims_iff, ← written.read_chars]
        refine ⟨hid, written.chars, hpart, ?_, rfl⟩
        rw [written.read_chars]
        exact written.stem_ne_empty
      exact ⟨_, List.mem_filter.mpr ⟨List.mem_flatMap.mpr ⟨record, hrecord, hclaimed⟩,
        decide_eq_true rfl⟩, rfl⟩

/-- A code with its mark right behind it has an owner. -/
theorem owner_ne_none_of_writes {record : Record} (hrecord : record ∈ records)
    {written : MarkedCode} (hwritten : record.Writes written) (hgap : written.gap = []) :
    (ofRecords palette records).owner? (String.ofList written.code) ≠ none := by
  have hrule : (⟨written.stem, Text.trim record.id⟩ : Rule) ∈
      (ofRecords palette records).continuations written.kind :=
    (mem_continuations_iff palette records).mpr ⟨record, hrecord, written, hwritten, rfl, rfl⟩
  rw [ofRecords, continuations_ofTerritories _ _ written.kind_ne_exact] at hrule
  obtain ⟨territory, hterritory, token, htoken, hkind, hsame⟩ := mem_flatMap_claims.mp hrule
  have hstem : written.stem = token.code := congrArg Rule.stem hsame
  have hfits : token.Fits (Text.upperChars written.code) := by
    have hown := written.fits_code_iff.mpr hgap
    unfold Token.Fits at hown ⊢
    rwa [hkind, ← hstem]
  refine owner_ne_none_of_fits hterritory htoken ?_
  rwa [Text.toList_upper, String.toList_ofList]

/-- The single codes in a rulebook are not empty, trimmed and in upper case. The rules for
continuations are the stems of the marked codes in the rows. Such a stem is not empty, in upper case,
and nothing but the trimmed stem and the blanks that stand in front of the mark. So it is trimmed
exactly if there are none, and just then the code alone fits it. When there are none, the code has an
owner. -/
theorem stems_trimmed_unless_gapped :
    (∀ key ∈ Entries.keys (ofRecords palette records).exact, Token.IsTidy key) ∧
      (∀ kind rule, rule ∈ (ofRecords palette records).continuations kind ↔
        ∃ record ∈ records, ∃ written : MarkedCode, record.Writes written ∧ written.kind = kind ∧
          rule = ⟨written.stem, Text.trim record.id⟩) ∧
      (∀ written : MarkedCode, written.stem ≠ "" ∧ Text.upper written.stem = written.stem ∧
        written.stem = Text.trim written.stem ++ String.ofList written.gap ∧
        (Text.trim written.stem = written.stem ↔ written.gap = []) ∧
        (written.token.Fits (Text.upperChars written.code) ↔ written.gap = [])) ∧
      ∀ record ∈ records, ∀ written : MarkedCode, record.Writes written → written.gap = [] →
        (ofRecords palette records).owner? (String.ofList written.code) ≠ none := by
  refine ⟨fun _ => isTidy_of_mem_exact palette records,
    fun _ _ => mem_continuations_iff palette records, fun written => ?_,
    fun _ hrecord _ => owner_ne_none_of_writes palette records hrecord⟩
  have hparts : written.stem = Text.trim written.stem ++ String.ofList written.gap := by
    rw [written.trim_stem, ← String.ofList_append, MarkedCode.stem]
  exact ⟨written.stem_ne_empty, written.upper_stem, hparts, written.trim_stem_eq_iff,
    written.fits_code_iff⟩

/-- A space is blank. -/
theorem blank_space : ∀ c ∈ [' '], Text.isBlank c = true := List.all_eq_true.mp rfl

/-- A code with a blank in front of its mark. -/
def gappedCode : MarkedCode where
  front := []
  code := ['W', '1']
  gap := [' ']
  kind := .letter
  back := []
  blank_front := List.forall_mem_nil _
  code_ne_nil := List.cons_ne_nil _ _
  trim_code := by decide
  blank_gap := blank_space
  kind_ne_exact := TokenKind.noConfusion
  blank_back := List.forall_mem_nil _

/-- A code with blanks around it and its mark right behind. -/
def closeCode : MarkedCode where
  front := [' ']
  code := ['e', 'c', '1']
  gap := []
  kind := .any
  back := [' ']
  blank_front := blank_space
  code_ne_nil := List.cons_ne_nil _ _
  trim_code := by decide
  blank_gap := List.forall_mem_nil _
  kind_ne_exact := TokenKind.noConfusion
  blank_back := blank_space

/-- A row with both of them. -/
def gappedRecord : Record := { id := "T1", tokens := "W1 +| ec1* " }

/-- The blank stays in the stem, and the code in front of it has no owner, while the other code has
one. -/
theorem gappedRecord_stems :
    gappedRecord.Writes gappedCode ∧ gappedRecord.Writes closeCode ∧
      (⟨"W1 ", "T1"⟩ : Rule) ∈ (ofRecords onePalette [gappedRecord]).letter ∧
      Text.trim "W1 " ≠ "W1 " ∧
      (ofRecords onePalette [gappedRecord]).owner? "W1" = none ∧
      (ofRecords onePalette [gappedRecord]).owner? "ec1" ≠ none := by
  obtain ⟨-, hrules, hstems, howners⟩ := stems_trimmed_unless_gapped onePalette [gappedRecord]
  have hgapped : gappedRecord.Writes gappedCode := by decide +kernel
  have hclose : gappedRecord.Writes closeCode := by decide +kernel
  have hmem : gappedRecord ∈ [gappedRecord] := List.mem_singleton_self _
  have hstem : gappedCode.stem = "W1 " := by decide +kernel
  obtain ⟨-, -, -, htrimmed, -⟩ := hstems gappedCode
  rw [hstem] at htrimmed
  refine ⟨hgapped, hclose, ?_, mt htrimmed.mp (by decide), by decide +kernel,
    howners gappedRecord hmem closeCode hclose rfl⟩
  exact (hrules .letter ⟨"W1 ", "T1"⟩).mpr
    ⟨gappedRecord, hmem, gappedCode, hgapped, rfl, by decide +kernel⟩

end Rulebook

end DistrictAtlas
