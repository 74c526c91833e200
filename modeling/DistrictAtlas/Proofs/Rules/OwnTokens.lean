import Mathlib.Data.List.Nodup
import DistrictAtlas.Proofs.Rules.Coherence
import DistrictAtlas.Proofs.Rules.Continuation
import DistrictAtlas.Proofs.Text.UpperCase

/-!
# Owners and their tokens

The three tables of a rulebook are nothing but the tokens of the declared territories: a code has an
owner exactly if a token of some declared territory fits it. Every token fits its own code, which is
in upper case already, so no kept token is idle. As long as no id is declared twice, the territory
that is known under the id of an owner is the one whose token fits.
-/

namespace DistrictAtlas

/-- The token claims the code, which is in upper case. -/
def Token.Fits (token : Token) (code : List Char) : Prop :=
  match token.kind with
  | .exact => code = token.code.toList
  | .letter => Rule.ContinuesByLetter token.code.toList code
  | .any => token.code.toList <+: code

/-- A token fits its own code. -/
theorem Token.fits_code (token : Token) : token.Fits token.code.toList := by
  unfold Token.Fits
  cases token.kind with
  | exact => rfl
  | letter => exact Or.inl rfl
  | any => exact List.prefix_refl _

namespace Rulebook

section Territories

variable {declared : List Territory} {notices : List Notice}

/-- A claim of a kind is a token of this kind under the id of its territory. -/
theorem mem_flatMap_claims {kind : TokenKind} {rule : Rule} :
    rule ∈ declared.flatMap (claims kind) ↔
      ∃ territory ∈ declared, ∃ token ∈ territory.tokens,
        token.kind = kind ∧ rule = ⟨token.code, territory.id⟩ := by
  constructor
  · intro h
    obtain ⟨territory, hterritory, hrule⟩ := List.mem_flatMap.mp h
    obtain ⟨token, htoken, rfl⟩ := List.mem_map.mp hrule
    obtain ⟨hmem, hkind⟩ := List.mem_filter.mp htoken
    exact ⟨territory, hterritory, token, hmem, of_decide_eq_true hkind, rfl⟩
  · rintro ⟨territory, hterritory, token, htoken, hkind, rfl⟩
    have hkept : token ∈ territory.tokens.filter (·.kind = kind) :=
      List.mem_filter.mpr ⟨htoken, decide_eq_true hkind⟩
    exact List.mem_flatMap.mpr ⟨territory, hterritory, List.mem_map.mpr ⟨token, hkept, rfl⟩⟩

/-- The table of single codes holds the claim to a code that was declared last. -/
theorem get?_exact_ofTerritories (code : String) :
    Entries.get? code (ofTerritories declared notices).exact =
      ((declared.flatMap (claims .exact)).filter (·.stem == code)).getLast?.map
        (·.territory) := by
  unfold ofTerritories
  dsimp only
  rw [Entries.get?_foldl_put, Entries.get?_nil, Option.or_none]

/-- The owner of a code has declared a token that fits it. -/
theorem exists_token_of_owner {code id : String}
    (h : (ofTerritories declared notices).ownerOfUpper? code = some id) :
    ∃ territory ∈ declared, territory.id = id ∧
      ∃ token ∈ territory.tokens, token.Fits code.toList := by
  unfold ownerOfUpper? at h
  split at h
  · next found hexact =>
    cases h
    rw [get?_exact_ofTerritories] at hexact
    obtain ⟨rule, hlast, rfl⟩ := Option.map_eq_some_iff.mp hexact
    obtain ⟨hrule, hstem⟩ := List.mem_filter.mp (List.mem_of_getLast? hlast)
    obtain ⟨territory, hterritory, token, htoken, hkind, rfl⟩ := mem_flatMap_claims.mp hrule
    refine ⟨territory, hterritory, rfl, token, htoken, ?_⟩
    rw [Token.Fits, hkind, ← eq_of_beq hstem]
  · split at h
    · next found hletter =>
      cases h
      obtain ⟨rule, hfound, rfl⟩ := Option.map_eq_some_iff.mp hletter
      have hfits := List.find?_some hfound
      obtain ⟨territory, hterritory, token, htoken, hkind, rfl⟩ :=
        mem_flatMap_claims.mp (List.mem_of_find?_eq_some hfound)
      refine ⟨territory, hterritory, rfl, token, htoken, ?_⟩
      rw [Token.Fits, hkind]
      exact (Rule.fitsLetter_iff _ _).mp hfits
    · obtain ⟨rule, hfound, rfl⟩ := Option.map_eq_some_iff.mp h
      have hfits := List.find?_some hfound
      obtain ⟨territory, hterritory, token, htoken, hkind, rfl⟩ :=
        mem_flatMap_claims.mp (List.mem_of_find?_eq_some hfound)
      refine ⟨territory, hterritory, rfl, token, htoken, ?_⟩
      rw [Token.Fits, hkind]
      exact (Rule.fitsAny_iff _ _).mp hfits

/-- Where a rule fits, the first rule that fits has a territory. -/
theorem firstFit_ne_none {fits : List Char → Bool} {rules : List Rule} {rule : Rule}
    (hrule : rule ∈ rules) (hfits : fits rule.stem.toList = true) :
    Rule.firstFit fits rules ≠ none := by
  intro hnone
  unfold Rule.firstFit at hnone
  rw [Option.map_eq_none_iff, List.find?_eq_none] at hnone
  exact hnone rule hrule hfits

/-- A code that a declared token fits has an owner. -/
theorem owner_ne_none_of_fits {territory : Territory} (hterritory : territory ∈ declared)
    {token : Token} (htoken : token ∈ territory.tokens) {code : String}
    (hfits : token.Fits code.toList) :
    (ofTerritories declared notices).ownerOfUpper? code ≠ none := by
  have hrule : (⟨token.code, territory.id⟩ : Rule) ∈ declared.flatMap (claims token.kind) :=
    mem_flatMap_claims.mpr ⟨territory, hterritory, token, htoken, rfl, rfl⟩
  unfold Token.Fits at hfits
  unfold ownerOfUpper?
  cases hkind : token.kind with
  | exact =>
    rw [hkind] at hrule hfits
    have hmem : (⟨token.code, territory.id⟩ : Rule) ∈
        (declared.flatMap (claims .exact)).filter (·.stem == code) :=
      List.mem_filter.mpr ⟨hrule, beq_iff_eq.mpr (String.toList_injective hfits.symm)⟩
    rw [get?_exact_ofTerritories]
    cases hlast : ((declared.flatMap (claims .exact)).filter (·.stem == code)).getLast? with
    | none =>
      rw [List.getLast?_eq_none_iff.mp hlast] at hmem
      cases hmem
    | some last => exact Option.some_ne_none _
  | letter =>
    rw [hkind] at hrule hfits
    have hletter : Rule.firstFit (Rule.fitsLetter · code.toList)
        (ofTerritories declared notices).letter ≠ none :=
      firstFit_ne_none hrule ((Rule.fitsLetter_iff _ _).mpr hfits)
    split
    · exact Option.some_ne_none _
    · split
      · exact Option.some_ne_none _
      · next hnone => exact absurd hnone hletter
  | any =>
    rw [hkind] at hrule hfits
    have hany : Rule.firstFit (Rule.fitsAny · code.toList)
        (ofTerritories declared notices).any ≠ none :=
      firstFit_ne_none hrule ((Rule.fitsAny_iff _ _).mpr hfits)
    split
    · exact Option.some_ne_none _
    · split
      · exact Option.some_ne_none _
      · exact hany

end Territories

/-- In a coherent rulebook the owner's territory is known under the owner's id. -/
theorem IsCoherent.map_id_ownerTerritory? {book : Rulebook} (h : book.IsCoherent) (code : String) :
    (book.ownerTerritory? code).map (·.id) = book.owner? code := by
  unfold ownerTerritory?
  cases howner : book.owner? code with
  | none => rfl
  | some id =>
    obtain ⟨territory, hfound, hid⟩ := h.declares_owner howner
    rw [Option.bind_some, hfound, Option.map_some, hid]

end Rulebook

/-- The code of a token that was read is in upper case. -/
theorem Token.upper_code_read (text : String) :
    Text.upper (Token.read text).code = (Token.read text).code := by
  have htidy : ∀ c ∈ Token.tidy text.toList, Text.IsUpper c :=
    fun _ => Text.isUpper_of_mem_upperChars
  have hcode : ∀ c ∈ (Token.read text).code.toList, Text.IsUpper c := by
    intro c hc
    unfold Token.read at hc
    dsimp only at hc
    rw [String.toList_ofList] at hc
    split at hc
    · exact htidy c hc
    · exact htidy c ((List.dropLast_sublist _).mem hc)
  rw [Text.upper, Text.upperChars_eq_self hcode, String.ofList_toList]

/-- The codes of a declared territory's tokens are in upper case. -/
theorem Territory.upper_code_of_mem {color : String} {record : Record} {token : Token}
    (h : token ∈ (Territory.ofRecord color record).tokens) :
    Text.upper token.code = token.code := by
  obtain ⟨hlisted, -⟩ := List.mem_filter.mp h
  obtain ⟨text, -, rfl⟩ := List.mem_map.mp hlisted
  exact Token.upper_code_read text

namespace Draft

variable {palette : Palette}

/-- Every territory that a row declares is that of a record. -/
theorem ofRecord_of_mem_addRow {draft : Draft} {row : Nat} {record : Record}
    {territory : Territory} (h : territory ∈ (addRow palette draft row record).declared.toList) :
    territory ∈ draft.declared.toList ∨ ∃ color, territory = Territory.ofRecord color record := by
  unfold addRow at h
  split at h
  · exact Or.inl h
  · dsimp only at h
    rw [Array.toList_push, List.mem_append, List.mem_singleton] at h
    exact h.imp_right fun heq => ⟨_, heq⟩

/-- Every territory that rows declare is that of a record. -/
theorem ofRecord_of_mem_addRows {draft : Draft} {row : Nat} {records : List Record}
    {territory : Territory}
    (h : territory ∈ (addRows palette draft row records).declared.toList) :
    territory ∈ draft.declared.toList ∨
      ∃ color record, territory = Territory.ofRecord color record := by
  induction records generalizing draft row with
  | nil => exact Or.inl h
  | cons record rest ih =>
    rw [addRows] at h
    rcases ih h with hstep | hlater
    · rcases ofRecord_of_mem_addRow hstep with hbefore | ⟨color, heq⟩
      · exact Or.inl hbefore
      · exact Or.inr ⟨color, record, heq⟩
    · exact Or.inr hlater

/-- The rows so far have reported every id that they declared again. -/
structure TellsRepeats (draft : Draft) : Prop where
  /-- The ids of the declared territories are known. -/
  known : ∀ territory ∈ draft.declared.toList, territory.id ∈ draft.ids
  /-- Without a report no id was declared twice. -/
  once : (∀ notice ∈ draft.notices.toList, notice.kind ≠ .duplicate) →
    (draft.declared.toList.map (·.id)).Nodup

/-- A row that declares a known id reports it. -/
theorem mem_rowNotices_of_known (row : Nat) (record : Record) (territory : Territory) :
    ∃ notice ∈ rowNotices row true record territory, notice.kind = .duplicate := by
  refine ⟨⟨.duplicate, row, some territory.id,
    "duplicate territory id; metadata and color replaced, rules appended"⟩, ?_, rfl⟩
  unfold rowNotices
  simp only [List.mem_append, if_true, List.mem_singleton, true_or, or_true]

/-- One more row keeps account of repeated ids. -/
theorem TellsRepeats.addRow {draft : Draft} (h : draft.TellsRepeats) (row : Nat)
    (record : Record) : (addRow palette draft row record).TellsRepeats := by
  unfold Draft.addRow
  split
  · constructor
    · exact h.known
    · intro hnone
      refine h.once fun notice hnotice => hnone notice ?_
      rw [Array.toList_push]
      exact List.mem_append_left _ hnotice
  · constructor
    · intro territory hterritory
      dsimp only at hterritory ⊢
      rw [Array.toList_push, List.mem_append, List.mem_singleton] at hterritory
      split
      · next hknown =>
        rcases hterritory with hold | rfl
        · exact h.known territory hold
        · exact List.contains_iff_mem.mp hknown
      · rcases hterritory with hold | rfl
        · exact List.mem_cons_of_mem _ (h.known territory hold)
        · exact List.mem_cons_self
    · intro hnone
      dsimp only at hnone ⊢
      rw [Array.toList_appendList] at hnone
      have hbefore := h.once fun notice hnotice => hnone notice (List.mem_append_left _ hnotice)
      rw [Array.toList_push, List.map_append, List.map_singleton, List.nodup_append]
      refine ⟨hbefore, List.nodup_singleton _, ?_⟩
      -- an id that is there already would have been reported by this row
      rintro id hid other hother rfl
      rw [List.mem_singleton] at hother
      obtain ⟨earlier, hearlier, rfl⟩ := List.mem_map.mp hid
      have hknown := List.contains_iff_mem.mpr (h.known earlier hearlier)
      rw [hother] at hknown
      obtain ⟨notice, hnotice, hkind⟩ := mem_rowNotices_of_known row record
        (Territory.ofRecord (palette.color draft.declared.size) record)
      rw [← hknown] at hnotice
      exact hnone notice (List.mem_append_right _ hnotice) hkind

/-- A run over rows keeps account of repeated ids. -/
theorem TellsRepeats.addRows {draft : Draft} (h : draft.TellsRepeats) (row : Nat)
    (records : List Record) : (addRows palette draft row records).TellsRepeats := by
  induction records generalizing draft row with
  | nil => exact h
  | cons record rest ih =>
    rw [Draft.addRows]
    exact ih (h.addRow row record) (row + 1)

end Draft

namespace Rulebook

variable (palette : Palette) (records : List Record)

/-- Without a notice about a repeated id, no two territories of rows share their id. -/
theorem nodup_ids_of_countNotices (h : (ofRecords palette records).countNotices .duplicate = 0) :
    ((Draft.addRows palette {} 1 records).declared.toList.map (·.id)).Nodup := by
  have hstart : ({} : Draft).TellsRepeats := ⟨nofun, fun _ => List.nodup_nil⟩
  have hend : (Draft.addRows palette {} 1 records).TellsRepeats := hstart.addRows 1 records
  apply hend.once
  intro notice hnotice hkind
  exact List.countP_eq_zero.mp h notice hnotice (decide_eq_true hkind)

/-- The tables of a rulebook agree with its territories and with their tokens. Every claim is that of
a declared territory, which is known under its own id, so the territory of a code is that of the
code's owner. The code of every token that a known territory keeps has an owner. And when no id was
reported as declared twice, the known territory of an owner has a token that fits the code. -/
theorem tables_agree_with_tokens :
    (ofRecords palette records).IsCoherent ∧
      (∀ key territory, (ofRecords palette records).territory? key = some territory →
        territory.id = key) ∧
      (∀ code, ((ofRecords palette records).ownerTerritory? code).map (·.id) =
        (ofRecords palette records).owner? code) ∧
      (∀ key territory, (ofRecords palette records).territory? key = some territory →
        ∀ token ∈ territory.tokens, (ofRecords palette records).owner? token.code ≠ none) ∧
      ((ofRecords palette records).countNotices .duplicate = 0 → ∀ code id,
        (ofRecords palette records).owner? code = some id →
          ∃ territory, (ofRecords palette records).territory? id = some territory ∧
            ∃ token ∈ territory.tokens, token.Fits (Text.upper code).toList) := by
  have hcoherent := isCoherent_ofRecords palette records
  refine ⟨hcoherent, ?_, hcoherent.map_id_ownerTerritory?, ?_, ?_⟩
  · intro key territory hfound
    exact (mem_of_territory? hfound).2
  · intro key territory hfound token htoken
    obtain ⟨hdeclared, -⟩ := mem_of_territory? hfound
    have hupper : Text.upper token.code = token.code := by
      rcases Draft.ofRecord_of_mem_addRows hdeclared with hnone | ⟨color, record, rfl⟩
      · cases hnone
      · exact Territory.upper_code_of_mem htoken
    rw [owner?, hupper]
    exact owner_ne_none_of_fits hdeclared htoken token.fits_code
  · intro hunique code id howner
    obtain ⟨territory, hdeclared, hid, hfits⟩ := exists_token_of_owner howner
    obtain ⟨found, hfound, hfoundId⟩ := hcoherent.declares_owner howner
    -- the id is declared once, so the territory known under it is the one that claims the code
    have hsame : found = territory :=
      List.inj_on_of_nodup_map (nodup_ids_of_countNotices palette records hunique)
        (mem_of_territory? hfound).1 hdeclared (hfoundId.trans hid.symm)
    rw [hsame] at hfound
    exact ⟨territory, hfound, hfits⟩

/-- Rows with overlapping claims of all kinds, a blank id, a token without a code and a code that is
longer in upper case. -/
def overlappingRecords : List Record :=
  [{ id := "T1", tokens := "w1+|*" }, { id := " T2 ", tokens := "W1A; ß2*" },
    { id := "\t", tokens := "W1" }]

/-- A palette of one color. -/
def onePalette : Palette := ⟨["#4e79a7"], List.cons_ne_nil _ _⟩

/-- In the sample no id is repeated, and the owner of a code has a token that fits it. -/
theorem overlappingRecords_agree_with_tokens :
    (ofRecords onePalette overlappingRecords).countNotices .duplicate = 0 ∧
      (ofRecords onePalette overlappingRecords).owner? "w1b" = some "T1" ∧
      ∃ territory, (ofRecords onePalette overlappingRecords).territory? "T1" = some territory ∧
        ∃ token ∈ territory.tokens, token.Fits (Text.upper "w1b").toList := by
  have hunique : (ofRecords onePalette overlappingRecords).countNotices .duplicate = 0 := by
    decide +kernel
  have howner : (ofRecords onePalette overlappingRecords).owner? "w1b" = some "T1" := by
    decide +kernel
  have hagree := tables_agree_with_tokens onePalette overlappingRecords
  exact ⟨hunique, howner, hagree.2.2.2.2 hunique "w1b" "T1" howner⟩

end Rulebook

end DistrictAtlas
