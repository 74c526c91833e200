import DistrictAtlas.Atlas
import DistrictAtlas.Proofs.Report.CrowdedTable
import DistrictAtlas.Proofs.Report.TokenLines
import DistrictAtlas.Proofs.Rules.Counts
import DistrictAtlas.Proofs.Rules.Declared
import DistrictAtlas.Proofs.Rules.OwnTokens

/-!
# Describing codes

What is said about a code that belongs to a territory is what the last row with the territory's id
states, and a code without an owner is all that is said about it. The facts of a row come out in seven
lines, whatever they are, but for counts that have more digits than are written: with these there is no
description.
-/

namespace DistrictAtlas

namespace Record

/-- The row that states what is known about a territory: the last of the rows with its id. -/
def stating? (records : List Record) (id : String) : Option Record :=
  ((records.filter isNamed).filter fun record => Text.trim record.id == id).getLast?

/-- The tokens by which a row claims codes, as they are shown. -/
def tokenTexts (record : Record) : List String :=
  ((Token.listed record.tokens).filter fun token => !token.isVoid).map (·.text)

/-- The counts of a row have no more digits than are written. -/
structure HasShortCounts (record : Record) : Prop where
  /-- The number of people. -/
  population : (Digits.ofNat (Count.read record.population).value).length ≤ Digits.limit
  /-- The number of businesses. -/
  businesses : (Digits.ofNat (Count.read record.businesses).value).length ≤ Digits.limit

instance (record : Record) : Decidable record.HasShortCounts :=
  decidable_of_iff
    ((Digits.ofNat (Count.read record.population).value).length ≤ Digits.limit ∧
      (Digits.ofNat (Count.read record.businesses).value).length ≤ Digits.limit)
    ⟨fun h => ⟨h.1, h.2⟩, fun h => ⟨h.population, h.businesses⟩⟩

/-- The row that states what is known about an owner, if there is one, has short counts. -/
def ShortCountsOf (records : List Record) (owner : Option String) : Prop :=
  ∀ id ∈ owner, ∀ record ∈ stating? records id, record.HasShortCounts

instance (records : List Record) (owner : Option String) : Decidable (ShortCountsOf records owner) :=
  inferInstanceAs
    (Decidable (∀ id ∈ owner, ∀ record ∈ stating? records id, record.HasShortCounts))

/-- A row that states too many people does not have short counts. -/
theorem not_hasShortCounts {record : Record}
    (h : Digits.tooLong (Count.read record.population).value = true) : ¬record.HasShortCounts := by
  intro hshort
  have hfits : Digits.tooLong (Count.read record.population).value = false :=
    Digits.tooLong_of_length_le hshort.population
  rw [h] at hfits
  cases hfits

/-- The tokens of a row are in upper case. -/
theorem isUpper_of_mem_tokenTexts {record : Record} {text : String} (h : text ∈ record.tokenTexts)
    {c : Char} (hc : c ∈ text.toList) : Text.IsUpper c := by
  obtain ⟨token, htoken, rfl⟩ := List.mem_map.mp h
  obtain ⟨written, -, rfl⟩ := List.mem_map.mp (List.mem_filter.mp htoken).1
  rw [Token.read, String.toList_ofList] at hc
  exact Text.isUpper_of_mem_upperChars hc

end Record

namespace Territory

/-- A territory in another color. -/
def recolored (color : String) (territory : Territory) : Territory := { territory with color }

/-- In its own color a territory is as it was. -/
theorem recolored_self (territory : Territory) :
    territory.recolored territory.color = territory := rfl

/-- The last color stays. -/
theorem recolored_recolored (color other : String) (territory : Territory) :
    (territory.recolored other).recolored color = territory.recolored color := rfl

/-- The color makes no difference to what else a territory has from its row. -/
theorem recolored_ofRecord (color other : String) (record : Record) :
    (ofRecord other record).recolored color = ofRecord color record := by
  simp only [recolored, ofRecord]

/-- The tokens of a territory are those by which its row claims codes. -/
theorem tokenTexts_ofRecord (color : String) (record : Record) :
    (ofRecord color record).tokenTexts = record.tokenTexts := rfl

end Territory

/-- A count with more digits than are written is not written in groups. -/
theorem Count.groupedText_of_long {n : Nat} (h : ¬(Digits.ofNat n).length ≤ Digits.limit) :
    Digits.groupedText n = .error .writing := by
  have hpow : ¬n < 10 ^ Digits.limit := fun hless =>
    h ((Nat.length_toDigits_le_iff (by decide) (by decide)).mpr hless)
  have htold : ∀ places, ¬n < 10 ^ places → decide (Nat.pow 10 places ≤ (n : Int).natAbs) = true :=
    fun _ hnot => decide_eq_true (Nat.not_lt.mp hnot)
  have hlong : Digits.tooLong n = true := htold Digits.limit hpow
  rw [Digits.groupedText, hlong, if_pos rfl]

namespace Description

/-- The words for the status that a row states. -/
theorem lower_statusLabel (color : String) (record : Record) :
    Text.lower (Territory.ofRecord color record).statusLabel =
      if (Text.trim record.status).isEmpty then "available"
      else Text.lower (Text.trim record.status) := by
  have hnone : Text.lower (Status.read "").1.word = "available" := by decide +kernel
  rw [Territory.ofRecord]
  cases hlabel : (Text.trim record.status).isEmpty with
  | true => rw [String.isEmpty_iff.mp hlabel, if_pos rfl, if_pos rfl, hnone]
  | false => rw [if_neg Bool.false_ne_true, if_neg Bool.false_ne_true]

/-- A count of a row, its thousands separated. -/
def countText (cell : String) : String :=
  String.ofList (Digits.group (Digits.ofNat (Count.read cell).value))

/-- What a row says about its territory, with a line about its tokens. -/
def rowLines (record : Record) (tokenLine : String) : List String :=
  ["Territory " ++ Text.trim record.id, "Region: " ++ Text.trim record.region, tokenLine,
    "Population: " ++ countText record.population,
    "Number of businesses: " ++ countText record.businesses,
    "Income: " ++ Text.trim record.income,
    "Status: " ++ if (Text.trim record.status).isEmpty then "available"
      else Text.lower (Text.trim record.status)]

/-- The lines about the territory of a row with short counts. -/
theorem territoryLines_of_short {record : Record} (h : record.HasShortCounts) (color : String)
    (number : Int) :
    territoryLines (Territory.ofRecord color record) number =
      .ok (rowLines record (tokenLine record.tokenTexts number)) := by
  have hpopulation : Digits.groupedText (Territory.ofRecord color record).population =
      .ok (countText record.population) := Count.groupedText_natCast h.population
  have hbusinesses : Digits.groupedText (Territory.ofRecord color record).businesses =
      .ok (countText record.businesses) := Count.groupedText_natCast h.businesses
  rw [territoryLines, hpopulation, hbusinesses, lower_statusLabel]
  rfl

/-- There are no lines about the territory of a row with a count that is too long. -/
theorem territoryLines_of_long {record : Record} (h : ¬record.HasShortCounts) (color : String)
    (number : Int) :
    territoryLines (Territory.ofRecord color record) number = .error .writing := by
  have hpopulation : (Territory.ofRecord color record).population =
      (Count.read record.population).value := rfl
  have hbusinesses : (Territory.ofRecord color record).businesses =
      (Count.read record.businesses).value := rfl
  rw [territoryLines, hpopulation, hbusinesses]
  by_cases hshort : (Digits.ofNat (Count.read record.population).value).length ≤ Digits.limit
  · have hlong : ¬(Digits.ofNat (Count.read record.businesses).value).length ≤ Digits.limit :=
      fun hother => h ⟨hshort, hother⟩
    rw [Count.groupedText_natCast hshort, Count.groupedText_of_long hlong]
    rfl
  · rw [Count.groupedText_of_long hshort]
    rfl

end Description

namespace Rulebook

variable {palette : Palette} {records : List Record}

/-- What is known about a territory is what the last row with its id states. -/
theorem exists_stating {id : String} {territory : Territory}
    (h : (ofRecords palette records).territory? id = some territory) :
    ∃ record, Record.stating? records id = some record ∧
      territory = Territory.ofRecord territory.color record := by
  have hfacts := map_territory?_ofRecords palette records (Territory.recolored_ofRecord "") id
  rw [h, Option.map_some] at hfacts
  obtain ⟨record, hrecord, hstated⟩ := Option.map_eq_some_iff.mp hfacts.symm
  refine ⟨record, hrecord, ?_⟩
  have hcolored := congrArg (Territory.recolored territory.color) hstated
  rw [Territory.recolored_recolored, Territory.recolored_self, Territory.recolored_ofRecord]
    at hcolored
  exact hcolored.symm

/-- The territory of a code is declared in the row that states what is known about the owner of the
code. -/
theorem ownerTerritory?_cases (palette : Palette) (records : List Record) (code : String) :
    ((ofRecords palette records).owner? code = none ∧
        (ofRecords palette records).ownerTerritory? (Text.upper code) = none) ∨
      ∃ id record color, (ofRecords palette records).owner? code = some id ∧
        Record.stating? records id = some record ∧ Text.trim record.id = id ∧
        (ofRecords palette records).ownerTerritory? (Text.upper code) =
          some (Territory.ofRecord color record) := by
  have hcoherent := isCoherent_ofRecords palette records
  have hupper : (ofRecords palette records).owner? (Text.upper code) =
      (ofRecords palette records).owner? code := by
    rw [owner?, owner?, Text.upper_upper]
  rw [ownerTerritory?, hupper]
  cases howner : (ofRecords palette records).owner? code with
  | none => exact Or.inl ⟨rfl, rfl⟩
  | some id =>
    obtain ⟨territory, hfound, hid⟩ := hcoherent.declares_owner howner
    obtain ⟨record, hrecord, hstated⟩ := exists_stating hfound
    refine Or.inr ⟨id, record, territory.color, rfl, hrecord, ?_, ?_⟩
    · rw [hstated] at hid
      exact hid
    · rw [Option.bind_some, hfound, ← hstated]

/-- About a code without an owner there is nothing to say but the code. -/
theorem describe_of_none {book : Rulebook} {code : String}
    (h : book.ownerTerritory? (Text.upper code) = none) (number : Int) :
    book.describe code number = .ok ⟨Text.upper code, none, [Text.upper code]⟩ := by
  rw [describe, h]

/-- About a code with an owner there are the lines about the territory, if they can be written. -/
theorem describe_of_some {book : Rulebook} {code : String} {territory : Territory}
    (h : book.ownerTerritory? (Text.upper code) = some territory) (number : Int) :
    book.describe code number = (Description.territoryLines territory number).map fun lines =>
      ⟨Text.upper code, some territory.id, lines⟩ := by
  rw [describe, h]
  dsimp only
  cases Description.territoryLines territory number with
  | ok lines => rfl
  | error refusal => rfl

/-- A code is described exactly if the counts of its owner are short; if they are not, it is because a
count could not be written. -/
theorem describe_cases (palette : Palette) (records : List Record) (code : String) (number : Int) :
    (Record.ShortCountsOf records ((ofRecords palette records).owner? code) ∧
        ∃ description, (ofRecords palette records).describe code number = .ok description) ∨
      (¬Record.ShortCountsOf records ((ofRecords palette records).owner? code) ∧
        (ofRecords palette records).describe code number = .error .writing) := by
  rcases ownerTerritory?_cases palette records code with
    ⟨howner, hnone⟩ | ⟨id, record, color, howner, hrecord, -, hterritory⟩
  · rw [howner, describe_of_none hnone]
    exact Or.inl ⟨nofun, _, rfl⟩
  · have hshort : Record.ShortCountsOf records (some id) ↔ record.HasShortCounts := by
      constructor
      · exact fun h => h id rfl record hrecord
      · rintro h _ ⟨⟩ other hother
        exact Option.some.inj (hrecord.symm.trans hother) ▸ h
    rw [howner, hshort, describe_of_some hterritory]
    by_cases h : record.HasShortCounts
    · rw [Description.territoryLines_of_short h]
      exact Or.inl ⟨h, _, rfl⟩
    · rw [Description.territoryLines_of_long h]
      exact Or.inr ⟨h, rfl⟩

/-- What is said about a code tells its owner and what the row of the owner states. Where the code has
no owner, the code in upper case is all that is said. Otherwise there are seven lines from the last row
with the owner's id. The third of them shows the first tokens of this row and counts the others, for
whatever number of tokens; for a number above zero it shows as many, or all if there are no more, and it
ends by telling how many there are more exactly if there are any. The last one has the stated status in
small letters, or that the territory is available where none is stated. -/
theorem description_tells_row (palette : Palette) (records : List Record) (code : String)
    (hshort : Record.ShortCountsOf records ((ofRecords palette records).owner? code))
    (number : Int) :
    ∃ description, (ofRecords palette records).describe code number = .ok description ∧
      description.code = Text.upper code ∧
      description.territory = (ofRecords palette records).owner? code ∧
      (description.isMatched = true ↔ (ofRecords palette records).owner? code ≠ none) ∧
      ((ofRecords palette records).owner? code = none → description.lines = [Text.upper code]) ∧
      ∀ id, (ofRecords palette records).owner? code = some id → ∃ record tokenLine,
        Record.stating? records id = some record ∧
        ((ofRecords palette records).territory? id).map (·.tokenTexts) = some record.tokenTexts ∧
        description.lines = ["Territory " ++ id, "Region: " ++ Text.trim record.region, tokenLine,
          "Population: " ++ Description.countText record.population,
          "Number of businesses: " ++ Description.countText record.businesses,
          "Income: " ++ Text.trim record.income,
          "Status: " ++ if (Text.trim record.status).isEmpty then "available"
            else Text.lower (Text.trim record.status)] ∧
        ∃ shown others, Description.ShowsTokens record.tokenTexts shown others tokenLine ∧
          (1 ≤ number → (shown.length : Int) = min number record.tokenTexts.length ∧
            ∀ m : Nat, (∃ front, tokenLine = front ++ " +" ++ toString m ++ " more") ↔
              0 < m ∧ (m : Int) = record.tokenTexts.length - number) := by
  rcases ownerTerritory?_cases palette records code with
    ⟨howner, hnone⟩ | ⟨id, record, color, howner, hrecord, rfl, hterritory⟩
  · refine ⟨_, describe_of_none hnone number, rfl, howner.symm, ?_, fun _ => rfl, ?_⟩
    · exact iff_of_false Bool.false_ne_true (not_not.mpr howner)
    · intro id hid
      rw [howner] at hid
      cases hid
  · have hlines := Description.territoryLines_of_short (hshort _ howner record hrecord) color number
    have hdescribed := describe_of_some hterritory number
    rw [hlines] at hdescribed
    refine ⟨_, hdescribed, rfl, howner.symm, ?_, ?_, ?_⟩
    · rw [howner]
      exact iff_of_true rfl nofun
    · intro hnone
      rw [howner] at hnone
      cases hnone
    · intro id hid
      rw [howner, Option.some.injEq] at hid
      subst hid
      have htokens := map_territory?_ofRecords palette records Territory.tokenTexts_ofRecord
        (Text.trim record.id)
      refine ⟨record, _, hrecord, htokens.trans (congrArg _ hrecord), rfl, _, _,
        Description.showsTokens_tokenLine _ number, ?_⟩
      intro hpos
      exact ⟨Description.length_shown _ hpos, Description.tokenLine_ends_iff hpos
        fun token htoken c hc => Record.isUpper_of_mem_tokenTexts htoken hc⟩

/-- Rows of which the last one takes the facts about the first territory from the first one, with more
tokens, one of them void, and without a status. -/
def sampleRows : List Record :=
  [{ id := "T1", tokens := "w1|w2", status := "taken" }, { id := "T2", tokens := "E1", status := "Taken " },
    { id := " T1", tokens := "ß1|*|b2+|w1", population := "1,234", businesses := "no" }]

/-- A code of the first territory is described with two of the three tokens of the last row. -/
theorem description_tells_lastRow :
    Record.ShortCountsOf sampleRows ((ofRecords onePalette sampleRows).owner? "w2") ∧
      ∃ description, (ofRecords onePalette sampleRows).describe "w2" 2 = .ok description ∧
        description.code = "W2" ∧ description.territory = some "T1" ∧
        ∃ line front, line ∈ description.lines ∧ line = front ++ " +" ++ toString 1 ++ " more" := by
  have hshort : Record.ShortCountsOf sampleRows ((ofRecords onePalette sampleRows).owner? "w2") := by
    decide +kernel
  have howner : (ofRecords onePalette sampleRows).owner? "w2" = some "T1" := by decide +kernel
  have hupper : Text.upper "w2" = "W2" := by decide +kernel
  have htokens : (Record.stating? sampleRows "T1").map (·.tokenTexts.length) = some 3 := by
    decide +kernel
  obtain ⟨description, hdescribed, hcode, hterritory, -, -, hlines⟩ :=
    description_tells_row onePalette sampleRows "w2" hshort 2
  obtain ⟨record, tokenLine, hrecord, -, hseven, shown, others, -, hends⟩ := hlines "T1" howner
  rw [hrecord, Option.map_some, Option.some.injEq] at htokens
  have hmore := (hends (by decide)).2 1
  rw [htokens] at hmore
  obtain ⟨front, hfront⟩ := hmore.mpr (by decide)
  refine ⟨hshort, description, hdescribed, hcode.trans hupper, hterritory.trans howner, tokenLine,
    front, ?_, hfront⟩
  rw [hseven]
  simp

end Rulebook

namespace Atlas

/-- A table that was loaded gives the rulebook of its records. -/
theorem book_of_reload {atlas : Atlas} {text : String} (h : (atlas.reload text).failure = none) :
    ∃ resolved palette, Table.resolve text = .ok resolved ∧
      (atlas.reload text).atlas.book = Rulebook.ofRecords palette resolved.records := by
  cases hresolved : Table.resolve text with
  | error fault =>
    have hload : Rulebook.load atlas.theme.palette text = .error (.table fault) := by
      rw [Rulebook.load, hresolved]
    rw [reload, hload] at h
    cases h
  | ok resolved =>
    have hload : Rulebook.load atlas.theme.palette text =
        Rulebook.ofColors atlas.theme.palette resolved.records := by
      rw [Rulebook.load, hresolved]
    cases hpalette : Palette.ofList? atlas.theme.palette with
    | none =>
      have hempty : Rulebook.ofColors atlas.theme.palette resolved.records = .error .emptyPalette := by
        rw [Rulebook.ofColors, hpalette]
      rw [reload, hload, hempty] at h
      cases h
    | some palette =>
      have hbook : Rulebook.ofColors atlas.theme.palette resolved.records =
          .ok ⟨Rulebook.ofRecords palette resolved.records, resolved.records.length⟩ := by
        rw [Rulebook.ofColors, hpalette]
      exact ⟨resolved, palette, rfl, by rw [reload, hload, hbook]⟩

/-- After a table was loaded every code is described, but for those whose owner has a count with more
digits than are written in the last row with its id; these are not described, and the reason is that
the count cannot be written. -/
theorem loaded_table_described_iff (atlas : Atlas) (text : String)
    (h : (atlas.reload text).failure = none) :
    ∃ resolved, Table.resolve text = .ok resolved ∧ ∀ code,
      ((∃ description, (atlas.reload text).atlas.describe code = .ok description) ↔
        Record.ShortCountsOf resolved.records ((atlas.reload text).atlas.book.owner? code)) ∧
      ∀ refusal, (atlas.reload text).atlas.describe code = .error refusal → refusal = .writing := by
  obtain ⟨resolved, palette, hresolved, hbook⟩ := book_of_reload h
  refine ⟨resolved, hresolved, fun code => ?_⟩
  rw [describe, hbook]
  rcases Rulebook.describe_cases palette resolved.records code
    (atlas.reload text).atlas.theme.shownTokens with ⟨hshort, description, hok⟩ | ⟨hlong, herror⟩
  · rw [hok]
    exact ⟨iff_of_true ⟨description, rfl⟩ hshort, nofun⟩
  · rw [herror]
    refine ⟨iff_of_false nofun hlong, ?_⟩
    rintro _ ⟨⟩
    rfl

/-- The palette of the look that is taken where none is asked for. -/
def givenPalette : Palette := ⟨({} : Theme).palette, by decide⟩

/-- A table with a long count is loaded like any other. -/
theorem reload_crowdedTable {n : Nat} (hn : n ≤ Table.cellLimit) :
    (({} : Atlas).reload (crowdedTable n)).failure = none ∧
      (({} : Atlas).reload (crowdedTable n)).atlas.book = crowdedBook givenPalette n := by
  have hload : Rulebook.load ({} : Atlas).theme.palette (crowdedTable n) =
      .ok ⟨crowdedBook givenPalette n, 1⟩ := load_crowdedTable hn givenPalette
  rw [reload, hload]
  exact ⟨rfl, rfl⟩

/-- A count of three ones is short, and the code of its territory is described. -/
theorem loaded_crowdedTable_described : (({} : Atlas).reload (crowdedTable 3)).failure = none ∧
    ∃ description, (({} : Atlas).reload (crowdedTable 3)).atlas.describe "W1" = .ok description := by
  obtain ⟨hloaded, hbook⟩ := reload_crowdedTable (n := 3) (by decide)
  obtain ⟨told, htold, hrecords⟩ := resolve_crowdedTable (n := 3) (by decide)
  obtain ⟨resolved, hresolved, hcodes⟩ := loaded_table_described_iff {} (crowdedTable 3) hloaded
  obtain rfl : told = resolved := Except.ok.inj (htold.symm.trans hresolved)
  refine ⟨hloaded, (hcodes "W1").1.mpr ?_⟩
  rw [hrecords, hbook]
  decide +kernel

/-- The codes of a territory with a count that is too long are not described, though the table is
loaded. -/
theorem loaded_crowdedTable_undescribed :
    ¬∀ (atlas : Atlas) (text code : String), (atlas.reload text).failure = none →
      ∃ description, (atlas.reload text).atlas.describe code = .ok description := by
  intro hall
  obtain ⟨hloaded, hbook⟩ := reload_crowdedTable (n := 4301) (by decide)
  obtain ⟨description, hdescribed⟩ := hall {} (crowdedTable 4301) "W1" hloaded
  rw [describe, hbook] at hdescribed
  have howner : (crowdedBook givenPalette 4301).owner? "W1" = some "T1" := by decide +kernel
  have hstating : Record.stating? [crowdedRecord 4301] "T1" = some (crowdedRecord 4301) := rfl
  have hlong : ¬(crowdedRecord 4301).HasShortCounts :=
    Record.not_hasShortCounts (tooLong_crowdedRecord (n := 4301) (by decide))
  rcases Rulebook.describe_cases givenPalette [crowdedRecord 4301] "W1" _ with
    ⟨hshort, -⟩ | ⟨-, herror⟩
  · exact hlong (hshort "T1" howner _ hstating)
  · rw [crowdedBook, herror] at hdescribed
    cases hdescribed

end Atlas

end DistrictAtlas
