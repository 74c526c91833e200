import DistrictAtlas.Proofs.Entries
import DistrictAtlas.Rules.Draft
import DistrictAtlas.Rules.Lookup

/-!
# Coherent rulebooks

A rulebook is coherent when every claim in its three tables is that of a territory which it
declares, under the territory's own id. A rulebook that is made of territories always is, since a
later territory can take the place of an earlier one only under the same id. In a coherent rulebook
the owner of a code is a declared territory. Made of the rows of a table, a rulebook paints its
territories in the colors of the palette alone.
-/

namespace DistrictAtlas

namespace Rulebook

/-- The id is that of a declared territory, which is known under it. -/
def Declares (book : Rulebook) (id : String) : Prop :=
  ∃ territory, book.territory? id = some territory ∧ territory.id = id

/-- Every claim is that of a declared territory. -/
structure IsCoherent (book : Rulebook) : Prop where
  /-- The claims to single codes are. -/
  exact : ∀ entry ∈ book.exact, book.Declares entry.2
  /-- The claims to continuations by a letter are. -/
  letter : ∀ rule ∈ book.letter, book.Declares rule.territory
  /-- The claims to all continuations are. -/
  any : ∀ rule ∈ book.any, book.Declares rule.territory

/-- The first rule that fits is one of the rules. -/
theorem mem_of_firstFit {fits : List Char → Bool} {rules : List Rule} {id : String}
    (h : Rule.firstFit fits rules = some id) : ∃ rule ∈ rules, rule.territory = id := by
  unfold Rule.firstFit at h
  obtain ⟨rule, hfound, hid⟩ := Option.map_eq_some_iff.mp h
  exact ⟨rule, List.mem_of_find?_eq_some hfound, hid⟩

/-- In a coherent rulebook the owner of a code is declared. -/
theorem IsCoherent.declares_owner {book : Rulebook} (hbook : book.IsCoherent) {code id : String}
    (h : book.owner? code = some id) : book.Declares id := by
  unfold owner? ownerOfUpper? at h
  split at h
  · next found hexact =>
    cases h
    obtain ⟨entry, hentry, rfl⟩ := Entries.mem_of_get? hexact
    exact hbook.exact entry hentry
  · split at h
    · next found hletter =>
      cases h
      obtain ⟨rule, hrule, rfl⟩ := mem_of_firstFit hletter
      exact hbook.letter rule hrule
    · obtain ⟨rule, hrule, rfl⟩ := mem_of_firstFit h
      exact hbook.any rule hrule

section Territories

variable (declared : List Territory) (notices : List Notice)

/-- A rulebook of territories knows under an id the last one that has it. -/
theorem territory?_ofTerritories (id : String) :
    (ofTerritories declared notices).territory? id =
      (declared.filter (·.id == id)).getLast? := by
  have hfound :=
    Entries.get?_foldl_put (·.id) (fun territory : Territory => territory) declared [] id
  unfold territory? ofTerritories
  dsimp only
  rw [hfound, Entries.get?_nil, Option.or_none, Option.map_id']

variable {declared notices}

/-- What is known under an id is one of the territories, and it has this id. -/
theorem mem_of_territory? {id : String} {territory : Territory}
    (h : (ofTerritories declared notices).territory? id = some territory) :
    territory ∈ declared ∧ territory.id = id := by
  rw [territory?_ofTerritories] at h
  obtain ⟨hmem, hid⟩ := List.mem_filter.mp (List.mem_of_getLast? h)
  exact ⟨hmem, eq_of_beq hid⟩

/-- The id of every territory is declared. -/
theorem declares_of_mem {territory : Territory} (h : territory ∈ declared) :
    (ofTerritories declared notices).Declares territory.id := by
  have hmem : territory ∈ declared.filter (·.id == territory.id) :=
    List.mem_filter.mpr ⟨h, beq_self_eq_true territory.id⟩
  cases hlast : (declared.filter (·.id == territory.id)).getLast? with
  | none =>
    rw [List.getLast?_eq_none_iff.mp hlast] at hmem
    cases hmem
  | some last =>
    have hfound := (territory?_ofTerritories declared notices territory.id).trans hlast
    exact ⟨last, hfound, (mem_of_territory? hfound).2⟩

/-- The claims of a kind belong to declared territories. -/
theorem declares_of_mem_claims {kind : TokenKind} {rule : Rule}
    (h : rule ∈ declared.flatMap (claims kind)) :
    (ofTerritories declared notices).Declares rule.territory := by
  obtain ⟨territory, hterritory, hrule⟩ := List.mem_flatMap.mp h
  obtain ⟨token, -, rfl⟩ := List.mem_map.mp hrule
  exact declares_of_mem hterritory

variable (declared notices)

/-- A rulebook that is made of territories is coherent. -/
theorem isCoherent_ofTerritories : (ofTerritories declared notices).IsCoherent where
  exact := by
    intro entry hentry
    rcases Entries.mem_foldl_put hentry with hnone | ⟨claim, hclaim, hvalue⟩
    · cases hnone
    · rw [hvalue]
      exact declares_of_mem_claims hclaim
  letter := fun _ => declares_of_mem_claims
  any := fun _ => declares_of_mem_claims

end Territories

end Rulebook

namespace Draft

variable {palette : Palette}

/-- All territories declared so far have colors of the palette. -/
def IsPaintedFrom (palette : Palette) (draft : Draft) : Prop :=
  ∀ territory ∈ draft.declared.toList, territory.color ∈ palette.colors

/-- The color dealt out at any turn is one of the palette. -/
theorem color_mem (palette : Palette) (turn : Nat) : palette.color turn ∈ palette.colors :=
  List.get_mem _ _

/-- One more row deals out a color of the palette or none. -/
theorem IsPaintedFrom.addRow {draft : Draft} (h : draft.IsPaintedFrom palette) (row : Nat)
    (record : Record) : (addRow palette draft row record).IsPaintedFrom palette := by
  unfold Draft.addRow
  split
  · exact h
  · intro territory hterritory
    rw [Array.toList_push, List.mem_append, List.mem_singleton] at hterritory
    rcases hterritory with hold | rfl
    · exact h territory hold
    · exact color_mem palette draft.declared.size

/-- A run over rows deals out colors of the palette alone. -/
theorem IsPaintedFrom.addRows {draft : Draft} (h : draft.IsPaintedFrom palette) (row : Nat)
    (records : List Record) : (addRows palette draft row records).IsPaintedFrom palette := by
  induction records generalizing draft row with
  | nil => exact h
  | cons record rest ih =>
    rw [Draft.addRows]
    exact ih (h.addRow row record) (row + 1)

end Draft

namespace Rulebook

variable (palette : Palette) (records : List Record)

/-- The rulebook of rows is coherent. -/
theorem isCoherent_ofRecords : (ofRecords palette records).IsCoherent :=
  isCoherent_ofTerritories _ _

variable {palette records}

/-- The territories in the rulebook of rows have colors of the palette. -/
theorem color_mem_of_territory? {id : String} {territory : Territory}
    (h : (ofRecords palette records).territory? id = some territory) :
    territory.color ∈ palette.colors := by
  have hstart : ({} : Draft).IsPaintedFrom palette := nofun
  have hend := hstart.addRows 1 records
  unfold ofRecords at h
  exact hend territory (mem_of_territory? h).1

end Rulebook

end DistrictAtlas
