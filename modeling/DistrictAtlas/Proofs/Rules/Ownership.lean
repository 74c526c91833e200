import DistrictAtlas.Proofs.Entries
import DistrictAtlas.Proofs.Rules.Continuation
import DistrictAtlas.Rules.Draft

/-!
# Ownership by declaration

Who owns a code, said of the declared rows alone. The claims of a row are its tokens that have a
code, and a row without an id has none. Among the claims of all rows in their order, the last one to
the single code decides; without one, the first whose code continues to it by a letter; without one,
the first that it begins with. The rulebook made of the rows answers exactly so, whatever the
palette.
-/

namespace DistrictAtlas

/-- What a row claims by one of its tokens. -/
structure Claim where
  /-- The territory that the row declares. -/
  territory : String
  /-- The token. -/
  token : Token
deriving DecidableEq, Repr

/-- The claims of a row: all its tokens but those without a code, and none when the row has no id. -/
def Record.claims (record : Record) : List Claim :=
  if Text.trim record.id = "" then []
  else (((Token.texts record.tokens).map Token.read).filter (·.code ≠ "")).map
    fun token => ⟨Text.trim record.id, token⟩

namespace Claim

/-- The territory that claims a single code last. -/
def lastExact? (claims : List Claim) (code : String) : Option String :=
  ((claims.filter fun claim => claim.token.kind = .exact ∧ claim.token.code = code).getLast?).map
    (·.territory)

/-- The territory that first claims a stem which the code continues by a letter. -/
def firstLetter? (claims : List Claim) (code : String) : Option String :=
  (claims.find? fun claim => claim.token.kind = .letter ∧
    Rule.ContinuesByLetter claim.token.code.toList code.toList).map (·.territory)

/-- The territory that first claims a stem which the code begins with. -/
def firstAny? (claims : List Claim) (code : String) : Option String :=
  (claims.find? fun claim => claim.token.kind = .any ∧
    claim.token.code.toList <+: code.toList).map (·.territory)

/-- The rule that a claim becomes. -/
def rule (claim : Claim) : Rule := ⟨claim.token.code, claim.territory⟩

end Claim

namespace Draft

/-- The rules of a kind that the rows so far have declared. -/
def rules (draft : Draft) (kind : TokenKind) : List Rule :=
  draft.declared.toList.flatMap (Rulebook.claims kind)

/-- The tokens that are kept are those with a code. -/
theorem not_isVoid : (fun token : Token => !token.isVoid) = fun token => decide (token.code ≠ "") := by
  funext token
  rw [Token.isVoid, Bool.eq_iff_iff, Bool.not_eq_true', decide_eq_true_iff, Bool.eq_false_iff]
  exact not_congr String.isEmpty_iff

/-- The declared territory of a row with an id has the rules of the row's claims. -/
theorem claims_ofRecord (color : String) {record : Record} (hid : Text.trim record.id ≠ "")
    (kind : TokenKind) :
    Rulebook.claims kind (Territory.ofRecord color record) =
      (record.claims.filter (·.token.kind = kind)).map Claim.rule := by
  unfold Rulebook.claims Record.claims
  rw [if_neg hid, List.filter_map, List.map_map]
  dsimp only [Territory.ofRecord, Token.listed]
  rw [not_isVoid]
  rfl

/-- One more row adds the rules of its claims behind all others. -/
theorem rules_addRow (palette : Palette) (draft : Draft) (row : Nat) (record : Record)
    (kind : TokenKind) :
    (addRow palette draft row record).rules kind =
      draft.rules kind ++ (record.claims.filter (·.token.kind = kind)).map Claim.rule := by
  unfold addRow rules
  by_cases hid : Text.trim record.id = ""
  · have hnone : record.claims = [] := if_pos hid
    rw [if_pos (String.isEmpty_iff.mpr hid), hnone, List.filter_nil, List.map_nil, List.append_nil]
  · rw [if_neg fun he => hid (String.isEmpty_iff.mp he)]
    dsimp only
    rw [Array.toList_push, List.flatMap_append, List.flatMap_singleton, claims_ofRecord _ hid]

/-- After a run over rows the rules of a kind are those of all claims of that kind in their order. -/
theorem rules_addRows (palette : Palette) (draft : Draft) (row : Nat) (records : List Record)
    (kind : TokenKind) :
    (addRows palette draft row records).rules kind =
      draft.rules kind ++
        ((records.flatMap Record.claims).filter (·.token.kind = kind)).map Claim.rule := by
  induction records generalizing draft row with
  | nil => exact (List.append_nil _).symm
  | cons record rest ih =>
    rw [addRows, ih, rules_addRow, List.flatMap_cons, List.filter_append, List.map_append,
      List.append_assoc]

end Draft

namespace Rulebook

variable (palette : Palette) (records : List Record)

/-- The rules of a kind in the rulebook of rows are those of the rows' claims. -/
theorem flatMap_claims_addRows (kind : TokenKind) :
    (Draft.addRows palette {} 1 records).declared.toList.flatMap (Rulebook.claims kind) =
      ((records.flatMap Record.claims).filter (·.token.kind = kind)).map Claim.rule :=
  Draft.rules_addRows palette {} 1 records kind

/-- The table of single codes gives a code to the territory that claims it last. -/
theorem get?_exact_ofRecords (code : String) :
    Entries.get? code (ofRecords palette records).exact =
      Claim.lastExact? (records.flatMap Record.claims) code := by
  have hsame : (fun claim : Claim => decide (claim.token.kind = .exact ∧ claim.token.code = code)) =
      fun claim => (claim.rule.stem == code) && decide (claim.token.kind = .exact) := by
    funext claim
    rw [Bool.decide_and, Bool.and_comm]
    rfl
  unfold ofRecords ofTerritories Claim.lastExact?
  dsimp only
  rw [flatMap_claims_addRows, Entries.get?_foldl_put, Entries.get?_nil, Option.or_none,
    List.filter_map, List.getLast?_map, Option.map_map, List.filter_filter, hsame]
  rfl

/-- The first rule that fits is that of the first claim that fits, when the test decides a relation
between stems and codes. -/
theorem firstFit_rules {fits : List Char → Bool} {Fits : List Char → Prop} [DecidablePred Fits]
    (h : ∀ stem, fits stem = true ↔ Fits stem) (kind : TokenKind) (claims : List Claim) :
    Rule.firstFit fits ((claims.filter (·.token.kind = kind)).map Claim.rule) =
      (claims.find? fun claim =>
        claim.token.kind = kind ∧ Fits claim.token.code.toList).map (·.territory) := by
  have hsame : (fun claim : Claim => decide (decide (claim.token.kind = kind) = true ∧
        fits claim.token.code.toList = true)) =
      fun claim => decide (claim.token.kind = kind ∧ Fits claim.token.code.toList) := by
    funext claim
    exact decide_eq_decide.mpr (and_congr decide_eq_true_iff (h _))
  unfold Rule.firstFit
  rw [List.find?_map, Option.map_map, List.find?_filter]
  exact congrArg (fun test => (claims.find? test).map (·.territory)) hsame

/-- Among the continuations by a letter the first claim that fits decides. -/
theorem firstFit_letter_ofRecords (code : String) :
    Rule.firstFit (Rule.fitsLetter · code.toList) (ofRecords palette records).letter =
      Claim.firstLetter? (records.flatMap Record.claims) code := by
  unfold ofRecords ofTerritories
  dsimp only
  rw [flatMap_claims_addRows]
  exact firstFit_rules (fun stem => Rule.fitsLetter_iff stem code.toList) .letter _

/-- Among the continuations by anything the first claim that fits decides. -/
theorem firstFit_any_ofRecords (code : String) :
    Rule.firstFit (Rule.fitsAny · code.toList) (ofRecords palette records).any =
      Claim.firstAny? (records.flatMap Record.claims) code := by
  unfold ofRecords ofTerritories
  dsimp only
  rw [flatMap_claims_addRows]
  exact firstFit_rules (fun stem => Rule.fitsAny_iff stem code.toList) .any _

/-- The owner of a code is decided by the declared rows alone: the last claim to the code in upper
case, else the first claim that it continues by a letter, else the first that it begins with. -/
theorem ownership_declared (code : String) :
    (ofRecords palette records).owner? code =
      (Claim.lastExact? (records.flatMap Record.claims) (Text.upper code)).or
        ((Claim.firstLetter? (records.flatMap Record.claims) (Text.upper code)).or
          (Claim.firstAny? (records.flatMap Record.claims) (Text.upper code))) := by
  unfold owner? ownerOfUpper?
  rw [get?_exact_ofRecords, firstFit_letter_ofRecords, firstFit_any_ofRecords]
  cases Claim.lastExact? (records.flatMap Record.claims) (Text.upper code) with
  | some id => rfl
  | none => cases Claim.firstLetter? (records.flatMap Record.claims) (Text.upper code) <;> rfl

end Rulebook

end DistrictAtlas
