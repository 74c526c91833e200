import DistrictAtlas.Proofs.Rules.Declared
import DistrictAtlas.Proofs.Rules.OwnTokens
import DistrictAtlas.Proofs.Rules.Ownership

/-!
# Rows that do not depend on each other

Two tokens conflict when one code fits both, and for tokens of one kind this can be told from their
codes. Two neighbouring rows with different ids, of which no tokens conflict, can change places: no
code is claimed by both in the same way, so it goes to the same territory as before, and all other
territories keep their turns.
-/

namespace DistrictAtlas

namespace Rule

/-- What stands behind a stem in a code that continues it by a letter begins with a letter. -/
theorem continuesByLetter_of_prefix {stem longer code : List Char} (hlonger : stem <+: longer)
    (hcode : longer <+: code) (h : ContinuesByLetter stem code) : ContinuesByLetter stem longer := by
  obtain ⟨rest, rfl⟩ := hlonger
  obtain ⟨behind, rfl⟩ := hcode
  rw [← fitsLetter_iff, List.append_assoc, fitsLetter_append] at h
  rw [← fitsLetter_iff, fitsLetter_append]
  cases rest with
  | nil => rfl
  | cons letter others => exact h

/-- A code begins with every stem that it continues by a letter. -/
theorem ContinuesByLetter.isPrefix {stem code : List Char} (h : ContinuesByLetter stem code) :
    stem <+: code := by
  rcases h with rfl | ⟨letter, rest, -, -, rfl⟩
  · exact List.prefix_refl code
  · exact List.prefix_append stem _

end Rule

namespace Token

/-- The tokens are of the same kind, and so are some of the codes that they claim: single codes are
the same; of codes with continuations by a letter, one continues the other by a letter; of codes with
all continuations, one begins with the other. -/
def Conflicts (first second : Token) : Prop :=
  first.kind = second.kind ∧ match first.kind with
    | .exact => first.code = second.code
    | .letter => Rule.ContinuesByLetter first.code.toList second.code.toList ∨
        Rule.ContinuesByLetter second.code.toList first.code.toList
    | .any => first.code.toList <+: second.code.toList ∨ second.code.toList <+: first.code.toList

/-- Whether two tokens conflict is told from their codes. -/
instance (first second : Token) : Decidable (first.Conflicts second) :=
  match first with
  | ⟨.exact, code, _⟩ => inferInstanceAs (Decidable (.exact = second.kind ∧ code = second.code))
  | ⟨.letter, code, _⟩ => inferInstanceAs (Decidable (.letter = second.kind ∧
      (Rule.ContinuesByLetter code.toList second.code.toList ∨
        Rule.ContinuesByLetter second.code.toList code.toList)))
  | ⟨.any, code, _⟩ => inferInstanceAs (Decidable (.any = second.kind ∧
      (code.toList <+: second.code.toList ∨ second.code.toList <+: code.toList)))

/-- Tokens of one kind conflict exactly if one code fits both. -/
theorem conflicts_iff (first second : Token) :
    first.Conflicts second ↔
      first.kind = second.kind ∧ ∃ code, first.Fits code ∧ second.Fits code := by
  obtain ⟨kind, code, text⟩ := first
  obtain ⟨kind', other, text'⟩ := second
  unfold Conflicts Fits
  dsimp only
  refine and_congr_right fun hkind => ?_
  subst hkind
  cases kind with
  | exact =>
    constructor
    · rintro rfl
      exact ⟨code.toList, rfl, rfl⟩
    · rintro ⟨shared, hfirst, hsecond⟩
      exact String.toList_injective (hfirst.symm.trans hsecond)
  | letter =>
    constructor
    · rintro (hlonger | hlonger)
      · exact ⟨other.toList, hlonger, Or.inl rfl⟩
      · exact ⟨code.toList, Or.inl rfl, hlonger⟩
    · -- both stems begin the code, so the shorter one begins the longer one
      rintro ⟨shared, hfirst, hsecond⟩
      refine (List.prefix_or_prefix_of_prefix hfirst.isPrefix hsecond.isPrefix).imp ?_ ?_
      · intro hlonger
        exact Rule.continuesByLetter_of_prefix hlonger hsecond.isPrefix hfirst
      · intro hlonger
        exact Rule.continuesByLetter_of_prefix hlonger hfirst.isPrefix hsecond
  | any =>
    constructor
    · rintro (hlonger | hlonger)
      · exact ⟨other.toList, hlonger, List.prefix_refl _⟩
      · exact ⟨code.toList, List.prefix_refl _, hlonger⟩
    · rintro ⟨shared, hfirst, hsecond⟩
      exact List.prefix_or_prefix_of_prefix hfirst hsecond

end Token

section Filters

variable {α : Type} {test : α → Bool} {first second : List α}

/-- Two pieces of a list can change places under a test that they do not both have items for. -/
theorem filter_exchange (h : ∀ a ∈ first, ∀ b ∈ second, test a = true → test b = false)
    (front back : List α) :
    (front ++ (first ++ (second ++ back))).filter test =
      (front ++ (second ++ (first ++ back))).filter test := by
  have hnone : first.filter test = [] ∨ second.filter test = [] := by
    by_cases hfirst : ∃ a ∈ first, test a = true
    · obtain ⟨a, ha, htest⟩ := hfirst
      exact Or.inr (List.filter_eq_nil_iff.mpr fun b hb => Bool.eq_false_iff.mp (h a ha b hb htest))
    · exact Or.inl (List.filter_eq_nil_iff.mpr fun a ha htest => hfirst ⟨a, ha, htest⟩)
  simp only [List.filter_append]
  rcases hnone with hnone | hnone
  · rw [hnone, List.nil_append, List.nil_append]
  · rw [hnone, List.nil_append, List.nil_append]

/-- Two pieces of a list can change places under a test that neither has items for, and all other
items keep their places. -/
theorem filter_zipIdx_exchange (hfirst : ∀ a ∈ first, test a = false)
    (hsecond : ∀ b ∈ second, test b = false) (front back : List α) :
    (front ++ (first ++ (second ++ back))).zipIdx.filter (fun turn => test turn.1) =
      (front ++ (second ++ (first ++ back))).zipIdx.filter fun turn => test turn.1 := by
  have hnone : ∀ {items : List α}, (∀ a ∈ items, test a = false) → ∀ place,
      (items.zipIdx place).filter (fun turn => test turn.1) = [] := by
    intro items hitems place
    refine List.filter_eq_nil_iff.mpr fun turn hturn => Bool.eq_false_iff.mp ?_
    refine hitems turn.1 ?_
    rw [← List.zipIdx_map_fst place items]
    exact List.mem_map_of_mem hturn
  simp only [List.zipIdx_append, List.filter_append, hnone hfirst, hnone hsecond, List.nil_append]
  rw [Nat.add_right_comm]

end Filters

/-- Whether a token fits a code is found by the test for its kind. -/
instance Token.decidableFits (token : Token) (code : List Char) : Decidable (token.Fits code) :=
  match token with
  | ⟨.exact, own, _⟩ => inferInstanceAs (Decidable (code = own.toList))
  | ⟨.letter, own, _⟩ => inferInstanceAs (Decidable (Rule.ContinuesByLetter own.toList code))
  | ⟨.any, own, _⟩ => inferInstanceAs (Decidable (own.toList <+: code))

namespace Claim

/-- The claims of a kind that fit a code. -/
def fitting (kind : TokenKind) (code : String) (claims : List Claim) : List Claim :=
  claims.filter fun claim => claim.token.kind = kind ∧ claim.token.Fits code.toList

/-- Claims that a test finds to fit, where it tells this for claims of the kind, are those that fit. -/
theorem filter_eq_fitting {kind : TokenKind} {code : String} {fits : Claim → Prop}
    [DecidablePred fits]
    (h : ∀ claim, claim.token.kind = kind → (fits claim ↔ claim.token.Fits code.toList))
    (claims : List Claim) :
    claims.filter (fun claim => claim.token.kind = kind ∧ fits claim) = fitting kind code claims :=
  List.filter_congr fun claim _ => decide_eq_decide.mpr (and_congr_right (h claim))

/-- The last claim to a single code is the last one of this kind that fits. -/
theorem lastExact?_eq (claims : List Claim) (code : String) :
    lastExact? claims code = (fitting .exact code claims).getLast?.map (·.territory) := by
  have hfits : ∀ claim : Claim, claim.token.kind = .exact →
      (claim.token.code = code ↔ claim.token.Fits code.toList) := by
    intro claim hkind
    rw [Token.Fits, hkind]
    exact ⟨fun h => congrArg String.toList h.symm, fun h => String.toList_injective h.symm⟩
  rw [lastExact?, filter_eq_fitting hfits]

/-- The first claim that a code continues by a letter is the first one of this kind that fits. -/
theorem firstLetter?_eq (claims : List Claim) (code : String) :
    firstLetter? claims code = (fitting .letter code claims).head?.map (·.territory) := by
  have hfits : ∀ claim : Claim, claim.token.kind = .letter →
      (Rule.ContinuesByLetter claim.token.code.toList code.toList ↔
        claim.token.Fits code.toList) := by
    intro claim hkind
    rw [Token.Fits, hkind]
  rw [firstLetter?, ← List.head?_filter, filter_eq_fitting hfits]

/-- The first claim that a code begins with is the first one of this kind that fits. -/
theorem firstAny?_eq (claims : List Claim) (code : String) :
    firstAny? claims code = (fitting .any code claims).head?.map (·.territory) := by
  have hfits : ∀ claim : Claim, claim.token.kind = .any →
      (claim.token.code.toList <+: code.toList ↔ claim.token.Fits code.toList) := by
    intro claim hkind
    rw [Token.Fits, hkind]
  rw [firstAny?, ← List.head?_filter, filter_eq_fitting hfits]

/-- Pieces of a list of claims can change places when no claim of one conflicts with a claim of the
other: the claims that fit a code stay in their order. -/
theorem fitting_exchange {first second : List Claim}
    (hapart : ∀ a ∈ first, ∀ b ∈ second, ¬a.token.Conflicts b.token) (front back : List Claim)
    (kind : TokenKind) (code : String) :
    fitting kind code (front ++ (first ++ (second ++ back))) =
      fitting kind code (front ++ (second ++ (first ++ back))) := by
  refine filter_exchange (fun a ha b hb hfirst => decide_eq_false fun hsecond =>
    hapart a ha b hb ?_) front back
  obtain ⟨hkind, hfits⟩ := of_decide_eq_true hfirst
  obtain ⟨hkind', hfits'⟩ := hsecond
  exact (Token.conflicts_iff _ _).mpr ⟨hkind.trans hkind'.symm, code.toList, hfits, hfits'⟩

end Claim

/-- Whether the territory of a row is taken, as the row states it. -/
def Record.statesTaken (record : Record) : Bool :=
  (Status.read (Text.trim record.status)).1 = .taken

namespace Rulebook

variable (palette : Palette)

/-- The owner of a code depends on the claims that fit the code, and on their order, alone. -/
theorem owner?_eq_of_fitting {first second : List Record} {code : String}
    (h : ∀ kind, Claim.fitting kind (Text.upper code) (first.flatMap Record.claims) =
      Claim.fitting kind (Text.upper code) (second.flatMap Record.claims)) :
    (ofRecords palette first).owner? code = (ofRecords palette second).owner? code := by
  unfold owner? ownerOfUpper?
  simp only [get?_exact_ofRecords, firstFit_letter_ofRecords, firstFit_any_ofRecords,
    Claim.lastExact?_eq, Claim.firstLetter?_eq, Claim.firstAny?_eq, h]

/-- A territory is taken if the last row with its id states so. -/
theorem any_isTaken_territory? (records : List Record) (id : String) :
    ((ofRecords palette records).territory? id).any (·.isTaken) =
      (((records.filter Record.isNamed).filter
        fun record => Text.trim record.id == id).getLast?).any Record.statesTaken := by
  have hstated : ∀ color record, Territory.isTaken (Territory.ofRecord color record) =
      Record.statesTaken record := by
    intro color record
    rw [Territory.isTaken, Record.statesTaken, Territory.ofRecord]
  have hsame := map_territory?_ofRecords palette records hstated id
  have hany := congrArg (fun taken : Option Bool => taken.any fun stated => stated) hsame
  rwa [Option.any_map, Option.any_map] at hany

section Neighbours

variable {first second : Record} (before behind : List Record)

/-- Codes have the same owners after two rows without conflicts have changed places. -/
theorem owner?_exchange
    (hapart : ∀ a ∈ first.claims, ∀ b ∈ second.claims, ¬a.token.Conflicts b.token) (code : String) :
    (ofRecords palette (before ++ first :: second :: behind)).owner? code =
      (ofRecords palette (before ++ second :: first :: behind)).owner? code := by
  refine owner?_eq_of_fitting palette fun kind => ?_
  simp only [List.flatMap_append, List.flatMap_cons]
  exact Claim.fitting_exchange hapart _ _ kind _

/-- Whether a territory is taken is the same after two rows with different ids have changed places,
also for the territories of these rows. -/
theorem any_isTaken_exchange (hids : Text.trim first.id ≠ Text.trim second.id) (id : String) :
    ((ofRecords palette (before ++ first :: second :: behind)).territory? id).any (·.isTaken) =
      ((ofRecords palette (before ++ second :: first :: behind)).territory? id).any
        (·.isTaken) := by
  -- the rows with one id never include both neighbours
  have hone : ∀ a ∈ [first], ∀ b ∈ [second], (Text.trim a.id == id && a.isNamed) = true →
      (Text.trim b.id == id && b.isNamed) = false := by
    intro a ha b hb hfirst
    rw [List.mem_singleton.mp ha, Bool.and_eq_true, beq_iff_eq] at hfirst
    have hother : Text.trim b.id ≠ id := by
      rw [List.mem_singleton.mp hb, ← hfirst.1]
      exact hids.symm
    rw [beq_eq_false_iff_ne.mpr hother, Bool.false_and]
  have hrows := filter_exchange hone before behind
  rw [any_isTaken_territory?, any_isTaken_territory?, List.filter_filter, List.filter_filter]
  exact congrArg (fun kept : List Record => kept.getLast?.any Record.statesTaken) hrows

/-- Territories with other ids are the same after two rows have changed places. -/
theorem territory?_exchange {id : String} (hfirst : id ≠ Text.trim first.id)
    (hsecond : id ≠ Text.trim second.id) :
    (ofRecords palette (before ++ first :: second :: behind)).territory? id =
      (ofRecords palette (before ++ second :: first :: behind)).territory? id := by
  have hnone : ∀ row, Text.trim row.id ≠ id → ∀ a ∈ [row].filter Record.isNamed,
      (Text.trim a.id == id) = false := by
    intro row hrow a ha
    rw [List.mem_singleton.mp (List.mem_filter.mp ha).1]
    exact beq_eq_false_iff_ne.mpr hrow
  have hrows := filter_zipIdx_exchange (hnone first hfirst.symm) (hnone second hsecond.symm)
    (before.filter Record.isNamed) (behind.filter Record.isNamed)
  simp only [← List.filter_append] at hrows
  rw [territory?_ofRecords, territory?_ofRecords]
  exact congrArg (fun turns => turns.getLast?.map (Territory.atTurn palette)) hrows

/-- Two neighbouring rows with different ids, of which no two tokens conflict, can change places. Every
code has the same owner, and it is taken or not as before; and every territory with another id is the
same, also in its color. -/
theorem independent_rows_exchange (hids : Text.trim first.id ≠ Text.trim second.id)
    (hapart : ∀ a ∈ first.claims, ∀ b ∈ second.claims, ¬a.token.Conflicts b.token) :
    (∀ code, (ofRecords palette (before ++ first :: second :: behind)).owner? code =
        (ofRecords palette (before ++ second :: first :: behind)).owner? code ∧
      (ofRecords palette (before ++ first :: second :: behind)).isTaken code =
        (ofRecords palette (before ++ second :: first :: behind)).isTaken code) ∧
      ∀ id, id ≠ Text.trim first.id → id ≠ Text.trim second.id →
        (ofRecords palette (before ++ first :: second :: behind)).territory? id =
          (ofRecords palette (before ++ second :: first :: behind)).territory? id := by
  have howner := owner?_exchange palette before behind hapart
  refine ⟨fun code => ⟨howner code, ?_⟩, fun id hfirst hsecond => ?_⟩
  · unfold isTaken ownerTerritory?
    rw [howner code]
    cases (ofRecords palette (before ++ second :: first :: behind)).owner? code with
    | none => rfl
    | some id => exact any_isTaken_exchange palette before behind hids id
  · exact territory?_exchange palette before behind hfirst hsecond

end Neighbours

/-- A row that claims a code with its continuations by a letter, and two other codes. -/
def letterRow : Record := { id := "T1", tokens := "w1+|EC1*|SE1", status := "taken" }

/-- A row with overlapping codes, none of which it claims as the other row does. -/
def digitRow : Record := { id := " T2", tokens := "W12+; ec2*; W1*; w1a" }

/-- A row that repeats an id, and claims what the first of the other two claims. -/
def repeatingRow : Record := { id := "T1 ", tokens := "SE1|W1A+" }

/-- The two rows of the sample have different ids and no conflicts, so they can change places between
others. -/
theorem letterRow_digitRow_exchange : Text.trim letterRow.id ≠ Text.trim digitRow.id ∧
    (∀ a ∈ letterRow.claims, ∀ b ∈ digitRow.claims, ¬a.token.Conflicts b.token) ∧
    (ofRecords onePalette [repeatingRow, letterRow, digitRow, repeatingRow]).owner? "w12b" =
      some "T2" ∧
    (ofRecords onePalette [repeatingRow, digitRow, letterRow, repeatingRow]).owner? "w12b" =
      some "T2" := by
  have hids : Text.trim letterRow.id ≠ Text.trim digitRow.id := by decide
  have hapart : ∀ a ∈ letterRow.claims, ∀ b ∈ digitRow.claims,
      ¬a.token.Conflicts b.token := by decide +kernel
  have howner : (ofRecords onePalette [repeatingRow, letterRow, digitRow, repeatingRow]).owner?
      "w12b" = some "T2" := by decide +kernel
  have hexchange := independent_rows_exchange onePalette [repeatingRow] [repeatingRow] hids hapart
  exact ⟨hids, hapart, howner, (hexchange.1 "w12b").1.symm.trans howner⟩

end Rulebook

end DistrictAtlas
