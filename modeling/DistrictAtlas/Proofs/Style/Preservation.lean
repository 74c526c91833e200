import DistrictAtlas.Proofs.Outcome
import DistrictAtlas.Proofs.Style.Meaning
import DistrictAtlas.Style.Painting

/-!
# Rendering keeps the meaning

The rendered form of a style tree, interpreted on a feature, gives the value of the tree for the text
that the feature's property holds. The tests at the leaves are compared first, through what a slice
of the code is. A table, a choice and a list of conditions then carry one statement each through
their flat argument lists: the arguments settle the value, or they leave it to what stands behind
them. Rendering fails on a part that is no tree, so evaluation never meets one.
-/

namespace DistrictAtlas.Renderer

open DistrictAtlas.Tree

/-- A position that is not negative is kept below the end. -/
theorem place_natCast (size n : Nat) : place size (n : Int) = min n size := by
  unfold place
  rw [if_neg (by omega), Int.toNat_natCast]

/-- A negative position counts from the end, and is kept behind the start. -/
theorem place_of_neg (size : Nat) {position : Int} (h : position < 0) :
    place size position = (size + position).toNat :=
  if_pos h

/-- A slice from the start is what the text begins with. -/
theorem sliceChars_zero (cs : List Char) (n : Nat) : sliceChars cs 0 (n : Int) = cs.take n := by
  have hzero : place cs.length 0 = 0 := by
    have h := place_natCast cs.length 0
    rwa [Nat.zero_min] at h
  unfold sliceChars
  rw [hzero, place_natCast, List.drop_zero]
  exact (List.take_eq_take_min).symm

/-- What lies between a place and the next one is the character there. -/
theorem drop_take_succ (cs : List Char) (n : Nat) : (cs.take (n + 1)).drop n = cs[n]?.toList := by
  rw [List.drop_take, Nat.add_sub_cancel_left, List.take_one, List.head?_drop]

/-- A slice of one position from the start holds the character there, and past the end nothing. -/
theorem sliceChars_natCast_next (cs : List Char) (n : Nat) :
    sliceChars cs (n : Int) ((n : Int) + 1) = cs[n]?.toList := by
  unfold sliceChars
  rw [place_natCast, ← Int.natCast_succ, place_natCast]
  by_cases hn : n < cs.length
  · rw [Nat.min_eq_left hn, Nat.min_eq_left (Nat.le_of_lt hn), drop_take_succ]
  · have hnone : cs[n]? = none := List.getElem?_eq_none (by omega)
    rw [Nat.min_eq_right (by omega), Nat.min_eq_right (by omega), hnone, List.take_length,
      List.drop_length, Option.toList_none]

/-- The slice from the last place on stops at the start and is empty. -/
theorem sliceChars_last_next (cs : List Char) : sliceChars cs (-1) (-1 + 1) = [] := by
  have hstop : place cs.length (-1 + 1) = 0 := (place_natCast cs.length 0).trans (Nat.zero_min _)
  unfold sliceChars
  rw [hstop, List.take_zero, List.drop_nil]

/-- A slice of one position counted from the end holds the character there, and before the start
nothing. The last place is the one where it does not. -/
theorem sliceChars_neg_next (cs : List Char) {position : Int} (hposition : position < -1) :
    sliceChars cs position (position + 1) =
      if 0 ≤ cs.length + position then cs[(cs.length + position).toNat]?.toList else [] := by
  unfold sliceChars
  rw [place_of_neg _ (show position < 0 by omega), place_of_neg _ (show position + 1 < 0 by omega)]
  by_cases hfront : 0 ≤ (cs.length : Int) + position
  · have hnext : (cs.length + (position + 1)).toNat = (cs.length + position).toNat + 1 := by omega
    rw [if_pos hfront, hnext, drop_take_succ]
  · have hnext : (cs.length + (position + 1)).toNat = 0 := by omega
    rw [if_neg hfront, hnext, List.take_zero, List.drop_nil]

/-- A slice of one position holds the character that the tree's test looks at, and nothing where the
test finds none: past the end, before the start, and at the last place counted from the end. -/
theorem sliceChars_next (cs : List Char) (position : Int) :
    sliceChars cs position (position + 1) = (charAt? cs position).toList := by
  unfold charAt?
  by_cases hsign : 0 ≤ position
  · obtain ⟨n, rfl⟩ := Int.eq_ofNat_of_zero_le hsign
    rw [if_pos hsign, Int.toNat_natCast, sliceChars_natCast_next]
  · rw [if_neg hsign]
    by_cases hlast : position = -1
    · rw [if_pos hlast, hlast, sliceChars_last_next, Option.toList_none]
    · rw [if_neg hlast, sliceChars_neg_next cs (by omega)]
      dsimp only
      split
      · rfl
      · rfl

/-- Two texts are equal constants when they are the same text. -/
theorem beq_text (a b : String) : (Scalar.text a == Scalar.text b) = decide (a = b) := by
  simp [BEq.beq, Scalar.keyForm]

/-- Two whole numbers are equal constants when they are the same number. -/
theorem beq_int (a b : Int) : (Scalar.int a == Scalar.int b) = decide (a = b) := by
  simp [BEq.beq, Scalar.keyForm]

section Leaves

variable {feature : Feature} {codeProperty : Wording} {s : String}

/-- The code of a feature means the text of its property in upper case. -/
theorem meaning_codeOf (hs : feature.property codeProperty = .text s) :
    meaning feature (codeOf codeProperty) = some (.text (Text.upper s)) := by
  have hupcase : Operator.named? "upcase" = some .upcase := Operator.named?_name .upcase
  have hget : Operator.named? "get" = some .property := Operator.named?_name .property
  rw [codeOf, meaning_call hupcase, meanings, meanings, meaning_call hget, meanings, meanings, meaning]
  dsimp only [Operator.apply]
  rw [Scalar.wording?_ofWording, Option.map_some, hs]

/-- A part of the code means that part of the text in upper case. -/
theorem meaning_slice (hs : feature.property codeProperty = .text s) (start stop : Int) :
    meaning feature (slice codeProperty start stop) =
      some (.text (String.ofList (sliceChars (Text.upper s).toList start stop))) := by
  have hslice : Operator.named? "slice" = some .slice := Operator.named?_name .slice
  rw [slice, meaning_call hslice, meanings, meaning_codeOf hs, meanings, meaning, meanings, meaning,
    meanings]
  rfl

/-- The test of a beginning compares a slice from the start with the stem. -/
theorem meaning_startsWith (hs : feature.property codeProperty = .text s) (stem : String) :
    meaning feature (call "==" [slice codeProperty 0 stem.length, .text stem]) =
      some (.scalar (.bool (stem.toList.isPrefixOf (Text.upper s).toList))) := by
  have hequal : Operator.named? "==" = some .equal := Operator.named?_name .equal
  have hsame : decide (String.ofList ((Text.upper s).toList.take stem.length) = stem) =
      stem.toList.isPrefixOf (Text.upper s).toList := by
    rw [Bool.eq_iff_iff, decide_eq_true_iff, List.isPrefixOf_iff_prefix, List.prefix_iff_eq_take,
      String.length_toList, ← String.toList_inj, String.toList_ofList]
    exact eq_comm
  rw [meaning_call hequal, meanings, meaning_slice hs, meanings, meaning, meanings, sliceChars_zero]
  dsimp only [Operator.apply]
  rw [beq_text, hsame]

/-- The test of a length compares the number of characters. -/
theorem meaning_hasLength (hs : feature.property codeProperty = .text s) (size : Int) :
    meaning feature (call "==" [call "length" [codeOf codeProperty], .int size]) =
      some (.scalar (.bool (((Text.upper s).length : Int) = size))) := by
  have hequal : Operator.named? "==" = some .equal := Operator.named?_name .equal
  have hlength : Operator.named? "length" = some .length := Operator.named?_name .length
  rw [meaning_call hequal, meanings, meaning_call hlength, meanings, meaning_codeOf hs, meanings,
    meanings, meaning, meanings]
  dsimp only [Operator.apply]
  rw [beq_int]

/-- A slice of one position is among one-letter texts when the character there is among the
letters; the empty slice never is. -/
theorem any_isConstant_letters (next : Option Char) (letters : List Char) :
    (letters.map fun c => Value.text (String.singleton c)).any
        (isConstant (.text (String.ofList next.toList))) = next.any letters.contains := by
  cases next with
  | none =>
    rw [Option.toList_none, Option.any_none, List.any_map, List.any_eq_false]
    intro c _
    dsimp only [Function.comp_apply, isConstant]
    rw [beq_text, decide_eq_true_iff, ← String.toList_inj, String.toList_ofList,
      String.toList_singleton]
    exact List.ne_cons_self
  | some c =>
    rw [Option.toList_some, Option.any_some, List.any_map, Bool.eq_iff_iff, List.any_eq_true,
      List.contains_iff_mem]
    dsimp only [Function.comp_apply, isConstant]
    constructor
    · rintro ⟨letter, hmem, heq⟩
      rw [beq_text, decide_eq_true_iff, ← String.toList_inj, String.toList_ofList,
        String.toList_singleton, List.singleton_inj] at heq
      rwa [heq]
    · intro hmem
      exact ⟨c, hmem, by rw [beq_text, decide_eq_true_iff]; rfl⟩

/-- The test of the next character looks for a slice of one position among the letters. -/
theorem meaning_nextIn (hs : feature.property codeProperty = .text s) (position : Int)
    (letters : String) :
    meaning feature (call "in" [slice codeProperty position (position + 1),
        call "literal" [.list (letters.toList.map fun c => .text (String.singleton c))]]) =
      some (.scalar (.bool
        ((charAt? (Text.upper s).toList position).any letters.toList.contains))) := by
  have hmember : Operator.named? "in" = some .member := Operator.named?_name .member
  have hliteral : Operator.named? "literal" = some .literal := Operator.named?_name .literal
  rw [meaning_call hmember, meanings, meaning_slice hs, sliceChars_next, meanings,
    meaning_call hliteral, meanings]
  dsimp only [Operator.apply]
  rw [any_isConstant_letters]

end Leaves

/-- A label equals the input when both are the same text. -/
theorem isConstant_text (input label : String) :
    isConstant (.text input) (.text label) = decide (label = input) := by
  rw [isConstant, beq_text]
  exact decide_eq_decide.mpr eq_comm

/-- A constant counts as true when it is the truth value true. -/
theorem isTrue_scalar (value : Scalar) : isTrue (.scalar value) = decide (value = yes) := by
  cases value with
  | bool truth => cases truth <;> rfl
  | _ => rfl

/-- Arguments that all mean something give the list of what they mean. -/
theorem mapM_id_scalars (values : List Scalar) :
    (values.map fun value => some (Value.scalar value)).mapM id = some (values.map .scalar) := by
  induction values with
  | nil => rfl
  | cons value rest ih => rw [List.map_cons, List.mapM_cons, ih]; rfl

section Trees

variable {feature : Feature} {codeProperty : Wording} {s : String}

mutual

/-- A tree that can be rendered has a value, and its rendering means that value. -/
theorem express_meaning (hs : feature.property codeProperty = .text s) :
    ∀ (tree : Tree) {out : Value}, express codeProperty tree = .ok out →
      ∃ value, evalUpper (Text.upper s) tree = .ok value ∧
        meaning feature out = some (.scalar value)
  | .code, out, h => by
    rw [express, Except.ok.injEq] at h
    rw [← h]
    exact ⟨.text (Text.upper s), rfl, meaning_codeOf hs⟩
  | .constant value, out, h => by
    rw [express, Except.ok.injEq] at h
    rw [← h]
    exact ⟨value, rfl, rfl⟩
  | .lookup [] otherwise, out, h => express_meaning hs otherwise h
  | .lookup (entry :: rest) otherwise, out, h => by
    have hmatch : Operator.named? "match" = some .lookup := Operator.named?_name .lookup
    obtain ⟨arguments, harguments, h⟩ := Outcome.bind_eq_ok_iff.mp h
    obtain ⟨last, hlast, h⟩ := Outcome.bind_eq_ok_iff.mp h
    rw [Outcome.pure_eq_ok_iff] at h
    obtain ⟨fallback, hfallback, hmeans⟩ := express_meaning hs otherwise hlast
    obtain ⟨hit, htable, hfound⟩ := expressTable_meaning hs (entry :: rest) harguments
    rw [← h, evalUpper, htable, meaning_call hmatch, List.cons_append, meanings, meaning_codeOf hs,
      meanings_append, meanings, hmeans, meanings]
    dsimp only [Operator.apply]
    rw [hfound]
    cases hit with
    | none => exact ⟨fallback, hfallback, rfl⟩
    | some value => exact ⟨value, rfl, rfl⟩
  | .choose [] otherwise, out, h => express_meaning hs otherwise h
  | .choose (branch :: rest) otherwise, out, h => by
    have hcase : Operator.named? "case" = some .choose := Operator.named?_name .choose
    obtain ⟨arguments, harguments, h⟩ := Outcome.bind_eq_ok_iff.mp h
    obtain ⟨last, hlast, h⟩ := Outcome.bind_eq_ok_iff.mp h
    rw [Outcome.pure_eq_ok_iff] at h
    obtain ⟨fallback, hfallback, hmeans⟩ := express_meaning hs otherwise hlast
    obtain ⟨hit, hbranches, hchosen⟩ := expressBranches_meaning hs (branch :: rest) harguments
    rw [← h, evalUpper, hbranches, meaning_call hcase, meanings_append, meanings, hmeans, meanings]
    dsimp only [Operator.apply]
    rw [hchosen]
    cases hit with
    | none => exact ⟨fallback, hfallback, rfl⟩
    | some value => exact ⟨value, rfl, rfl⟩
  | .startsWith stem, out, h => by
    rw [express, Except.ok.injEq] at h
    rw [← h]
    exact ⟨_, rfl, meaning_startsWith hs stem⟩
  | .hasLength size, out, h => by
    rw [express, Except.ok.injEq] at h
    rw [← h]
    exact ⟨_, rfl, meaning_hasLength hs size⟩
  | .nextIn position letters, out, h => by
    rw [express, Except.ok.injEq] at h
    rw [← h]
    exact ⟨_, rfl, meaning_nextIn hs position letters⟩
  | .all conditions, out, h => by
    have hall : Operator.named? "all" = some .all := Operator.named?_name .all
    rw [express] at h
    obtain ⟨arguments, harguments, h⟩ := Outcome.bind_eq_ok_iff.mp h
    rw [Outcome.pure_eq_ok_iff] at h
    obtain ⟨values, hvalues, hconjunction, -⟩ := expressList_meaning hs conditions harguments
    refine ⟨_, hconjunction, ?_⟩
    rw [← h, meaning_call hall, hvalues]
    dsimp only [Operator.apply]
    rw [mapM_id_scalars, Option.map_some, List.all_map]
    simp only [Function.comp_def, isTrue_scalar]
  | .any conditions, out, h => by
    have hany : Operator.named? "any" = some .any := Operator.named?_name .any
    rw [express] at h
    obtain ⟨arguments, harguments, h⟩ := Outcome.bind_eq_ok_iff.mp h
    rw [Outcome.pure_eq_ok_iff] at h
    obtain ⟨values, hvalues, -, hdisjunction⟩ := expressList_meaning hs conditions harguments
    refine ⟨_, hdisjunction, ?_⟩
    rw [← h, meaning_call hany, hvalues]
    dsimp only [Operator.apply]
    rw [mapM_id_scalars, Option.map_some, List.any_map]
    simp only [Function.comp_def, isTrue_scalar]
  | .foreign, out, h => by
    rw [express] at h
    cases h

/-- The arguments of a rendered table give the value of the first entry with the code, and else
whatever follows them. -/
theorem expressTable_meaning (hs : feature.property codeProperty = .text s) :
    ∀ (table : List (String × Tree)) {arguments : List Value},
      expressTable codeProperty table = .ok arguments →
      ∃ hit : Option Scalar, evalTable (Text.upper s) table = hit.map .ok ∧
        ∀ last, found (.text (Text.upper s)) (meanings feature arguments ++ [last]) =
          hit.elim last fun value => some (.scalar value)
  | [], arguments, h => by
    rw [expressTable, Except.ok.injEq] at h
    rw [← h]
    exact ⟨none, rfl, fun last => rfl⟩
  | (label, tree) :: rest, arguments, h => by
    rw [expressTable] at h
    obtain ⟨out, hout, h⟩ := Outcome.bind_eq_ok_iff.mp h
    obtain ⟨others, hothers, h⟩ := Outcome.bind_eq_ok_iff.mp h
    rw [Outcome.pure_eq_ok_iff] at h
    obtain ⟨value, heval, hmeans⟩ := express_meaning hs tree hout
    obtain ⟨hit, htable, hfound⟩ := expressTable_meaning hs rest hothers
    refine ⟨if label = Text.upper s then some value else hit, ?_, fun last => ?_⟩
    · rw [evalTable, heval, htable]
      split
      · rfl
      · rfl
    · rw [← h, meanings, meaning, meanings, hmeans, List.cons_append, List.cons_append, found,
        Option.bind_some, isConstant_text, hfound]
      simp only [decide_eq_true_iff]
      split
      · rfl
      · rfl

/-- The arguments of a rendered choice give the value behind the first true condition, and else
whatever follows them. -/
theorem expressBranches_meaning (hs : feature.property codeProperty = .text s) :
    ∀ (branches : List (Tree × Tree)) {arguments : List Value},
      expressBranches codeProperty branches = .ok arguments →
      ∃ hit : Option Scalar, evalBranches (Text.upper s) branches = hit.map .ok ∧
        ∀ last, chosen (meanings feature arguments ++ [last]) =
          hit.elim last fun value => some (.scalar value)
  | [], arguments, h => by
    rw [expressBranches, Except.ok.injEq] at h
    rw [← h]
    exact ⟨none, rfl, fun last => rfl⟩
  | (condition, tree) :: rest, arguments, h => by
    rw [expressBranches] at h
    obtain ⟨test, htest, h⟩ := Outcome.bind_eq_ok_iff.mp h
    obtain ⟨out, hout, h⟩ := Outcome.bind_eq_ok_iff.mp h
    obtain ⟨others, hothers, h⟩ := Outcome.bind_eq_ok_iff.mp h
    rw [Outcome.pure_eq_ok_iff] at h
    obtain ⟨truth, htruth, htestMeans⟩ := express_meaning hs condition htest
    obtain ⟨value, heval, hmeans⟩ := express_meaning hs tree hout
    obtain ⟨hit, hbranches, hchosen⟩ := expressBranches_meaning hs rest hothers
    refine ⟨if truth = yes then some value else hit, ?_, fun last => ?_⟩
    · rw [evalBranches, htruth]
      dsimp only
      rw [heval, hbranches]
      split
      · rfl
      · rfl
    · rw [← h, meanings, htestMeans, meanings, hmeans, List.cons_append, List.cons_append, chosen,
        Option.bind_some, isTrue_scalar, hchosen]
      simp only [decide_eq_true_iff]
      split
      · rfl
      · rfl

/-- The arguments of a rendered conjunction or disjunction mean the values of the conditions, and
these decide both. -/
theorem expressList_meaning (hs : feature.property codeProperty = .text s) :
    ∀ (conditions : List Tree) {arguments : List Value},
      expressList codeProperty conditions = .ok arguments →
      ∃ values : List Scalar,
        meanings feature arguments = values.map (fun value => some (.scalar value)) ∧
        evalAll (Text.upper s) conditions = .ok (.bool (values.all (· = yes))) ∧
        evalAny (Text.upper s) conditions = .ok (.bool (values.any (· = yes)))
  | [], arguments, h => by
    rw [expressList, Except.ok.injEq] at h
    rw [← h]
    exact ⟨[], rfl, rfl, rfl⟩
  | condition :: rest, arguments, h => by
    rw [expressList] at h
    obtain ⟨out, hout, h⟩ := Outcome.bind_eq_ok_iff.mp h
    obtain ⟨others, hothers, h⟩ := Outcome.bind_eq_ok_iff.mp h
    rw [Outcome.pure_eq_ok_iff] at h
    obtain ⟨value, heval, hmeans⟩ := express_meaning hs condition hout
    obtain ⟨values, hvalues, hconjunction, hdisjunction⟩ := expressList_meaning hs rest hothers
    refine ⟨value :: values, ?_, ?_, ?_⟩
    · rw [← h, meanings, hmeans, hvalues, List.map_cons]
    · rw [evalAll, heval, List.all_cons]
      dsimp only
      by_cases htrue : value = yes
      · rw [if_pos htrue, hconjunction, decide_eq_true htrue, Bool.true_and]
      · rw [if_neg htrue, decide_eq_false htrue, Bool.false_and]
    · rw [evalAny, heval, List.any_cons]
      dsimp only
      by_cases htrue : value = yes
      · rw [if_pos htrue, decide_eq_true htrue, Bool.true_or]
      · rw [if_neg htrue, hdisjunction, decide_eq_false htrue, Bool.false_or]

end

/-- Rendering keeps the meaning of every tree, whatever is nested in it: on any feature whose property
holds a text, evaluation for that text finds no part that is no tree, and the rendered lists mean the
value that it gives. -/
theorem meaning_express {tree : Tree} {out : Value} (h : express codeProperty tree = .ok out)
    (feature : Feature) (s : String) (hs : feature.property codeProperty = .text s) :
    ∃ value, tree.eval s = .ok value ∧ meaning feature out = some (.scalar value) :=
  express_meaning hs tree h

/-- A choice whose condition looks past the end of the code, with an empty conjunction and an empty
table in it. -/
def sampleTree : Tree :=
  .choose [(.all [letterCondition "W1", .all []], .lookup [] (.constant (.text "red")))] .code

/-- A feature that holds its code behind another property. -/
def sampleFeature : Feature := ⟨[(.whole "area", .text "W"), (.whole "name", .text "w1")]⟩

/-- The sample is rendered, and means its value on the sample feature. -/
theorem meaning_express_sampleTree :
    ∃ out, express (.whole "name") sampleTree = .ok out ∧
      sampleFeature.property (.whole "name") = .text "w1" ∧
      ∃ value, sampleTree.eval "w1" = .ok value ∧
        meaning sampleFeature out = some (.scalar value) :=
  ⟨_, rfl, rfl, meaning_express rfl sampleFeature "w1" rfl⟩

end Trees

end DistrictAtlas.Renderer
