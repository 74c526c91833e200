import DistrictAtlas.Command.Arguments
import DistrictAtlas.Proofs.Outcome

/-!
# Errors are kept in the log

Which events are logged depends on the least level that a command line asks for. None of the levels
that it can ask for lies above the level of errors, in whatever order and however often its words set
the options. So a command line that is accepted never leaves out errors.
-/

namespace DistrictAtlas

/-- The log that the options ask for does not leave out errors. -/
def Options.KeepsErrors (options : Options) : Prop :=
  ∀ level, options.logLevel = some level → level.rank ≤ Level.error.rank

namespace Options

/-- A level that can be asked for does not leave out errors. -/
theorem rank_le_of_named {name : String} {level : Level} (h : Level.named? name = some level) :
    level.rank ≤ Level.error.rank := by
  have hmem : level ∈ Level.choices := List.mem_of_find?_eq_some h
  have hrank : ∀ level ∈ Level.choices, level.rank ≤ Level.error.rank := by decide
  exact hrank level hmem

/-- Setting an option to a text never leaves out errors. -/
theorem KeepsErrors.set {options changed : Options} {value : String} {setting : Setting}
    (h : options.KeepsErrors) (hset : options.set? value setting = some changed) :
    changed.KeepsErrors := by
  cases setting with
  | logLevel =>
    obtain ⟨level, hlevel, rfl⟩ := Option.map_eq_some_iff.mp hset
    intro other hother
    cases hother
    exact rank_le_of_named hlevel
  | _ =>
    cases hset
    exact h

/-- A double dash in place of a text never leaves out errors. -/
theorem KeepsErrors.voided {options : Options} (h : options.KeepsErrors) (setting : Setting) :
    (options.voided setting).KeepsErrors := by
  cases setting with
  | logLevel => exact fun level hlevel => nomatch hlevel
  | _ => exact h

end Options

namespace Arguments

/-- Giving codes their place leaves the options. -/
theorem fillCodes_options (progress : Progress) (run : List Word) :
    (fillCodes progress run).1.options = progress.options := by
  unfold fillCodes
  split <;> rfl

/-- Giving the territories their place leaves the options. -/
theorem fillTerritories_options (progress : Progress) (run : List Word) :
    (fillTerritories progress run).1.options = progress.options := by
  unfold fillTerritories
  split
  · exact fillCodes_options progress run
  · split
    · rfl
    · exact fillCodes_options _ _

/-- Giving words without options among them their places leaves the options. -/
theorem fill_options {progress filled : Progress} {run others : List Word}
    (h : fill progress run = .ok (filled, others)) : filled.options = progress.options := by
  unfold fill at h
  split at h
  · have hfilled : (fillTerritories progress run).1 = filled :=
      congrArg Prod.fst (Except.ok.inj h)
    rw [← hfilled, fillTerritories_options]
  · split at h
    · cases h
      rfl
    · split at h
      · cases h
      · next text rest _ _ command _ =>
        have hfilled : (fillTerritories { progress with command := some command } rest).1 = filled :=
          congrArg Prod.fst (Except.ok.inj h)
        rw [← hfilled, fillTerritories_options]

/-- Giving words that stand before an option or at the end their places leaves the options. -/
theorem place_options {progress placed : Progress} {run : List Word}
    (h : place progress run = .ok placed) : placed.options = progress.options := by
  obtain ⟨⟨filled, others⟩, hfill, hplaced⟩ := Outcome.bind_eq_ok_iff.mp h
  have hoptions := fill_options hfill
  cases hplaced
  exact hoptions

/-- Giving words their places, if there are any, leaves the options. -/
theorem placeSome_options {progress placed : Progress} {run : List Word}
    (h : placeSome progress run = .ok placed) : placed.options = progress.options := by
  unfold placeSome at h
  split at h
  · cases h
    rfl
  · exact place_options h

/-- Setting an option never leaves out errors. -/
theorem keepsErrors_of_setting {progress changed : Progress} {name : Setting} {value : String}
    (hkeeps : progress.options.KeepsErrors) (h : setting progress name value = .ok changed) :
    changed.options.KeepsErrors := by
  unfold setting at h
  split at h
  · cases h
    exact hkeeps.voided name
  · cases hset : progress.options.set? value name with
    | none =>
      rw [hset] at h
      cases h
    | some options =>
      rw [hset] at h
      cases h
      exact hkeeps.set hset

/-- Reading words never leaves out errors. -/
theorem keepsErrors_of_readWords {progress last : Progress} {run words : List Word}
    (hkeeps : progress.options.KeepsErrors) (h : readWords progress run words = .ok last) :
    last.options.KeepsErrors := by
  have hplaced : ∀ {progress placed : Progress} {run : List Word}, progress.options.KeepsErrors →
      placeSome progress run = .ok placed → placed.options.KeepsErrors := by
    intro progress placed run hkeeps hplace
    rw [placeSome_options hplace]
    exact hkeeps
  induction progress, run, words using readWords.induct with
  | case1 progress run =>
    rw [readWords] at h
    rw [place_options h]
    exact hkeeps
  | case2 progress run text rest ih =>
    rw [readWords] at h
    exact ih hkeeps h
  | case3 progress run rest ih =>
    rw [readWords] at h
    exact ih hkeeps h
  | case4 progress run rest ih =>
    rw [readWords] at h
    obtain ⟨placed, hplace, hrest⟩ := Outcome.bind_eq_ok_iff.mp h
    have hkept := hplaced hkeeps hplace
    exact ih placed hkept hrest
  | case5 progress run rest ih =>
    rw [readWords] at h
    obtain ⟨placed, hplace, hrest⟩ := Outcome.bind_eq_ok_iff.mp h
    have hkept := hplaced hkeeps hplace
    exact ih placed hkept hrest
  | case6 progress run name value rest ih =>
    rw [readWords] at h
    obtain ⟨placed, hplace, hset⟩ := Outcome.bind_eq_ok_iff.mp h
    obtain ⟨changed, hsetting, hrest⟩ := Outcome.bind_eq_ok_iff.mp hset
    exact ih changed (keepsErrors_of_setting (hplaced hkeeps hplace) hsetting) hrest
  | case7 progress run name value rest ih =>
    rw [readWords] at h
    obtain ⟨placed, hplace, hset⟩ := Outcome.bind_eq_ok_iff.mp h
    obtain ⟨changed, hsetting, hrest⟩ := Outcome.bind_eq_ok_iff.mp hset
    exact ih changed (keepsErrors_of_setting (hplaced hkeeps hplace) hsetting) hrest
  | case8 progress run rest =>
    rw [readWords] at h
    obtain ⟨placed, hplace, hrest⟩ := Outcome.bind_eq_ok_iff.mp h
    cases hrest
  | case9 words progress run hnil hplain hdivider hunknown hstrict hjoined hnext hhelp =>
    rw [readWords] at h
    · cases h
    all_goals assumption

/-- A command line that is accepted never leaves out errors. -/
theorem keepsErrors_of_read {words : List String} {arguments : Arguments}
    (h : read words = .ok arguments) : arguments.options.KeepsErrors := by
  have hinitial : Options.KeepsErrors {} := by
    intro level hlevel
    cases hlevel
    decide
  unfold read at h
  dsimp only at h
  split at h
  · cases h
  obtain ⟨progress, hwords, hfinish⟩ := Outcome.bind_eq_ok_iff.mp h
  have hkeeps := keepsErrors_of_readWords hinitial hwords
  unfold finish at hfinish
  split at hfinish
  · cases hfinish
    exact hkeeps
  · cases hfinish

end Arguments

end DistrictAtlas
