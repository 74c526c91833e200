import DistrictAtlas.Proofs.Command.Delivery
import DistrictAtlas.Proofs.Report.CrowdedTable

/-!
# Files after a failed run

A run that fails leaves all files as they were, except for the log, unless what it writes to a file
holds a number that is too long to be written or a text that is torn. Then the file is left with what
comes before the number or the text. Classifications and descriptions hold no numbers, and their texts
are whole, so only the other two commands do so. Nothing is claimed of servers that send halves of
characters: what they send is read with the replacement character in place of each, and so as whole.
-/

namespace DistrictAtlas

namespace Arguments

/-- What a run delivers is a document with a number that is too long to be written, or with a text that
is torn. -/
def StopsInside (arguments : Arguments) (scene : Scene) (document : Value) : Prop :=
  (∃ started atlas, arguments.Delivers scene started atlas (.document document)) ∧
    ((∃ n ∈ document.numbers, Digits.tooLong n = true) ∨ document.isWhole = false)

variable {arguments : Arguments} {scene : Scene} {file : String}

/-- What a run delivers to a file stops it only if the command is one of two. -/
theorem StopsInside.command {document : Value} (h : arguments.StopsInside scene document)
    (hout : arguments.options.out.text? = some file) :
    arguments.command = .style ∨ arguments.command = .inspect := by
  obtain ⟨⟨started, atlas, hdelivers⟩, hstops⟩ := h
  have hmakes := hdelivers.makes
  cases hcommand : arguments.command with
  | style => exact Or.inl rfl
  | inspect => exact Or.inr rfl
  | classify =>
    rw [Scene.prepare_classify_file hcommand hout] at hmakes
    obtain ⟨codes, -, hnone⟩ := Outcome.map_eq_ok_iff.mp hmakes
    cases hnone
  | describe =>
    rw [Scene.prepare_describe_file hcommand hout] at hmakes
    obtain ⟨codes, -, hall⟩ := Outcome.bind_eq_ok_iff.mp hmakes
    obtain ⟨descriptions, -, hdocument⟩ := Outcome.map_eq_ok_iff.mp hall
    cases hdocument
    exact absurd ((Json.transcript_stops_iff _).mpr hstops)
      (Bool.eq_false_iff.mp (Delivery.stops_descriptions descriptions))

end Arguments

end DistrictAtlas
