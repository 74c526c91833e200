import DistrictAtlas.Files.Store

/-!
# What is written is read back

Writing a file changes what lies at one place, and this place is no directory. So every directory
stays one, every path leads where it led before, and the file is found at its path with what was
written.
-/

namespace DistrictAtlas.Files

/-- The directories of one store are directories of another that has the same working directory. -/
structure KeepsDirectories (files changed : Files) : Prop where
  /-- The working directory is the same. -/
  home : changed.home = files.home
  /-- A directory is still one. -/
  directory : ∀ place, files.at? place = some .directory → changed.at? place = some .directory

namespace KeepsDirectories

variable {files changed : Files}

/-- Names lead where they led before. -/
theorem follow (h : KeepsDirectories files changed) {start place : List String}
    {names : List String} (hfollow : files.follow start names = .ok place) :
    changed.follow start names = .ok place := by
  -- a place that names are followed from is a directory, and this is what has been kept
  induction names generalizing start with
  | nil => exact hfollow
  | cons name rest ih =>
    rw [Files.follow] at hfollow
    cases hstart : files.at? start with
    | none =>
      rw [hstart] at hfollow
      cases hfollow
    | some content =>
      cases content with
      | file bytes =>
        rw [hstart] at hfollow
        cases hfollow
      | directory =>
        rw [hstart] at hfollow
        rw [Files.follow, h.directory start hstart]
        cases hinside : inside start name with
        | error problem =>
          rw [hinside] at hfollow
          cases hfollow
        | ok next =>
          rw [hinside] at hfollow
          exact ih hfollow

/-- A path leads where it led before. -/
theorem locate (h : KeepsDirectories files changed) {path : Path} {place : List String}
    (hlocate : files.locate path = .ok place) : changed.locate path = .ok place := by
  unfold Files.locate at hlocate ⊢
  split at hlocate
  · cases hlocate
  · next hclear =>
    split at hlocate
    · cases hlocate
    · next hshort =>
      rw [if_neg hclear, if_neg hshort, h.home]
      exact h.follow hlocate

end KeepsDirectories

/-- The files with a file at a place. -/
def withFile (files : Files) (place : List String) (bytes : Bytes) : Files :=
  { files with entries := Entries.put place (.file bytes) files.entries }

/-- Changing a file puts what it is changed to at the place of the path, and there is no directory.
-/
theorem update_ok {files changed : Files} {path : Path} {change : Bytes → Bytes}
    (h : files.update path change = .ok changed) : ∃ place old, files.locate path = .ok place ∧
      files.at? place ≠ some .directory ∧ changed = files.withFile place (change old) := by
  unfold update at h
  cases hlocate : files.locate path with
  | error problem =>
    rw [hlocate] at h
    cases h
  | ok place =>
    rw [hlocate] at h
    dsimp only at h
    cases hat : files.at? place with
    | none =>
      have hfree : files.at? place ≠ some .directory := fun heq => nomatch hat.symm.trans heq
      rw [hat] at h
      exact ⟨place, [], rfl, hfree, (Except.ok.inj h).symm⟩
    | some content =>
      rw [hat] at h
      cases content with
      | file old =>
        have hfree : files.at? place ≠ some .directory := fun heq => nomatch hat.symm.trans heq
        exact ⟨place, old, rfl, hfree, (Except.ok.inj h).symm⟩
      | directory => cases h

section WithFile

variable {files : Files} {place : List String} {bytes : Bytes}
  (h : files.at? place ≠ some .directory)

include h

/-- Where there is no directory, the way to the working directory does not pass. -/
theorem isPrefixOf_home_eq_false : place.isPrefixOf files.home = false :=
  Bool.eq_false_iff.mpr fun hprefix => h (if_pos hprefix)

/-- The file is at its place. -/
theorem at?_withFile : (files.withFile place bytes).at? place = some (.file bytes) := by
  rw [at?, withFile, isPrefixOf_home_eq_false h, if_neg Bool.false_ne_true, Entries.get?_put_self]

/-- With a file where there is no directory, directories stay. -/
theorem keepsDirectories_withFile : KeepsDirectories files (files.withFile place bytes) := by
  refine ⟨rfl, fun other hother => ?_⟩
  have hne : (place == other) = false := beq_false_of_ne fun heq => h (heq ▸ hother)
  unfold at? withFile at *
  rwa [Entries.get?_put, hne, if_neg Bool.false_ne_true]

end WithFile

/-- A file that was changed is read as what it was changed to. -/
theorem read_of_update {files changed : Files} {path : Path} {change : Bytes → Bytes}
    (h : files.update path change = .ok changed) : ∃ old, changed.read path = .ok (change old) := by
  obtain ⟨place, old, hlocate, hat, rfl⟩ := update_ok h
  have hfind : (files.withFile place (change old)).find path = .ok (.file (change old)) := by
    rw [find, (keepsDirectories_withFile hat).locate hlocate]
    dsimp only
    rw [at?_withFile hat]
  refine ⟨old, ?_⟩
  rw [read, hfind]

/-- A file that was written is read as the bytes of what was written. -/
theorem read_of_write {files written : Files} {path : Path} {text : String}
    (h : files.write path text = .ok written) : written.read path = .ok (Utf8.encode text) := by
  unfold write at h
  cases hdirectory : files.ensureDirectory path.parent with
  | error fault =>
    rw [hdirectory] at h
    cases h
  | ok provided =>
    rw [hdirectory] at h
    obtain ⟨_, hread⟩ := read_of_update h
    exact hread

/-- Whether a file can be changed does not depend on how it is changed. -/
theorem exists_update {files : Files} {path : Path} {change : Bytes → Bytes}
    (h : (files.update path change).isOk = true) (other : Bytes → Bytes) :
    ∃ changed, files.update path other = .ok changed := by
  unfold update at *
  cases hplace : files.locate path with
  | error problem =>
    rw [hplace] at h
    cases h
  | ok place =>
    rw [hplace] at h
    dsimp only at *
    split
    · next hcontent =>
      rw [hcontent] at h
      cases h
    · exact ⟨_, rfl⟩
    · exact ⟨_, rfl⟩

/-- Whether a file can be written does not depend on what is written. -/
theorem exists_write {files : Files} {path : Path} {text : String}
    (h : (files.write path text).isOk = true) (other : String) :
    ∃ written, files.write path other = .ok written := by
  unfold write at *
  cases hdirectory : files.ensureDirectory path.parent with
  | error fault =>
    rw [hdirectory] at h
    cases h
  | ok provided =>
    rw [hdirectory] at h
    exact exists_update h _

end DistrictAtlas.Files
