import DistrictAtlas.Proofs.Files.Writing
import DistrictAtlas.Proofs.Outcome

/-!
# What files keep

Making directories changes no file, and writing a file changes none but the one that its path leads
to. Directories only come and never go, so a path that led to a place leads there ever after.
-/

namespace DistrictAtlas.Files

namespace KeepsDirectories

variable {files changed last : Files}

/-- Unchanged files keep their directories. -/
theorem refl (files : Files) : KeepsDirectories files files :=
  ⟨rfl, fun _ h => h⟩

/-- Directories that are kept by two changes are kept by both of them together. -/
theorem trans (h : KeepsDirectories files changed) (hlast : KeepsDirectories changed last) :
    KeepsDirectories files last :=
  ⟨hlast.home.trans h.home, fun place hplace => hlast.directory place (h.directory place hplace)⟩

end KeepsDirectories

/-- The bytes of the file at a place, if there is a file. -/
def bytesAt? (files : Files) (place : List String) : Option Bytes :=
  match files.at? place with
  | some (.file bytes) => some bytes
  | _ => none

/-- Files became others: directories stayed, and so did all files except at certain places. -/
structure KeepsBut (files changed : Files) (exempt : List String → Prop) : Prop where
  /-- Directories stayed. -/
  directories : KeepsDirectories files changed
  /-- Files stayed, and none came, except at certain places. -/
  bytes : ∀ place, ¬exempt place → changed.bytesAt? place = files.bytesAt? place

namespace KeepsBut

variable {files changed last : Files} {exempt more : List String → Prop}

/-- Unchanged files keep everything. -/
theorem refl (files : Files) (exempt : List String → Prop) : KeepsBut files files exempt :=
  ⟨.refl files, fun _ _ => rfl⟩

/-- More places may be exempt. -/
theorem mono (h : KeepsBut files changed exempt) (hmore : ∀ place, exempt place → more place) :
    KeepsBut files changed more :=
  ⟨h.directories, fun place hplace => h.bytes place fun hexempt => hplace (hmore place hexempt)⟩

/-- What two changes keep, both of them together keep. -/
theorem trans (h : KeepsBut files changed exempt) (hlast : KeepsBut changed last exempt) :
    KeepsBut files last exempt := by
  refine ⟨h.directories.trans hlast.directories, fun place hplace => ?_⟩
  rw [hlast.bytes place hplace, h.bytes place hplace]

end KeepsBut

/-- A file at one place leaves all other places as they are. -/
theorem at?_withFile_of_ne (files : Files) {place other : List String} (bytes : Bytes)
    (h : other ≠ place) : (files.withFile place bytes).at? other = files.at? other := by
  have hne : (place == other) = false := beq_false_of_ne h.symm
  unfold at? withFile
  rw [Entries.get?_put, hne, if_neg Bool.false_ne_true]

/-- Changing a file makes no directories. -/
theorem keepsDirectories_of_update {files changed : Files} {path : Path} {change : Bytes → Bytes}
    (h : files.update path change = .ok changed) : KeepsDirectories changed files := by
  obtain ⟨place, old, -, hfree, rfl⟩ := update_ok h
  refine ⟨rfl, fun other hother => ?_⟩
  by_cases hne : other = place
  · rw [hne, at?_withFile hfree] at hother
    cases hother
  · rwa [at?_withFile_of_ne files (change old) hne] at hother

/-- Changing the file at a path changes no other file, and the path leads to it then. -/
theorem keepsBut_of_update {files changed : Files} {path : Path} {change : Bytes → Bytes}
    (h : files.update path change = .ok changed) : ∃ place, changed.locate path = .ok place ∧
      (∃ old, changed.bytesAt? place = some (change old)) ∧
      KeepsBut files changed (· = place) := by
  obtain ⟨place, old, hlocate, hfree, rfl⟩ := update_ok h
  have hdirectories : KeepsDirectories files (files.withFile place (change old)) :=
    keepsDirectories_withFile hfree
  refine ⟨place, hdirectories.locate hlocate, ⟨old, ?_⟩, hdirectories, ?_⟩
  · unfold bytesAt?
    rw [at?_withFile hfree]
  · intro other hother
    unfold bytesAt?
    rw [at?_withFile_of_ne files (change old) hother]

/-- Making a directory where there may be one already changes no file. -/
theorem keepsBut_of_provide {files changed : Files} {place : List String}
    (h : files.provide place = .ok changed) : KeepsBut files changed fun _ => False := by
  unfold provide at h
  split at h
  · next hnone =>
    cases h
    have hhome : place.isPrefixOf files.home = false := by
      apply Bool.eq_false_iff.mpr
      intro hprefix
      rw [at?, if_pos hprefix] at hnone
      cases hnone
    have hplace : files.at? place = none := hnone
    have hother : ∀ other, other ≠ place →
        at? { files with entries := Entries.put place .directory files.entries } other =
          files.at? other := by
      intro other hne
      have hbeq : (place == other) = false := beq_false_of_ne hne.symm
      unfold at?
      rw [Entries.get?_put, hbeq, if_neg Bool.false_ne_true]
    have hself : at? { files with entries := Entries.put place .directory files.entries } place =
        some .directory := by
      rw [at?, hhome, if_neg Bool.false_ne_true, Entries.get?_put_self]
    refine ⟨⟨rfl, ?_⟩, ?_⟩
    · intro other hdirectory
      by_cases hne : other = place
      · rw [hne]
        exact hself
      · rw [hother other hne]
        exact hdirectory
    · intro other _
      unfold bytesAt?
      by_cases hne : other = place
      · rw [hne, hself, hplace]
      · rw [hother other hne]
  · cases h
    exact KeepsBut.refl _ _
  · cases h

/-- A directory that is made at the end of a path changes no file. -/
theorem keepsBut_of_provide_bind {files changed : Files} {path : Path} {place : List String}
    {found : Except FileProblem (List String)}
    (h : (found.bind fun place => (files.provide place).map (·, place)).mapError
      (FileFault.mk · path) = .ok (changed, place)) :
    KeepsBut files changed fun _ => False := by
  obtain ⟨there, -, hmade⟩ := Outcome.bind_eq_ok_iff.mp (Outcome.mapError_eq_ok_iff.mp h)
  obtain ⟨made, hprovide, hchanged⟩ := Outcome.map_eq_ok_iff.mp hmade
  cases hchanged
  exact keepsBut_of_provide hprovide

/-- Making all directories of a path changes no file. -/
theorem keepsBut_of_provideAll {files changed : Files} {more : Nat} {path : Path}
    {place : List String} (h : files.provideAll more path = .ok (changed, place)) :
    KeepsBut files changed fun _ => False := by
  induction more generalizing path changed place with
  | zero =>
    unfold provideAll at h
    cases hlocate : files.locate path with
    | ok there =>
      rw [hlocate] at h
      exact keepsBut_of_provide_bind h
    | error problem =>
      rw [hlocate] at h
      cases problem <;> cases h
  | succ more ih =>
    unfold provideAll at h
    cases hlocate : files.locate path with
    | ok there =>
      rw [hlocate] at h
      exact keepsBut_of_provide_bind h
    | error problem =>
      rw [hlocate] at h
      cases problem with
      | notFound =>
        -- the directories above come first, and they are kept by what is made in them
        dsimp only at h
        cases habove : files.provideAll more path.parent with
        | error fault =>
          rw [habove] at h
          cases h
        | ok above =>
          rw [habove] at h
          exact (ih habove).trans (keepsBut_of_provide_bind h)
      | _ => cases h

/-- Making sure that there is a directory changes no file. -/
theorem keepsBut_of_ensureDirectory {files changed : Files} {path : Path}
    (h : files.ensureDirectory path = .ok changed) : KeepsBut files changed fun _ => False := by
  obtain ⟨made, hprovide, hchanged⟩ := Outcome.map_eq_ok_iff.mp h
  cases hchanged
  exact keepsBut_of_provideAll hprovide

/-- Changing the file at a path after its directory was made changes no other file, and the path
leads to it then. -/
theorem keepsBut_of_provided_update {files provided changed : Files} {path : Path}
    {change : Bytes → Bytes} (hprovided : files.ensureDirectory path.parent = .ok provided)
    (h : provided.update path change = .ok changed) : ∃ place, changed.locate path = .ok place ∧
      (∃ old, changed.bytesAt? place = some (change old)) ∧
      KeepsBut files changed (· = place) := by
  obtain ⟨place, hlocate, hbytes, hkeeps⟩ := keepsBut_of_update h
  have hdirectory := keepsBut_of_ensureDirectory hprovided
  exact ⟨place, hlocate, hbytes, (hdirectory.mono fun _ => False.elim).trans hkeeps⟩

/-- Writing a file puts the text at the place of the path and changes no other file. -/
theorem keepsBut_of_write {files written : Files} {path : Path} {text : String}
    (h : files.write path text = .ok written) : ∃ place, written.locate path = .ok place ∧
      written.bytesAt? place = some (Utf8.encode text) ∧ KeepsBut files written (· = place) := by
  unfold write at h
  cases hdirectory : files.ensureDirectory path.parent with
  | error fault =>
    rw [hdirectory] at h
    cases h
  | ok provided =>
    rw [hdirectory] at h
    obtain ⟨place, hlocate, ⟨_, hbytes⟩, hkeeps⟩ := keepsBut_of_provided_update hdirectory h
    exact ⟨place, hlocate, hbytes, hkeeps⟩

/-- Opening a file for additions changes no other file, and the path leads to it then. -/
theorem keepsBut_of_openForAppend {files opened : Files} {path : Path}
    (h : files.openForAppend path = .ok opened) : ∃ place, opened.locate path = .ok place ∧
      KeepsBut files opened (· = place) := by
  unfold openForAppend at h
  cases hdirectory : files.ensureDirectory path.parent with
  | error fault =>
    rw [hdirectory] at h
    cases h
  | ok provided =>
    rw [hdirectory] at h
    obtain ⟨place, hlocate, -, hkeeps⟩ := keepsBut_of_provided_update hdirectory h
    exact ⟨place, hlocate, hkeeps⟩

/-- A file that can be read is there. -/
theorem hasPath_of_read {files : Files} {path : Path} {bytes : Bytes}
    (h : files.read path = .ok bytes) : files.hasPath path = .ok true := by
  unfold read at h
  unfold hasPath
  cases hfind : files.find path with
  | ok content => rfl
  | error problem =>
    rw [hfind] at h
    cases h

/-- What is read of a file is the bytes at the place that the path leads to. -/
theorem read_eq_ok_iff {files : Files} {path : Path} {bytes : Bytes} :
    files.read path = .ok bytes ↔
      ∃ place, files.locate path = .ok place ∧ files.bytesAt? place = some bytes := by
  unfold read find bytesAt?
  cases files.locate path with
  | error problem =>
    constructor
    · intro h
      cases h
    · rintro ⟨place, hplace, -⟩
      cases hplace
  | ok place =>
    dsimp only
    constructor
    · intro h
      refine ⟨place, rfl, ?_⟩
      cases hcontent : files.at? place with
      | none =>
        rw [hcontent] at h
        cases h
      | some content =>
        rw [hcontent] at h
        cases content with
        | file found =>
          cases h
          rfl
        | directory => cases h
    · rintro ⟨other, hother, hbytes⟩
      cases hother
      cases hcontent : files.at? place with
      | none =>
        rw [hcontent] at hbytes
        cases hbytes
      | some content =>
        rw [hcontent] at hbytes
        cases content with
        | file found =>
          cases hbytes
          rfl
        | directory => cases hbytes

end DistrictAtlas.Files
