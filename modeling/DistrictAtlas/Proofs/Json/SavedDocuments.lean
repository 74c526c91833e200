import DistrictAtlas.Command.Run
import DistrictAtlas.Proofs.Fetch.Manifests
import DistrictAtlas.Proofs.Files.Keeping
import DistrictAtlas.Proofs.Json.Written
import DistrictAtlas.Proofs.Text.Joining

/-!
# Saved documents are read back

A plain document is saved in its canonical form, so that documents which are the same up to order make
the same file. The file ends with a new line, and all its line ends are line feeds. It is read as the
document, up to order, unless the document is nested deeper than one from outside may be; then the
file is refused.
-/

namespace DistrictAtlas

namespace Json

open Value

/-! ## Line ends -/

/-- No control characters but line feeds. -/
def IsClean (cs : List Char) : Prop := ∀ c ∈ cs, c = '\n' ∨ 0x20 ≤ c.toNat

/-- Characters are clean if they are in both parts. -/
theorem isClean_append {cs others : List Char} :
    IsClean (cs ++ others) ↔ IsClean cs ∧ IsClean others :=
  List.forall_mem_append

/-- One more character has to be a line feed or no control character. -/
theorem isClean_cons {c : Char} {cs : List Char} :
    IsClean (c :: cs) ↔ (c = '\n' ∨ 0x20 ≤ c.toNat) ∧ IsClean cs :=
  List.forall_mem_cons

/-- A new line is clean. -/
theorem isClean_newline (level : Nat) : IsClean (newline level).toList := by
  intro c hc
  rw [newline, String.toList_ofList, List.mem_cons] at hc
  rcases hc with rfl | hblank
  · exact Or.inl rfl
  · rw [List.eq_of_mem_replicate hblank]
    decide

/-- A key is clean. -/
theorem isClean_keyChars (name : String) {cs : List Char} (h : IsClean cs) :
    IsClean (keyChars name cs) := by
  have hcolon : (':' = '\n' ∨ 0x20 ≤ ':'.toNat) ∧ (' ' = '\n' ∨ 0x20 ≤ ' '.toNat) := by decide
  rw [keyChars, isClean_append, isClean_cons, isClean_cons]
  exact ⟨fun c hc => Or.inr (le_toNat_of_mem_quoted hc), hcolon.1, hcolon.2, h⟩

/-- Items are clean if each of them is. -/
theorem isClean_itemChars {items : List Value} {level : Nat} (hplain : ∀ item ∈ items, item.IsPlain)
    (h : ∀ item ∈ items, IsClean (chars level item)) : IsClean (itemChars level items) := by
  induction items with
  | nil => exact nofun
  | cons item more ih =>
    obtain ⟨hitem, hmore⟩ := List.forall_mem_cons.mp hplain
    obtain ⟨hfirst, hothers⟩ := List.forall_mem_cons.mp h
    cases more with
    | nil => rwa [itemChars_singleton hitem]
    | cons next others =>
      rw [itemChars_cons hitem (hmore next List.mem_cons_self), isClean_append, isClean_cons,
        isClean_append]
      exact ⟨hfirst, by decide, isClean_newline level, ih hmore hothers⟩

/-- Entries are clean if each of their values is. -/
theorem isClean_entryChars {entries : List (Scalar × Value)} {level : Nat}
    (htexts : ∀ key ∈ Entries.keys entries, ∃ name, key = .text name)
    (h : ∀ entry ∈ entries, IsClean (chars level entry.2)) : IsClean (entryChars level entries) := by
  induction entries with
  | nil => exact nofun
  | cons entry more ih =>
    obtain ⟨key, value⟩ := entry
    obtain ⟨name, rfl⟩ := htexts key List.mem_cons_self
    have hvalue : IsClean (chars level value) := h _ List.mem_cons_self
    cases more with
    | nil =>
      rw [entryChars_singleton]
      exact isClean_keyChars name hvalue
    | cons next others =>
      obtain ⟨nextKey, other⟩ := next
      have hmore := ih (fun key hkey => htexts key (List.mem_cons_of_mem _ hkey))
        (List.forall_mem_cons.mp h).2
      obtain ⟨nextName, rfl⟩ := htexts nextKey (List.mem_cons_of_mem _ List.mem_cons_self)
      rw [entryChars_cons]
      refine isClean_keyChars name ?_
      rw [isClean_append, isClean_cons, isClean_append]
      exact ⟨hvalue, by decide, isClean_newline level, hmore⟩

/-- The text of a plain document is clean. -/
theorem isClean_chars {value : Value} (h : value.IsPlain) : ∀ level, IsClean (chars level value) := by
  have hempty : (∀ c ∈ ['[', ']'], c = '\n' ∨ 0x20 ≤ c.toNat) ∧
      ∀ c ∈ ['\x7b', '\x7d'], c = '\n' ∨ 0x20 ≤ c.toNat := by simp
  induction h with
  | scalar hs =>
    intro level
    rw [chars_scalar hs]
    exact fun c hc => Or.inr (le_toNat_of_mem_scalarText hs hc)
  | @list items hitems ih =>
    intro level
    cases items with
    | nil => exact hempty.1
    | cons item more =>
      have hinside := isClean_itemChars hitems fun other hother => ih other hother (level + 1)
      rw [chars_list (hitems item List.mem_cons_self)]
      simp only [isClean_cons, isClean_append]
      exact ⟨by decide, isClean_newline _, hinside, isClean_newline _, by decide, nofun⟩
  | @mapping entries hkeys _ ih =>
    intro level
    cases entries with
    | nil => exact hempty.2
    | cons entry more =>
      have hinside := isClean_entryChars hkeys.texts fun other hother => ih other hother (level + 1)
      obtain ⟨key, value⟩ := entry
      obtain ⟨name, rfl⟩ := hkeys.texts key List.mem_cons_self
      rw [chars_mapping]
      simp only [isClean_cons, isClean_append]
      exact ⟨by decide, isClean_newline _, hinside, isClean_newline _, by decide, nofun⟩

/-! ## The text of a document -/

/-- Whole texts have the characters of all of them. -/
theorem joined_map_whole (texts : List String) :
    joined (texts.map fun text => some (.whole text)) = (String.join texts).toList := by
  rw [joined, List.flatMap_map, String.toList_join]
  rfl

/-- The writing of a plain document is not stopped. -/
theorem any_stopsAt_of_isPlain {value : Value} (h : value.IsPlain) :
    (fragments 0 (canonical value)).any stopsAt = false := by
  have hplain := (canonical_eq_of_same (same_canonical h) h).1
  rw [any_stopsAt_fragments, hplain.isWhole, Bool.not_true, Bool.or_false, List.any_eq_false]
  intro n hn
  rw [hplain.tooLong_eq_false n hn]
  exact Bool.false_ne_true

/-- The text of a plain document is that of its canonical form, and the writing is not stopped. -/
theorem transcript_of_isPlain {value : Value} (h : value.IsPlain) :
    transcript value = (String.ofList (chars 0 (canonical value)), none) := by
  obtain ⟨texts, htexts⟩ := eq_map_of_not_stopsAt (any_stopsAt_of_isPlain h)
  rw [transcript, chars, htexts, upToHindrance_map_whole, joined_map_whole, String.ofList_toList]

/-- A plain document is rendered. -/
theorem render_of_isPlain {value : Value} (h : value.IsPlain) :
    render value = .ok (String.ofList (chars 0 (canonical value))) :=
  render_of_transcript (transcript_of_isPlain h)

/-- The file of a plain document has no line ends but line feeds. -/
theorem isClean_rendered {value : Value} (h : value.IsPlain) :
    IsClean (String.ofList (chars 0 (canonical value)) ++ "\n").toList := by
  have hplain := (canonical_eq_of_same (same_canonical h) h).1
  rw [String.toList_append, String.toList_ofList, isClean_append]
  exact ⟨isClean_chars hplain 0, by simp [IsClean]⟩

/-- The rendered text of a plain document, with the new line that is put behind it in a file, is read
as the canonical form of the document, unless this is nested too deep. -/
theorem readWithin_rendered {value : Value} (h : value.IsPlain) (depth : Nat) :
    (value.nesting ≤ depth →
      readWithin depth (String.ofList (chars 0 (canonical value)) ++ "\n") = .ok (canonical value)) ∧
    (¬value.nesting ≤ depth → ∃ nested,
      readWithin depth (String.ofList (chars 0 (canonical value)) ++ "\n") =
        .error (.tooDeep nested)) := by
  have hsame := same_canonical h
  have hplain := (canonical_eq_of_same hsame h).1
  have hgap : IsGap ['\n'] := by simp [IsGap, isSpace]
  have hchars : (String.ofList (chars 0 (canonical value)) ++ "\n").toList =
      chars 0 (canonical value) ++ ['\n'] := by
    rw [String.toList_append, String.toList_ofList]
    rfl
  obtain ⟨hfits, hdeep⟩ := readDocument_chars hplain depth hgap (endsNumber_newline [])
  rw [readWithin, hchars, hsame.nesting_eq]
  refine ⟨fun hle => ?_, fun hnot => ?_⟩
  · rw [hfits hle]
    rfl
  · obtain ⟨nested, hstop⟩ := hdeep hnot
    exact ⟨nested, by rw [hstop]; rfl⟩

end Json

/-! ## Files -/

/-- A file that was written holds the document that its text writes. -/
theorem Source.manifestFile_of_write {files written : Files} {path : Path} {text : String}
    (h : files.write path text = .ok written) (depth : Nat) :
    manifestFile depth written path =
      ((Json.readWithin depth (Text.withLineFeeds text)).map some).mapError .json := by
  have hread := Files.read_of_write h
  rw [manifestFile_of_hasPath (Files.hasPath_of_read hread), fileText_eq_ok_iff.mpr hread]
  dsimp only [bind, Except.bind]
  cases Json.readWithin depth (Text.withLineFeeds text) with
  | ok document => rfl
  | error fault => rfl

namespace Scene

/-- A plain document is saved as its text with a new line behind it. -/
theorem saveDocument_of_isPlain (scene : Scene) (file : String) {document : Value}
    (h : document.IsPlain) :
    scene.saveDocument file document =
      scene.save file (String.ofList (Json.chars 0 (Json.canonical document)) ++ "\n") := by
  rw [saveDocument, Json.transcript_of_isPlain h]

/-- What is saved was written to its file. -/
theorem write_of_save {scene saved : Scene} {file text : String}
    (h : scene.save file text = ⟨saved, .ok ()⟩) :
    scene.files.write (Path.read file) text = .ok saved.files := by
  unfold save at h
  split at h
  · cases h
  · next hwritten =>
    cases h
    exact hwritten

/-- The file to which a plain document was saved holds its canonical form, unless the document is nested
too deep for the one who reads. -/
theorem manifestFile_of_saveDocument {scene saved : Scene} {file : String} {document : Value}
    (h : document.IsPlain) (hsaved : scene.saveDocument file document = ⟨saved, .ok ()⟩)
    (depth : Nat) :
    (document.nesting ≤ depth →
      Source.manifestFile depth saved.files (Path.read file) =
        .ok (some (Json.canonical document))) ∧
    (¬document.nesting ≤ depth → ∃ nested,
      Source.manifestFile depth saved.files (Path.read file) =
        .error (.json (.tooDeep nested))) := by
  rw [saveDocument_of_isPlain scene file h] at hsaved
  have hmanifest := Source.manifestFile_of_write (write_of_save hsaved) depth
  have hclean := Json.isClean_rendered h
  have hreturn : '\r' ∉ (String.ofList (Json.chars 0 (Json.canonical document)) ++ "\n").toList :=
    fun hmem => absurd (hclean '\r' hmem) (by decide)
  rw [Text.withLineFeeds_eq_self hreturn] at hmanifest
  obtain ⟨hfits, hdeep⟩ := Json.readWithin_rendered h depth
  rw [hmanifest]
  refine ⟨fun hle => ?_, fun hnot => ?_⟩
  · rw [hfits hle]
    rfl
  · obtain ⟨nested, hstop⟩ := hdeep hnot
    exact ⟨nested, by rw [hstop]; rfl⟩

/-- A plain document that is not nested deeper than a document from outside may be is rendered. What is
rendered is saved with a new line behind it, and documents that are the same up to order come out as the
same. The text, and after the saving the file, is read as the document, up to order, if this is not
nested deeper than it may be for the one who reads; otherwise the reading fails for the depth, and gives
no other document. -/
theorem saved_document_read_back (scene : Scene) (file : String) {document : Value}
    (h : document.IsPlain) :
    (document.nesting ≤ Json.nestingLimit → ∃ text, Json.render document = .ok text) ∧
      (∀ other, document.SameUpToOrder other → Json.render other = Json.render document ∧
        scene.saveDocument file other = scene.saveDocument file document) ∧
      ∃ found, document.SameUpToOrder found ∧
        (∀ text, Json.render document = .ok text →
          scene.saveDocument file document = scene.save file (text ++ "\n") ∧
          ∀ depth,
            (document.nesting ≤ depth → Json.readWithin depth (text ++ "\n") = .ok found) ∧
            (¬document.nesting ≤ depth →
              ∃ nested, Json.readWithin depth (text ++ "\n") = .error (.tooDeep nested))) ∧
        ∀ saved, scene.saveDocument file document = ⟨saved, .ok ()⟩ → ∀ depth,
          (document.nesting ≤ depth →
            Source.manifestFile depth saved.files (Path.read file) = .ok (some found)) ∧
          (¬document.nesting ≤ depth → ∃ nested,
            Source.manifestFile depth saved.files (Path.read file) =
              .error (.json (.tooDeep nested))) := by
  have hrender := Json.render_of_isPlain h
  refine ⟨fun _ => ⟨_, hrender⟩, ?_, Json.canonical document, Json.same_canonical h, ?_,
    fun _ => manifestFile_of_saveDocument h⟩
  · intro other hsame
    obtain ⟨hother, hcanonical⟩ := Json.canonical_eq_of_same hsame h
    rw [hrender, Json.render_of_isPlain hother, saveDocument_of_isPlain scene file hother,
      saveDocument_of_isPlain scene file h, hcanonical]
    exact ⟨rfl, rfl⟩
  · intro text htext
    obtain rfl := Except.ok.inj (hrender.symm.trans htext)
    exact ⟨saveDocument_of_isPlain scene file h, Json.readWithin_rendered h⟩

/-- An empty scene without a log. -/
def bareScene : Scene where
  files := {}
  network := ⟨[], "-"⟩

/-- In an empty scene a document can be saved to a new file in a new directory. -/
theorem exists_saved {document : Value} (h : document.IsPlain) :
    ∃ saved, bareScene.saveDocument "out/areas.json" document = ⟨saved, .ok ()⟩ := by
  have hfree : (bareScene.files.write (Path.read "out/areas.json") "").isOk = true := by
    decide +kernel
  obtain ⟨written, hwritten⟩ := Files.exists_write hfree
    (String.ofList (Json.chars 0 (Json.canonical document)) ++ "\n")
  refine ⟨{ bareScene with files := written }, ?_⟩
  rw [saveDocument_of_isPlain bareScene _ h, save, hwritten]

/-- A mapping with keys that are out of order, and with quotes, control characters, letters outside
ASCII and empty parts inside. -/
def sampleDocument : Value :=
  .record [("z\n\"", .list [.null, .list [], .int (-120), .mapping []]),
    ("é", .record [("\\u0041", .text "\r\t\u0001\u2028"), ("", .scalar (.bool true))])]

/-- The sample is plain. -/
theorem isPlain_sampleDocument : sampleDocument.IsPlain := by
  have hlist : (Value.list [.null, .list [], .int (-120), .mapping []]).IsPlain := by
    have hshort : (Digits.ofNat (-120 : Int).natAbs).length ≤ Digits.limit := by decide
    refine .list ?_
    simp only [List.forall_mem_cons]
    exact ⟨.scalar trivial, .list nofun, .scalar hshort, .mapping ⟨nofun, .nil⟩ nofun, nofun⟩
  have hinner : (Value.record
      [("\\u0041", .text "\r\t\u0001\u2028"), ("", .scalar (.bool true))]).IsPlain := by
    refine Value.isPlain_record (by decide) ?_
    simp only [List.forall_mem_cons]
    exact ⟨.scalar trivial, .scalar trivial, nofun⟩
  refine Value.isPlain_record (by decide) ?_
  simp only [List.forall_mem_cons]
  exact ⟨hlist, hinner, nofun⟩

/-- The sample is saved and read back. -/
theorem sampleDocument_read_back : sampleDocument.IsPlain ∧ ∃ saved found,
    bareScene.saveDocument "out/areas.json" sampleDocument = ⟨saved, .ok ()⟩ ∧
      sampleDocument.SameUpToOrder found ∧
      Source.manifestFile Json.nestingLimit saved.files (Path.read "out/areas.json") =
        .ok (some found) := by
  obtain ⟨saved, hsaved⟩ := exists_saved isPlain_sampleDocument
  obtain ⟨-, -, found, hsame, -, hfile⟩ :=
    saved_document_read_back bareScene "out/areas.json" isPlain_sampleDocument
  have hdepth : sampleDocument.nesting ≤ Json.nestingLimit := by decide
  exact ⟨isPlain_sampleDocument, saved, found, hsaved, hsame, (hfile saved hsaved _).1 hdepth⟩

/-- Lists inside one another, so many times. -/
def nestedLists : Nat → Value
  | 0 => .null
  | count + 1 => .list [nestedLists count]

/-- Nested lists are a plain document. -/
theorem isPlain_nestedLists (count : Nat) : (nestedLists count).IsPlain := by
  induction count with
  | zero => exact .scalar trivial
  | succ count ih => exact .list (List.forall_mem_singleton.mpr ih)

/-- Lists inside one another are nested so deep. -/
theorem nesting_nestedLists (count : Nat) : (nestedLists count).nesting = count := by
  induction count with
  | zero => rfl
  | succ count ih =>
    rw [nestedLists, Value.nesting, Value.itemsNesting, Value.itemsNesting, ih, Nat.max_zero]

/-- A mapping in which lists are nested a few levels deeper than a document from outside may be. -/
def deepDocument : Value := .record [("a", nestedLists 990)]

/-- Not every plain document that was saved is read back. -/
theorem deepDocument_not_read_back :
    ¬∀ document : Value, document.IsPlain → ∀ (scene saved : Scene) (file : String),
      scene.saveDocument file document = ⟨saved, .ok ()⟩ → ∃ found, document.SameUpToOrder found ∧
        Source.manifestFile Json.nestingLimit saved.files (Path.read file) = .ok (some found) := by
  intro hall
  have hplain : deepDocument.IsPlain :=
    Value.isPlain_record (List.nodup_singleton _)
      (List.forall_mem_singleton.mpr (isPlain_nestedLists _))
  have hdeep : ¬deepDocument.nesting ≤ Json.nestingLimit := by
    have hnesting : deepDocument.nesting = max (nestedLists 990).nesting 0 + 1 := rfl
    rw [hnesting, nesting_nestedLists]
    decide
  obtain ⟨saved, hsaved⟩ := exists_saved hplain
  obtain ⟨found, -, hfound⟩ := hall deepDocument hplain bareScene saved _ hsaved
  obtain ⟨nested, hrefused⟩ := (manifestFile_of_saveDocument hplain hsaved _).2 hdeep
  rw [hrefused] at hfound
  cases hfound

end Scene

end DistrictAtlas
