import DistrictAtlas.Proofs.Fetch.ContentType
import DistrictAtlas.Proofs.Fetch.Manifests

/-!
# Payloads that cannot be read

There is a kind of failure for tables and manifests that cannot be read, and two more below it for
servers. A server's failures are of these kinds unless its answer names a character set by which nothing
is read, holds a document that is nested too deep, or is an error to the library because the parameter
for the character set lacks its value. A file that is there but cannot be read fails with
the kind of the operation that failed, whatever is wrong with it.
-/

namespace DistrictAtlas

/-- A failure is of the kind for payloads that cannot be read, or of a kind below it. -/
def Failure.IsOfSource (failure : Failure) : Prop :=
  failure.kind ∈ ["SourceError", "HttpRequestError", "RetryableHttpError"]

namespace Failure

/-- A failed operation on files is not of these kinds. -/
theorem not_isOfSource_file (fault : FileFault) : ¬(file fault).IsOfSource := by
  obtain ⟨problem, path⟩ := fault
  cases problem <;> simp [IsOfSource, kind, FileFault.kind]

/-- A file that is not UTF-8 is not of these kinds. -/
theorem not_isOfSource_encoding (fault : Utf8.Fault) : ¬(encoding fault).IsOfSource := by
  simp [IsOfSource, kind]

/-- A document that cannot be read from a file is not of these kinds. -/
theorem not_isOfSource_json (fault : Json.Fault) : ¬(json fault).IsOfSource := by
  cases fault <;> simp [IsOfSource, kind]

/-- A server's failures are of these kinds as far as a client has to reckon with them. -/
theorem isOfSource_fetch_iff {fault : FetchFault} :
    (fetch fault).IsOfSource ↔ fault.isForeseen = true := by
  cases fault with
  | charset refusal =>
    cases refusal <;>
      simp [IsOfSource, kind, FetchFault.kind, Charset.Refusal.kind, FetchFault.isForeseen]
  | _ => simp [IsOfSource, kind, FetchFault.kind, FetchFault.isForeseen]

end Failure

namespace Charset

/-- By a name the bytes are not read: there are some, and the name holds the null character, is one of
the two by which no text is read, or is one of those of Punycode with a byte beyond ASCII among its
digits. -/
def Refuses (name : String) (bytes : Bytes) : Prop :=
  bytes ≠ [] ∧ (Char.ofNat 0 ∈ name.toList ∨ tidy name ∈ ["undefined", "idna"] ∨
    named? name = some .punycode ∧ ∃ byte ∈ Punycode.digits bytes, 0x80 ≤ byte)

/-- Some names are refused whatever the bytes are. -/
theorem exists_refusal?_iff {name : String} : (∃ refusal, refusal? name = some refusal) ↔
    Char.ofNat 0 ∈ name.toList ∨ tidy name ∈ ["undefined", "idna"] := by
  have hnames : unfitNames.map Prod.fst = ["undefined", "idna"] := rfl
  unfold refusal?
  by_cases hnull : Char.ofNat 0 ∈ name.toList
  · rw [if_pos (List.contains_iff_mem.mpr hnull)]
    exact iff_of_true ⟨_, rfl⟩ (Or.inl hnull)
  · rw [if_neg fun h => hnull (List.contains_iff_mem.mp h), or_iff_right hnull,
      ← Option.isSome_iff_exists, Option.isSome_map, List.lookup_isSome_iff, ← hnames, List.mem_map]
    exact exists_congr fun entry => and_congr_right fun _ => beq_iff_eq.trans eq_comm

/-- Bytes are refused in Punycode if one beyond ASCII is among its digits. -/
theorem exists_fault?_iff {charset : Charset} {bytes : Bytes} :
    (∃ refusal, charset.fault? bytes = some refusal) ↔
      charset = punycode ∧ ∃ byte ∈ Punycode.digits bytes, 0x80 ≤ byte := by
  cases charset with
  | punycode =>
    rw [← Option.isSome_iff_exists, fault?, Option.isSome_map, Punycode.stray?, List.find?_isSome,
      and_iff_right rfl]
    constructor
    · rintro ⟨entry, hentry, hbyte⟩
      refine ⟨entry.1, ?_, of_decide_eq_true hbyte⟩
      rw [← List.zipIdx_map_fst 0 (Punycode.digits bytes)]
      exact List.mem_map_of_mem hentry
    · rintro ⟨byte, hmem, hbyte⟩
      rw [← List.zipIdx_map_fst 0 (Punycode.digits bytes)] at hmem
      obtain ⟨entry, hentry, rfl⟩ := List.mem_map.mp hmem
      exact ⟨entry, hentry, decide_eq_true hbyte⟩
  | _ => exact iff_of_false nofun nofun

/-- Bytes are not read by a name exactly if they are refused. -/
theorem exists_readNamed_error_iff {name : String} {bytes : Bytes} :
    (∃ refusal, readNamed name bytes = .error refusal) ↔ Refuses name bytes := by
  unfold readNamed Refuses
  cases bytes with
  | nil => exact iff_of_false nofun fun h => h.1 rfl
  | cons b rest =>
    rw [List.isEmpty_cons, if_neg Bool.false_ne_true, and_iff_right (List.cons_ne_nil b rest),
      ← or_assoc, ← exists_refusal?_iff]
    cases hrefusal : refusal? name with
    | some refusal => exact iff_of_true ⟨refusal, rfl⟩ (Or.inl ⟨refusal, rfl⟩)
    | none =>
      have hcharset : (named? name).getD .utf8 = punycode ↔ named? name = some .punycode := by
        cases named? name with
        | none => exact iff_of_false nofun nofun
        | some charset => exact Option.some_inj.symm
      rw [or_iff_right nofun, ← hcharset, ← exists_fault?_iff]
      dsimp only
      cases ((named? name).getD .utf8).fault? (b :: rest) with
      | none => exact iff_of_false nofun nofun
      | some refusal => exact iff_of_true ⟨refusal, rfl⟩ ⟨refusal, rfl⟩

/-- Nothing is refused by the name of UTF-8. -/
theorem not_refuses_utf8 (bytes : Bytes) : ¬Refuses "utf-8" bytes := by
  rw [← exists_readNamed_error_iff]
  rintro ⟨refusal, hrefusal⟩
  have hlower : utf8Name.map Char.toLower = utf8Name := by decide
  have hname : String.ofList utf8Name = "utf-8" := String.ofList_toList
  have hread := readNamed_of_utf8Name hlower bytes
  rw [hname, hrefusal] at hread
  cases hread

end Charset

namespace Response

/-- A response names a character set by which its body is not read as a text. -/
def NamesUnfit (response : Response) : Prop :=
  charsetName <:+: (Text.lower response.contentType).toList ∧
    ∃ name, charsetOf response.contentType = some name ∧ Charset.Refuses name response.body

/-- The body of a response is read as a text unless it names such a character set. -/
theorem exists_text_error_iff {response : Response} :
    (∃ refusal, response.text = .error refusal) ↔ response.NamesUnfit := by
  unfold text textIn NamesUnfit
  rw [← holds_iff]
  split
  · next hholds =>
    have hcharset : holds charsetName (Text.lower response.contentType).toList = true := hholds
    rw [Charset.exists_readNamed_error_iff, and_iff_right hcharset]
    cases charsetOf response.contentType with
    | none => exact iff_of_false (Charset.not_refuses_utf8 _) nofun
    | some name => exact ⟨fun h => ⟨name, rfl, h⟩, fun ⟨_, hname, h⟩ => Option.some.inj hname ▸ h⟩
  · next hholds =>
    rw [Charset.exists_readNamed_error_iff]
    exact iff_of_false (Charset.not_refuses_utf8 _) fun h => hholds h.1

end Response

namespace Source

/-- What lies at a path is not read as a text: the path is too long to be looked up, or a directory lies
there, or a file that is not UTF-8. -/
inductive Unreadable (files : Files) (path : Path) : Prop where
  /-- Nobody can tell what lies there. -/
  | tooLong (h : files.find path = .error .nameTooLong)
  /-- A directory lies there. -/
  | directory (h : files.find path = .ok .directory)
  /-- The bytes of the file are not those of a text. -/
  | notUtf8 (bytes : Bytes) (h : files.find path = .ok (.file bytes))
    (hbytes : ∀ text, Utf8.encode text ≠ bytes)

section File

variable {files : Files} {path : Path}

/-- A file fails to be read as a text if there is no file, or its bytes are not those of a text. -/
theorem fileText_eq_error_iff {failure : Failure} : fileText files path = .error failure ↔
    (∃ fault, files.read path = .error fault ∧ failure = .file fault) ∨
      ∃ bytes, files.read path = .ok bytes ∧
        ∃ fault, Utf8.decode bytes = .error fault ∧ failure = .encoding fault := by
  unfold fileText
  rw [Outcome.bind_eq_error_iff]
  simp only [Outcome.mapError_eq_error_iff, Outcome.mapError_eq_ok_iff, @eq_comm _ _ failure]

/-- This is a failure of another kind. -/
theorem not_isOfSource_of_fileText {failure : Failure} (h : fileText files path = .error failure) :
    ¬failure.IsOfSource := by
  rcases fileText_eq_error_iff.mp h with ⟨fault, -, rfl⟩ | ⟨bytes, -, fault, -, rfl⟩
  · exact Failure.not_isOfSource_file fault
  · exact Failure.not_isOfSource_encoding fault

/-- A file is not read as a text exactly if it cannot be told what lies at the path, or what lies there
is not read. -/
theorem unreadable_iff : Unreadable files path ↔ (∃ fault, files.hasPath path = .error fault) ∨
    files.hasPath path = .ok true ∧ ∃ failure, fileText files path = .error failure := by
  simp only [fileText_eq_error_iff]
  unfold Files.hasPath Files.read
  constructor
  · rintro (h | h | ⟨bytes, h, hbytes⟩)
    · rw [h]
      exact Or.inl ⟨_, rfl⟩
    · rw [h]
      exact Or.inr ⟨rfl, _, Or.inl ⟨_, rfl, rfl⟩⟩
    · rw [h]
      cases hdecode : Utf8.decode bytes with
      | ok text => exact absurd (Utf8.decode_eq_ok_iff.mp hdecode) (hbytes text)
      | error fault => exact Or.inr ⟨rfl, _, Or.inr ⟨bytes, rfl, fault, hdecode, rfl⟩⟩
  · rintro (⟨fault, hfault⟩ | ⟨hpath, failure, hfailure⟩)
    · split at hfault
      · cases hfault
      · next h => exact .tooLong h
      · cases hfault
    · cases h : files.find path with
      | error problem =>
        -- something lies there, so the search cannot have failed
        rw [h] at hpath
        cases problem <;> cases hpath
      | ok content =>
        cases content with
        | directory => exact .directory h
        | file found =>
          rw [h] at hfailure
          rcases hfailure with ⟨_, hread, -⟩ | ⟨bytes, hread, fault, hdecode, -⟩
          · cases hread
          · cases hread
            refine .notUtf8 found h fun text htext => ?_
            rw [Utf8.decode_eq_ok_iff.mpr htext] at hdecode
            cases hdecode

/-- The table in a file fails in another way exactly if the file is not read as a text. -/
theorem tableFile_untyped_iff :
    (∃ failure, tableFile files path = .error failure ∧ ¬failure.IsOfSource) ↔
      Unreadable files path := by
  rw [unreadable_iff, tableFile]
  cases files.hasPath path with
  | error fault =>
    exact iff_of_true ⟨_, rfl, Failure.not_isOfSource_file fault⟩ (Or.inl ⟨fault, rfl⟩)
  | ok found =>
    cases found with
    | false =>
      refine iff_of_false ?_ (by rintro (⟨_, h⟩ | ⟨h, -⟩) <;> cases h)
      rintro ⟨failure, hfailure, hkind⟩
      cases hfailure
      exact hkind (by simp [Failure.IsOfSource, Failure.kind])
    | true =>
      constructor
      · rintro ⟨failure, hfailure, -⟩
        exact Or.inr ⟨rfl, failure, hfailure⟩
      · rintro (⟨_, h⟩ | ⟨-, failure, hfailure⟩)
        · cases h
        · exact ⟨failure, hfailure, not_isOfSource_of_fileText hfailure⟩

/-- The manifest in a file that is there fails with its text, or because this is no document. -/
theorem manifestFile_eq_error_iff {depth : Nat} {failure : Failure}
    (hpath : files.hasPath path = .ok true) :
    manifestFile depth files path = .error failure ↔ fileText files path = .error failure ∨
      ∃ text, files.read path = .ok (Utf8.encode text) ∧
        ∃ fault, Json.readWithin depth (Text.withLineFeeds text) = .error fault ∧
          failure = .json fault := by
  rw [manifestFile_of_hasPath hpath, Outcome.bind_eq_error_iff]
  refine or_congr_right (exists_congr fun text => and_congr fileText_eq_ok_iff ?_)
  rw [Outcome.bind_eq_error_iff, Outcome.mapError_eq_error_iff]
  constructor
  · rintro (⟨fault, hfault, rfl⟩ | ⟨_, -, hdone⟩)
    · exact ⟨fault, hfault, rfl⟩
    · cases hdone
  · rintro ⟨fault, hfault, rfl⟩
    exact Or.inl ⟨fault, hfault, rfl⟩

/-- The manifest in a file fails in another way exactly if the file is not read as a text, or the text
is no document. -/
theorem manifestFile_untyped_iff {depth : Nat} :
    (∃ failure, manifestFile depth files path = .error failure ∧ ¬failure.IsOfSource) ↔
      Unreadable files path ∨ ∃ text, files.read path = .ok (Utf8.encode text) ∧
        ∀ document, Json.readWithin depth (Text.withLineFeeds text) ≠ .ok document := by
  cases hpath : files.hasPath path with
  | error fault =>
    rw [unreadable_iff, manifestFile, hpath]
    exact iff_of_true ⟨_, rfl, Failure.not_isOfSource_file fault⟩ (Or.inl (Or.inl ⟨fault, rfl⟩))
  | ok found =>
    cases found with
    | false =>
      rw [unreadable_iff, manifestFile, hpath]
      refine iff_of_false (by rintro ⟨_, h, -⟩; cases h) ?_
      rintro ((⟨_, h⟩ | ⟨h, -⟩) | ⟨text, hread, -⟩)
      · cases h
      · cases h
      · rw [Files.hasPath_of_read hread] at hpath
        cases hpath
    | true =>
      simp only [manifestFile_eq_error_iff hpath]
      rw [unreadable_iff, hpath]
      constructor
      · rintro ⟨failure, htext | ⟨text, hread, fault, hfault, -⟩, -⟩
        · exact Or.inl (Or.inr ⟨rfl, failure, htext⟩)
        · refine Or.inr ⟨text, hread, fun document hdocument => ?_⟩
          cases hfault.symm.trans hdocument
      · rintro ((⟨_, h⟩ | ⟨-, failure, htext⟩) | ⟨text, hread, hnone⟩)
        · cases h
        · exact ⟨failure, Or.inl htext, not_isOfSource_of_fileText htext⟩
        · cases hdocument : Json.readWithin depth (Text.withLineFeeds text) with
          | ok document => exact absurd hdocument (hnone document)
          | error fault =>
            exact ⟨.json fault, Or.inr ⟨text, hread, fault, hdocument, rfl⟩,
              Failure.not_isOfSource_json fault⟩

end File

section Server

variable {library : Library} {files : Files} {client : Client} {location : String}
  {network : Network}

/-- A client has to reckon with a request that is not answered, or answered with one of the failures,
but not with an answer that the library refuses. -/
theorem isForeseen_of_verdict {url : String} {outcome : Outcome} {fault : FetchFault}
    (h : outcome.verdict library url = .error fault) : fault.isForeseen = true ∨
      ∃ response, outcome = .response response ∧ Client.refuses library response = true := by
  cases outcome with
  | failure text =>
    cases h
    exact Or.inl rfl
  | response response =>
    rcases Client.accept_cases library response with
      ⟨hrefuses, -⟩ | ⟨-, -, haccept⟩ | ⟨-, -, other, haccept, -, hforeseen⟩
    · exact Or.inr ⟨response, rfl, hrefuses⟩
    · cases haccept.symm.trans h
    · cases haccept.symm.trans h
      exact Or.inl hforeseen

/-- It has to reckon with an answer that is no document, unless this is nested too deep. -/
theorem isForeseen_documentFault_iff {url : String} {problem : PayloadFault} :
    (Client.documentFault url problem).isForeseen = true ↔
      ∀ nested, problem ≠ .document (.tooDeep nested) := by
  unfold Client.documentFault
  split
  · next nested => exact iff_of_false nofun fun h => h nested rfl
  · next hother => exact iff_of_true rfl hother

/-- At an address the last outcome decides what table is found. -/
theorem table_of_address (h : Location.isAddress location = .ok true) :
    (table library files client location network).result =
      (((client.lastOutcome library network).verdict library location).bind fun response =>
        response.text.mapError .charset).mapError .fetch := by
  rw [table, h, Client.fetchText, Client.fetch_result]
  rfl

/-- A table at an address fails in another way exactly if the library refuses the last answer, or this
names a character set by which nothing is read. -/
theorem table_untyped_of_address (h : Location.isAddress location = .ok true) :
    (∃ failure, (table library files client location network).result = .error failure ∧
        ¬failure.IsOfSource) ↔
      ∃ response, client.lastOutcome library network = .response response ∧
        (Client.refuses library response = true ∨
          response.status < 400 ∧ response.NamesUnfit) := by
  rw [table_of_address h]
  constructor
  · rintro ⟨failure, hfailure, hkind⟩
    obtain ⟨fault, hfault, rfl⟩ := Outcome.mapError_eq_error_iff.mp hfailure
    rcases Outcome.bind_eq_error_iff.mp hfault with hverdict | ⟨response, hverdict, htext⟩
    · rcases isForeseen_of_verdict hverdict with hforeseen | ⟨response, hlast, hrefuses⟩
      · exact absurd (Failure.isOfSource_fetch_iff.mpr hforeseen) hkind
      · exact ⟨response, hlast, Or.inl hrefuses⟩
    · obtain ⟨refusal, hrefusal, -⟩ := Outcome.mapError_eq_error_iff.mp htext
      obtain ⟨hlast, -, hstatus⟩ := Client.verdict_eq_ok_iff.mp hverdict
      have hunfit := Response.exists_text_error_iff.mp ⟨refusal, hrefusal⟩
      exact ⟨response, hlast, Or.inr ⟨hstatus, hunfit⟩⟩
  · rintro ⟨response, hlast, hcause⟩
    rw [hlast]
    cases hrefuses : Client.refuses library response with
    | true =>
      refine ⟨.fetch .bareCharset, ?_, mt Failure.isOfSource_fetch_iff.mp Bool.false_ne_true⟩
      rw [Outcome.verdict, Client.accept_of_refuses hrefuses]
      rfl
    | false =>
      obtain ⟨hstatus, hunfit⟩ := hcause.resolve_left (Bool.eq_false_iff.mp hrefuses)
      obtain ⟨refusal, hrefusal⟩ := Response.exists_text_error_iff.mpr hunfit
      refine ⟨.fetch (.charset refusal), ?_, mt Failure.isOfSource_fetch_iff.mp Bool.false_ne_true⟩
      rw [Client.verdict_eq_ok_iff.mpr ⟨rfl, hrefuses, hstatus⟩, Except.bind, hrefusal]
      rfl

/-- What a server delivers is a failure for any fault but the status of what is not found. -/
theorem delivered_eq_error_iff {result : Except FetchFault Value} {failure : Failure} :
    delivered result = .error failure ↔
      ∃ fault, result = .error fault ∧ fault.status? ≠ some 404 ∧ failure = .fetch fault := by
  cases result with
  | ok document => exact iff_of_false nofun nofun
  | error fault =>
    rw [delivered]
    constructor
    · intro h
      split at h
      · cases h
      · next hstatus => exact ⟨fault, rfl, hstatus, (Except.error.inj h).symm⟩
    · rintro ⟨_, hfault, hstatus, rfl⟩
      cases hfault
      rw [if_neg hstatus]

/-- A fault without a status that a client has not to reckon with is a failure of another kind: it is not
taken for a missing document. -/
theorem manifest_untyped_of_verdict (fault : FetchFault)
    (h : Location.isAddress location = .ok true) (hstatus : fault.status? = none)
    (hforeseen : fault.isForeseen = false)
    (hfault : (client.lastOutcome library network).documentVerdict library location =
      .error fault) :
    ∃ failure, (manifest library files client location network).result = .error failure ∧
      ¬failure.IsOfSource := by
  have hother : fault.status? ≠ some 404 := by
    rw [hstatus]
    exact (Option.some_ne_none 404).symm
  rw [manifest_of_address h]
  refine ⟨.fetch fault, delivered_eq_error_iff.mpr ⟨fault, hfault, hother, rfl⟩, ?_⟩
  rw [Failure.isOfSource_fetch_iff, hforeseen]
  exact Bool.false_ne_true

/-- A manifest at an address fails in another way exactly if the library refuses the last answer, or this
is a document that is nested too deep. -/
theorem manifest_untyped_of_address (h : Location.isAddress location = .ok true) :
    (∃ failure, (manifest library files client location network).result = .error failure ∧
        ¬failure.IsOfSource) ↔
      ∃ response, client.lastOutcome library network = .response response ∧
        (Client.refuses library response = true ∨ response.status < 400 ∧
          ∃ nested, response.document library = .error (.document (.tooDeep nested))) := by
  constructor
  · rintro ⟨failure, hfailure, hkind⟩
    rw [manifest_of_address h] at hfailure
    obtain ⟨fault, hfault, -, rfl⟩ := delivered_eq_error_iff.mp hfailure
    rcases Outcome.bind_eq_error_iff.mp hfault with hverdict | ⟨response, hverdict, hdocument⟩
    · rcases isForeseen_of_verdict hverdict with hforeseen | ⟨response, hlast, hrefuses⟩
      · exact absurd (Failure.isOfSource_fetch_iff.mpr hforeseen) hkind
      · exact ⟨response, hlast, Or.inl hrefuses⟩
    · obtain ⟨problem, hproblem, rfl⟩ := Outcome.mapError_eq_error_iff.mp hdocument
      obtain ⟨hlast, -, hstatus⟩ := Client.verdict_eq_ok_iff.mp hverdict
      rw [Failure.isOfSource_fetch_iff, isForeseen_documentFault_iff] at hkind
      obtain ⟨nested, hnested⟩ := not_forall_not.mp hkind
      exact ⟨response, hlast, Or.inr ⟨hstatus, nested, hnested ▸ hproblem⟩⟩
  · rintro ⟨response, hlast, hcause⟩
    cases hrefuses : Client.refuses library response with
    | true =>
      apply manifest_untyped_of_verdict .bareCharset h rfl rfl
      rw [hlast, Outcome.documentVerdict_of_refused (Client.accept_of_refuses hrefuses)]
    | false =>
      obtain ⟨hstatus, nested, hnested⟩ := hcause.resolve_left (Bool.eq_false_iff.mp hrefuses)
      apply manifest_untyped_of_verdict (.tooDeep nested) h rfl rfl
      rw [hlast, Outcome.documentVerdict, Client.verdict_eq_ok_iff.mpr ⟨rfl, hrefuses, hstatus⟩,
        Except.bind, hnested]
      rfl

/-- No areas are found exactly if the manifest fails; what it lists is never a failure. -/
theorem areas_eq_error_iff {fallback : List Wording} {failure : Failure} :
    (areas library files client fallback location network).result = .error failure ↔
      (manifest library files client location network).result = .error failure := by
  refine Outcome.bind_eq_error_iff.trans (or_iff_left ?_)
  rintro ⟨found, hfound, hareas⟩
  cases found with
  | none => cases hareas
  | some document =>
    rcases areasOr_of_offers (manifest_eq_some_iff.mp hfound) fallback with
      ⟨-, hlist⟩ | ⟨-, _, _, -, -, -, hlist⟩
    · cases hlist.symm.trans hareas
    · cases hlist.symm.trans hareas

end Server

/-- Where a location is a path or an address, a table and a list of areas fail with a failure of a kind
that is not meant for payloads in these cases only. At a path, the path is too long to be looked up, a
directory lies there or a file that is not UTF-8 or, for areas, no document. At an address, the last
answer has a parameter for the character set without a value, where this is an error to the library;
or the last answer to a table names a character set by which nothing is read; or the last answer to a
list of areas is a document that is nested too deep. -/
theorem untyped_failures (library : Library) (files : Files) (client : Client)
    (fallback : List Wording) {location : String} (network : Network) {isUrl : Bool}
    (h : Location.isAddress location = .ok isUrl) :
    ((∃ failure, (table library files client location network).result = .error failure ∧
        ¬failure.IsOfSource) ↔
      match isUrl with
      | false => Unreadable files (Path.read location)
      | true => ∃ response, client.lastOutcome library network = .response response ∧
          (library.refusesBare = true ∧ response.hasBareCharset = true ∨
            response.status < 400 ∧ response.NamesUnfit)) ∧
    ((∃ failure, (areas library files client fallback location network).result = .error failure ∧
        ¬failure.IsOfSource) ↔
      match isUrl with
      | false => Unreadable files (Path.read location) ∨
          ∃ text, files.read (Path.read location) = .ok (Utf8.encode text) ∧ ∀ document,
            Json.readWithin library.depth (Text.withLineFeeds text) ≠ .ok document
      | true => ∃ response, client.lastOutcome library network = .response response ∧
          (library.refusesBare = true ∧ response.hasBareCharset = true ∨ response.status < 400 ∧
            ∃ nested, response.document library = .error (.document (.tooDeep nested)))) := by
  simp only [areas_eq_error_iff, ← Client.refuses_iff]
  cases isUrl with
  | false =>
    have htable : (table library files client location network).result =
        tableFile files (Path.read location) := by
      rw [table, h]
      rfl
    rw [htable, manifest_of_path h]
    exact ⟨tableFile_untyped_iff, manifestFile_untyped_iff⟩
  | true => exact ⟨table_untyped_of_address h, manifest_untyped_of_address h⟩

/-- A directory where a table should be, and an opening bracket where a list of areas should be. -/
def brokenFiles : Files where
  entries := [(["home", "t.csv"], .directory), (["home", "areas.json"], .file [0x5B])]

/-- A directory is no table, and the failure is of another kind. -/
theorem directory_untyped : Location.isAddress "t.csv" = .ok false ∧
    ∃ failure, (table .standard brokenFiles {} "t.csv" ⟨[], "-"⟩).result = .error failure ∧
      ¬failure.IsOfSource := by
  have hpath : Location.isAddress "t.csv" = .ok false := by decide +kernel
  have hfind : brokenFiles.find (Path.read "t.csv") = .ok .directory := by decide +kernel
  exact ⟨hpath, (untyped_failures .standard brokenFiles {} [] ⟨[], "-"⟩ hpath).1.mpr (.directory hfind)⟩

/-- A list of areas that does not end fails with a failure of another kind. -/
theorem bracket_untyped : Location.isAddress "areas.json" = .ok false ∧
    ∃ failure, (areas .standard brokenFiles {} [] "areas.json" ⟨[], "-"⟩).result = .error failure ∧
      ¬failure.IsOfSource := by
  refine ⟨by decide +kernel, .json (.malformed .value 1 2 1), by decide +kernel, ?_⟩
  exact Failure.not_isOfSource_json _

end Source

end DistrictAtlas
