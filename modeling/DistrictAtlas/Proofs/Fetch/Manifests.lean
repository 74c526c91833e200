import DistrictAtlas.Fetch.Source
import DistrictAtlas.Proofs.Fetch.Attempts
import DistrictAtlas.Proofs.Files.Keeping
import DistrictAtlas.Proofs.Json.Showing
import DistrictAtlas.Proofs.Text.Tidying
import DistrictAtlas.Proofs.Text.Utf8Strict
import Mathlib.Data.List.Forall2

/-!
# Where other areas are put in

Other areas take the place of those that a manifest lists if there is no manifest or if it lists none,
and only then: whatever else a server does wrong is a failure. Otherwise the areas are the texts of the
items that are not blank, in their order, and nothing is logged.
-/

namespace DistrictAtlas

/-- A document lists no area: it is no list, or the texts of its items are all blank. -/
def Value.ListsNoArea : Value → Prop
  | .list items => ∀ item ∈ items, ∀ text, item.plainText = .ok text → text.isBlank = true
  | _ => True

/-- The areas are other ones that were put in, with one warning. -/
structure AreaList.IsFallback (list : AreaList) (fallback : List Wording) : Prop where
  /-- They are those that were given for this. -/
  names_eq : list.names = fallback
  /-- One event is logged, the warning about it. -/
  warns : ∃ event, list.events = [event] ∧ event.level = .warning ∧
    event.name = some "MANIFEST_FALLBACK"

namespace Source

/-- There is no manifest: no file lies at the path, or the last request for it ended with the status of
what is not found. -/
inductive Lacks (library : Library) (files : Files) (client : Client) (location : String)
    (network : Network) : Prop where
  /-- The path leads to nothing. -/
  | file (hpath : Location.isAddress location = .ok false)
    (hnone : files.hasPath (Path.read location) = .ok false)
  /-- The server has nothing. -/
  | server (response : Response) (haddress : Location.isAddress location = .ok true)
    (hlast : client.lastOutcome library network = .response response)
    (hrefuses : Client.refuses library response = false) (hstatus : response.status = 404)

/-- There is a manifest with this document: a file holds its text in UTF-8, or the last request for it
brought an answer with it. -/
inductive Offers (library : Library) (files : Files) (client : Client) (location : String)
    (network : Network) (document : Value) : Prop where
  /-- The file at the path holds the document. -/
  | file (text : String) (hpath : Location.isAddress location = .ok false)
    (hread : files.read (Path.read location) = .ok (Utf8.encode text))
    (hdocument : Json.readWithin library.depth (Text.withLineFeeds text) = .ok document)
  /-- The server sent the document. -/
  | server (response : Response) (haddress : Location.isAddress location = .ok true)
    (hlast : client.lastOutcome library network = .response response)
    (hrefuses : Client.refuses library response = false) (hstatus : response.status < 400)
    (hdocument : response.document library = .ok document)

/-- The text of a file is the one that its bytes are the encoding of. -/
theorem fileText_eq_ok_iff {files : Files} {path : Path} {text : String} :
    fileText files path = .ok text ↔ files.read path = .ok (Utf8.encode text) := by
  rw [fileText, Outcome.bind_eq_ok_iff]
  constructor
  · rintro ⟨bytes, hread, hdecode⟩
    rw [Utf8.decode_eq_ok_iff.mp (Outcome.mapError_eq_ok_iff.mp hdecode)]
    exact Outcome.mapError_eq_ok_iff.mp hread
  · intro hread
    exact ⟨_, Outcome.mapError_eq_ok_iff.mpr hread,
      Outcome.mapError_eq_ok_iff.mpr (Utf8.decode_encode text)⟩

/-- Where something lies at a path, the document is read from its text. -/
theorem manifestFile_of_hasPath {files : Files} {path : Path} (h : files.hasPath path = .ok true)
    (depth : Nat) :
    manifestFile depth files path = do
      let text ← fileText files path
      let document ← (Json.readWithin depth (Text.withLineFeeds text)).mapError .json
      return some document := by
  rw [manifestFile, h]
  rfl

/-- No document is found at a path exactly if nothing lies there. -/
theorem manifestFile_eq_none_iff {depth : Nat} {files : Files} {path : Path} :
    manifestFile depth files path = .ok none ↔ files.hasPath path = .ok false := by
  cases hpath : files.hasPath path with
  | error fault =>
    rw [manifestFile, hpath]
    exact iff_of_false nofun nofun
  | ok found =>
    cases found with
    | false =>
      rw [manifestFile, hpath]
      exact iff_of_true rfl rfl
    | true =>
      rw [manifestFile_of_hasPath hpath]
      refine iff_of_false (fun h => ?_) nofun
      obtain ⟨text, -, hread⟩ := Outcome.bind_eq_ok_iff.mp h
      obtain ⟨document, -, hnone⟩ := Outcome.bind_eq_ok_iff.mp hread
      cases hnone

/-- The document at a path is the one that the text of the file there writes. -/
theorem manifestFile_eq_some_iff {depth : Nat} {files : Files} {path : Path} {document : Value} :
    manifestFile depth files path = .ok (some document) ↔
      ∃ text, files.read path = .ok (Utf8.encode text) ∧
        Json.readWithin depth (Text.withLineFeeds text) = .ok document := by
  constructor
  · intro h
    obtain ⟨found, hfound, hrest⟩ := Outcome.bind_eq_ok_iff.mp h
    cases found with
    | false => cases hrest
    | true =>
      rw [manifestFile_of_hasPath (Outcome.mapError_eq_ok_iff.mp hfound)] at h
      obtain ⟨text, htext, hread⟩ := Outcome.bind_eq_ok_iff.mp h
      obtain ⟨read, hjson, hsome⟩ := Outcome.bind_eq_ok_iff.mp hread
      cases hsome
      exact ⟨text, fileText_eq_ok_iff.mp htext, Outcome.mapError_eq_ok_iff.mp hjson⟩
  · rintro ⟨text, hread, hdocument⟩
    have hjson : (Json.readWithin depth (Text.withLineFeeds text)).mapError
        Failure.json = .ok document := Outcome.mapError_eq_ok_iff.mpr hdocument
    rw [manifestFile_of_hasPath (Files.hasPath_of_read hread)]
    exact Outcome.bind_eq_ok_iff.mpr ⟨text, fileText_eq_ok_iff.mpr hread,
      Outcome.bind_eq_ok_iff.mpr ⟨document, hjson, rfl⟩⟩

end Source

namespace Client

/-- An answer without a document is a fault without a status. -/
theorem status?_documentFault (url : String) (fault : PayloadFault) :
    (documentFault url fault).status? = none := by
  unfold documentFault
  split <;> rfl

end Client

namespace Outcome

/-- What becomes of a fetch of a document that ends with an outcome. -/
def documentVerdict (library : Library) (url : String) (outcome : Outcome) :
    Except FetchFault Value :=
  (outcome.verdict library url).bind fun response =>
    (response.document library).mapError (Client.documentFault url)

variable {library : Library}

/-- The last outcome decides what becomes of a fetch of a document. -/
theorem fetchDocument_result (client : Client) (url : String) (network : Network) :
    (client.fetchDocument library url [] none network).result =
      (client.lastOutcome library network).documentVerdict library url := by
  rw [Client.fetchDocument, Client.fetch_result]
  rfl

/-- A document comes of an answer that is not refused and has a status below the failures. -/
theorem documentVerdict_eq_ok_iff {url : String} {outcome : Outcome} {document : Value} :
    outcome.documentVerdict library url = .ok document ↔
      ∃ response, outcome = .response response ∧ Client.refuses library response = false ∧
        response.status < 400 ∧ response.document library = .ok document := by
  refine Outcome.bind_eq_ok_iff.trans (exists_congr fun response => ?_)
  rw [Client.verdict_eq_ok_iff, mapError_eq_ok_iff, and_assoc, and_assoc]

/-- What is wrong with the headers or the status of an answer becomes of the fetch. -/
theorem documentVerdict_of_refused {url : String} {response : Response} {fault : FetchFault}
    (h : Client.accept library response = .error fault) :
    (Outcome.response response).documentVerdict library url = .error fault := by
  rw [documentVerdict, verdict, h]
  rfl

/-- A fault has the status of an answer that is not refused, where this is one of the failures. -/
theorem documentVerdict_status_iff {url : String} {outcome : Outcome} {status : Int} :
    (∃ fault, outcome.documentVerdict library url = .error fault ∧
        fault.status? = some status) ↔
      ∃ response, outcome = .response response ∧ Client.refuses library response = false ∧
        400 ≤ response.status ∧ response.status = status := by
  constructor
  · rintro ⟨fault, hfault, hstatus⟩
    -- a status comes from an answer that is not accepted, never from its document
    rcases bind_eq_error_iff.mp hfault with hverdict | ⟨response, -, hdocument⟩
    · cases outcome with
      | failure text =>
        cases hverdict
        cases hstatus
      | response response =>
        rcases Client.accept_cases library response with
          ⟨-, haccept⟩ | ⟨-, -, haccept⟩ | ⟨hrefuses, hhigh, other, haccept, hother, -⟩
        · cases haccept.symm.trans hverdict
          cases hstatus
        · cases haccept.symm.trans hverdict
        · cases haccept.symm.trans hverdict
          exact ⟨response, rfl, hrefuses, hhigh, Option.some.inj (hother.symm.trans hstatus)⟩
    · obtain ⟨problem, -, rfl⟩ := mapError_eq_error_iff.mp hdocument
      rw [Client.status?_documentFault] at hstatus
      cases hstatus
  · rintro ⟨response, rfl, hrefuses, hhigh, rfl⟩
    rcases Client.accept_cases library response with
      ⟨hrefused, -⟩ | ⟨-, hlow, -⟩ | ⟨-, -, fault, haccept, hstatus, -⟩
    · exact absurd hrefused (Bool.eq_false_iff.mp hrefuses)
    · exact absurd hhigh (Int.not_le.mpr hlow)
    · exact ⟨fault, documentVerdict_of_refused haccept, hstatus⟩

end Outcome

namespace Source

/-- What a server delivers is nothing only for the status of what is not found. -/
theorem delivered_eq_none_iff {result : Except FetchFault Value} :
    delivered result = .ok none ↔ ∃ fault, result = .error fault ∧ fault.status? = some 404 := by
  cases result with
  | ok document => exact iff_of_false nofun nofun
  | error fault =>
    rw [delivered]
    split
    · next hstatus => exact iff_of_true rfl ⟨fault, rfl, hstatus⟩
    · next hstatus =>
      refine iff_of_false nofun ?_
      rintro ⟨_, hfault, h⟩
      cases hfault
      exact hstatus h

/-- What a server delivers is the document that was fetched. -/
theorem delivered_eq_some_iff {result : Except FetchFault Value} {document : Value} :
    delivered result = .ok (some document) ↔ result = .ok document := by
  cases result with
  | ok found =>
    constructor
    · intro h
      cases h
      rfl
    · intro h
      cases h
      rfl
  | error fault =>
    rw [delivered]
    split
    · exact iff_of_false nofun nofun
    · exact iff_of_false nofun nofun

variable {library : Library} {files : Files} {client : Client} {location : String}
  {network : Network}

/-- At an address the last outcome decides what manifest is found. -/
theorem manifest_of_address (h : Location.isAddress location = .ok true) :
    (manifest library files client location network).result =
      delivered ((client.lastOutcome library network).documentVerdict library location) := by
  rw [manifest, h, ← Outcome.fetchDocument_result]

/-- At a path the file decides what manifest is found. -/
theorem manifest_of_path (h : Location.isAddress location = .ok false) :
    (manifest library files client location network).result =
      manifestFile library.depth files (Path.read location) := by
  rw [manifest, h]
  rfl

/-- What is neither has no manifest. -/
theorem manifest_of_fault {fault : Location.Fault} (h : Location.isAddress location = .error fault) :
    (manifest library files client location network).result = .error (.location fault) := by
  rw [manifest, h]
  rfl

/-- No manifest is found exactly where there is none. -/
theorem manifest_eq_none_iff : (manifest library files client location network).result = .ok none ↔
    Lacks library files client location network := by
  constructor
  · intro h
    cases haddress : Location.isAddress location with
    | error fault =>
      rw [manifest_of_fault haddress] at h
      cases h
    | ok isUrl =>
      cases isUrl with
      | false =>
        rw [manifest_of_path haddress] at h
        exact .file haddress (manifestFile_eq_none_iff.mp h)
      | true =>
        rw [manifest_of_address haddress] at h
        obtain ⟨response, hlast, hrefuses, -, hstatus⟩ :=
          Outcome.documentVerdict_status_iff.mp (delivered_eq_none_iff.mp h)
        exact .server response haddress hlast hrefuses hstatus
  · rintro (⟨hpath, hnone⟩ | ⟨response, haddress, hlast, hrefuses, hstatus⟩)
    · rw [manifest_of_path hpath]
      exact manifestFile_eq_none_iff.mpr hnone
    · rw [manifest_of_address haddress]
      exact delivered_eq_none_iff.mpr <| Outcome.documentVerdict_status_iff.mpr
        ⟨response, hlast, hrefuses, hstatus ▸ by decide, hstatus⟩

/-- A document is found exactly where there is a manifest with it. -/
theorem manifest_eq_some_iff {document : Value} :
    (manifest library files client location network).result = .ok (some document) ↔
      Offers library files client location network document := by
  constructor
  · intro h
    cases haddress : Location.isAddress location with
    | error fault =>
      rw [manifest_of_fault haddress] at h
      cases h
    | ok isUrl =>
      cases isUrl with
      | false =>
        rw [manifest_of_path haddress] at h
        obtain ⟨text, hread, hdocument⟩ := manifestFile_eq_some_iff.mp h
        exact .file text haddress hread hdocument
      | true =>
        rw [manifest_of_address haddress] at h
        obtain ⟨response, hlast, hrefuses, hstatus, hdocument⟩ :=
          Outcome.documentVerdict_eq_ok_iff.mp (delivered_eq_some_iff.mp h)
        exact .server response haddress hlast hrefuses hstatus hdocument
  · rintro (⟨text, hpath, hread, hdocument⟩ |
      ⟨response, haddress, hlast, hrefuses, hstatus, hdocument⟩)
    · rw [manifest_of_path hpath]
      exact manifestFile_eq_some_iff.mpr ⟨text, hread, hdocument⟩
    · rw [manifest_of_address haddress]
      exact delivered_eq_some_iff.mpr <| Outcome.documentVerdict_eq_ok_iff.mpr
        ⟨response, hlast, hrefuses, hstatus, hdocument⟩

/-- A document that is offered was read, so its parts are shown. -/
theorem Offers.isShowable {document : Value}
    (h : Offers library files client location network document) : document.IsShowable := by
  rcases h with ⟨text, -, -, hdocument⟩ | ⟨response, -, -, -, -, hdocument⟩
  · exact Json.isShowable_of_readWithin hdocument
  · obtain ⟨text, -, hread⟩ := Outcome.bind_eq_ok_iff.mp hdocument
    exact Json.isShowable_of_readWithin (Outcome.mapError_eq_ok_iff.mp hread)

/-- These are the texts of the items, one by one. -/
def Texts (items : List Value) (texts : List Wording) : Prop :=
  List.Forall₂ (fun item text => item.plainText = .ok text) items texts

/-- Items that are shown have texts. -/
theorem exists_texts {items : List Value} (h : ∀ item ∈ items, item.IsShowable) :
    ∃ texts, Texts items texts := by
  induction items with
  | nil => exact ⟨[], .nil⟩
  | cons item rest ih =>
    obtain ⟨hitem, hrest⟩ := List.forall_mem_cons.mp h
    obtain ⟨text, htext⟩ := hitem.plainText
    obtain ⟨texts, htexts⟩ := ih hrest
    exact ⟨text :: texts, .cons htext htexts⟩

/-- The names among texts: those that are not blank, without the blanks around them. -/
def namesOf (texts : List Wording) : List Wording :=
  (texts.filter (!Wording.isBlank ·)).map Wording.trim

/-- A blank text adds no name, any other one does. -/
theorem namesOf_cons (text : Wording) (texts : List Wording) : namesOf (text :: texts) =
    if text.isBlank = true then namesOf texts else text.trim :: namesOf texts := by
  rw [namesOf, List.filter_cons]
  cases text.isBlank <;> rfl

/-- A text of which nothing is left without the blanks around it is blank. -/
theorem isEmpty_trim (text : Wording) : text.trim.isEmpty = text.isBlank := by
  cases text with
  | whole s => exact Text.isEmpty_trim s
  | torn s => rfl

/-- The areas that are listed are the names among the texts of the items. -/
theorem areaNames_eq {items : List Value} {texts : List Wording} (h : Texts items texts) :
    areaNames items = .ok (namesOf texts) := by
  induction h with
  | nil => rfl
  | cons hitem _ ih =>
    rw [areaNames, hitem, ih, namesOf_cons, ← isEmpty_trim]
    rfl

/-- There are no names among the texts of the items exactly if a list of them lists no area. -/
theorem namesOf_eq_nil_iff {items : List Value} {texts : List Wording} (h : Texts items texts) :
    namesOf texts = [] ↔ (Value.list items).ListsNoArea := by
  rw [namesOf, List.map_eq_nil_iff, List.filter_eq_nil_iff, Value.ListsNoArea]
  induction h with
  | nil => exact iff_of_true nofun nofun
  | @cons item text rest texts hitem _ ih =>
    have hfirst : ¬(!text.isBlank) = true ↔
        ∀ other, item.plainText = .ok other → other.isBlank = true := by
      rw [hitem, Bool.not_eq_true', Bool.not_eq_false]
      exact ⟨fun hblank other hother => Except.ok.inj hother ▸ hblank, fun hall => hall text rfl⟩
    rw [List.forall_mem_cons, List.forall_mem_cons, ih, hfirst]

/-- Other areas are put in if none are listed. -/
theorem areasOr_eq {document : Option Value} {names : List Wording}
    (h : listedAreas document = .ok names) (fallback : List Wording) (location : String) :
    areasOr fallback location document =
      .ok (if names = [] then ⟨fallback, [fallbackEvent location]⟩ else ⟨names, []⟩) := by
  rw [areasOr, h]
  cases names <;> rfl

/-- A document that is offered lists no area, and others are put in, or it is a list with names among
the texts of its items. -/
theorem areasOr_of_offers {document : Value} (h : Offers library files client location network document)
    (fallback : List Wording) :
    document.ListsNoArea ∧ areasOr fallback location (some document) =
        .ok ⟨fallback, [fallbackEvent location]⟩ ∨
      ¬document.ListsNoArea ∧ ∃ items texts, document = .list items ∧ Texts items texts ∧
        namesOf texts ≠ [] ∧
        areasOr fallback location (some document) = .ok ⟨namesOf texts, []⟩ := by
  cases document with
  | scalar s => exact Or.inl ⟨trivial, rfl⟩
  | mapping entries => exact Or.inl ⟨trivial, rfl⟩
  | list items =>
    obtain ⟨texts, htexts⟩ := exists_texts (Value.isShowable_list_iff.mp h.isShowable)
    have hlisted : listedAreas (some (.list items)) = .ok (namesOf texts) := areaNames_eq htexts
    have hareas := areasOr_eq hlisted fallback location
    by_cases hnone : namesOf texts = []
    · rw [if_pos hnone] at hareas
      exact Or.inl ⟨(namesOf_eq_nil_iff htexts).mp hnone, hareas⟩
    · rw [if_neg hnone] at hareas
      exact Or.inr ⟨mt (namesOf_eq_nil_iff htexts).mpr hnone, items, texts, rfl, htexts, hnone,
        hareas⟩

/-- Other areas together with the event of their warning are a fallback. -/
theorem isFallback_fallbackEvent (fallback : List Wording) (location : String) :
    (AreaList.mk fallback [fallbackEvent location]).IsFallback fallback :=
  ⟨rfl, _, rfl, rfl, rfl⟩

/-- Without a manifest, or with one that lists no area, other areas are put in. -/
theorem areas_of_nothing {fallback : List Wording}
    (h : Lacks library files client location network ∨
      ∃ document, Offers library files client location network document ∧ document.ListsNoArea) :
    (areas library files client fallback location network).result =
      .ok ⟨fallback, [fallbackEvent location]⟩ := by
  rw [areas]
  rcases h with hlacks | ⟨document, hoffers, hnone⟩
  · rw [manifest_eq_none_iff.mpr hlacks]
    rfl
  · rw [manifest_eq_some_iff.mpr hoffers]
    rcases areasOr_of_offers hoffers fallback with ⟨-, hareas⟩ | ⟨hsome, -⟩
    · exact hareas
    · exact absurd hnone hsome

/-- Areas come from there being nothing, or from the items of a list. -/
theorem areas_cases {fallback : List Wording} {list : AreaList}
    (h : (areas library files client fallback location network).result = .ok list) :
    (Lacks library files client location network ∨
        ∃ document, Offers library files client location network document ∧ document.ListsNoArea) ∧
        list.IsFallback fallback ∨
      list.events = [] ∧ list.names ≠ [] ∧ ∃ items texts,
        Offers library files client location network (.list items) ∧ Texts items texts ∧
        list.names = namesOf texts := by
  rw [areas] at h
  cases hfound : (manifest library files client location network).result with
  | error failure =>
    rw [hfound] at h
    cases h
  | ok found =>
    rw [hfound] at h
    cases found with
    | none =>
      cases h
      exact Or.inl ⟨Or.inl (manifest_eq_none_iff.mp hfound),
        isFallback_fallbackEvent fallback location⟩
    | some document =>
      have hoffers := manifest_eq_some_iff.mp hfound
      have hlist : areasOr fallback location (some document) = .ok list := h
      rcases areasOr_of_offers hoffers fallback with
        ⟨hnone, hareas⟩ | ⟨-, items, texts, rfl, htexts, hnames, hareas⟩
      · cases hlist.symm.trans hareas
        exact Or.inl ⟨Or.inr ⟨document, hoffers, hnone⟩,
          isFallback_fallbackEvent fallback location⟩
      · cases hlist.symm.trans hareas
        exact Or.inr ⟨rfl, hnames, items, texts, hoffers, htexts, rfl⟩

/-- At an address a fault that is not the status of what is not found is passed on. -/
theorem areas_of_fault {fallback : List Wording} {fault : FetchFault}
    (haddress : Location.isAddress location = .ok true)
    (hfault : (client.lastOutcome library network).documentVerdict library location = .error fault)
    (hstatus : fault.status? ≠ some 404) :
    (areas library files client fallback location network).result = .error (.fetch fault) := by
  rw [areas, manifest_of_address haddress, hfault, delivered, if_neg hstatus]
  rfl

/-- An answer in whose headers the library finds an error is a failure. -/
theorem areas_of_refuses {fallback : List Wording} {response : Response}
    (haddress : Location.isAddress location = .ok true)
    (hlast : client.lastOutcome library network = .response response)
    (hrefuses : Client.refuses library response = true) :
    (areas library files client fallback location network).result =
      .error (.fetch .bareCharset) := by
  refine areas_of_fault haddress ?_ nofun
  rw [hlast]
  exact Outcome.documentVerdict_of_refused (Client.accept_of_refuses hrefuses)

/-- A status that allows another attempt is passed on when no attempt is left. -/
theorem areas_of_retryable {fallback : List Wording} {response : Response}
    (haddress : Location.isAddress location = .ok true)
    (hlast : client.lastOutcome library network = .response response)
    (hrefuses : Client.refuses library response = false)
    (hretry : response.status ∈ Client.retryableStatuses) :
    (areas library files client fallback location network).result =
      .error (.fetch (.retryable response.status)) := by
  have hstatus : response.status ≠ 404 := by
    intro h
    rw [h] at hretry
    exact absurd hretry (by decide)
  refine areas_of_fault haddress ?_ (mt Option.some.inj hstatus)
  rw [hlast]
  exact Outcome.documentVerdict_of_refused (Client.accept_of_retryable hrefuses hretry)

/-- Any other status of a failure is passed on, too, except that of what is not found. -/
theorem areas_of_refused {fallback : List Wording} {response : Response}
    (haddress : Location.isAddress location = .ok true)
    (hlast : client.lastOutcome library network = .response response)
    (hrefuses : Client.refuses library response = false) (hhigh : 400 ≤ response.status)
    (hother : response.status ≠ 404) (hretry : response.status ∉ Client.retryableStatuses) :
    (areas library files client fallback location network).result =
      .error (.fetch (.refused response.status)) := by
  refine areas_of_fault haddress ?_ (mt Option.some.inj hother)
  rw [hlast]
  exact Outcome.documentVerdict_of_refused (Client.accept_of_refused hrefuses hretry hhigh)

/-- An answer without a document is a failure without a status. -/
theorem areas_of_no_document {fallback : List Wording} {response : Response}
    (haddress : Location.isAddress location = .ok true)
    (hlast : client.lastOutcome library network = .response response)
    (hrefuses : Client.refuses library response = false) (hlow : response.status < 400)
    (hnone : ∀ document, response.document library ≠ .ok document) :
    ∃ fault, (areas library files client fallback location network).result = .error (.fetch fault) ∧
      fault.status? = none := by
  cases hdocument : response.document library with
  | ok document => exact absurd hdocument (hnone document)
  | error problem =>
    have hnot : (Client.documentFault location problem).status? = none :=
      Client.status?_documentFault location problem
    refine ⟨_, areas_of_fault haddress ?_ (by rw [hnot]; nofun), hnot⟩
    rw [hlast, Outcome.documentVerdict, Client.verdict_eq_ok_iff.mpr ⟨rfl, hrefuses, hlow⟩,
      Except.bind, hdocument]
    rfl

/-- Other areas come with their warning exactly where there is no manifest or it lists no area. -/
theorem exists_isFallback_iff {fallback : List Wording} :
    (∃ list, (areas library files client fallback location network).result = .ok list ∧
        list.IsFallback fallback) ↔
      Lacks library files client location network ∨
        ∃ document, Offers library files client location network document ∧ document.ListsNoArea := by
  constructor
  · rintro ⟨list, hlist, hfallback⟩
    rcases areas_cases hlist with ⟨hnothing, -⟩ | ⟨hevents, -⟩
    · exact hnothing
    · obtain ⟨event, hevent, -⟩ := hfallback.warns
      rw [hevents] at hevent
      cases hevent
  · intro hnothing
    exact ⟨_, areas_of_nothing hnothing, isFallback_fallbackEvent fallback location⟩

/-- The areas that are found are the other ones, with one warning, exactly if no file lies at the path,
the last request ended with the status of what is not found, or the document that is there is no list
or has only items with blank texts. All other areas that are found come without a warning: they are
some, and they are the texts of those items of the document that are not blank, in their order and
without the blanks around them. Whatever else the last request for a document ends with is a failure:
no answer, an error that the library finds in the headers, a status that allows another attempt, another
one of the failures, and an answer without a document. -/
theorem fallback_only_for_nothing (library : Library) (files : Files) (client : Client)
    (fallback : List Wording) (location : String) (network : Network) :
    let found := (areas library files client fallback location network).result
    ((∃ list, found = .ok list ∧ list.IsFallback fallback) ↔
        Lacks library files client location network ∨
          ∃ document, Offers library files client location network document ∧ document.ListsNoArea) ∧
      (∀ list, found = .ok list → list.IsFallback fallback ∨
        list.events = [] ∧ list.names ≠ [] ∧ ∃ items texts,
          Offers library files client location network (.list items) ∧
          List.Forall₂ (fun item text => item.plainText = .ok text) items texts ∧
          list.names = (texts.filter (!Wording.isBlank ·)).map Wording.trim) ∧
      (Location.isAddress location = .ok true → match client.lastOutcome library network with
        | .failure text => found = .error (.fetch (.failed location text))
        | .response response =>
          (Client.refuses library response = true → found = .error (.fetch .bareCharset)) ∧
          (Client.refuses library response = false →
            (response.status ∈ Client.retryableStatuses →
              found = .error (.fetch (.retryable response.status))) ∧
            (400 ≤ response.status → response.status ≠ 404 →
              response.status ∉ Client.retryableStatuses →
                found = .error (.fetch (.refused response.status))) ∧
            (response.status < 400 → (∀ document, response.document library ≠ .ok document) →
              ∃ fault, found = .error (.fetch fault) ∧ fault.status? = none))) := by
  intro found
  refine ⟨exists_isFallback_iff, fun list hlist => (areas_cases hlist).imp_left And.right,
    fun haddress => ?_⟩
  cases hlast : client.lastOutcome library network with
  | failure text => exact areas_of_fault haddress (by rw [hlast]; rfl) nofun
  | response response =>
    refine ⟨areas_of_refuses haddress hlast, fun hrefuses => ?_⟩
    exact ⟨areas_of_retryable haddress hlast hrefuses, areas_of_refused haddress hlast hrefuses,
      areas_of_no_document haddress hlast hrefuses⟩

/-- A server that has nothing may say so after a status that allows another attempt. -/
example : (areas .standard {} {} [.whole "NW"] "https://host/areas.json"
    ⟨[.response { status := 503 }, .response { status := 404 }], "-"⟩).result =
      .ok ⟨[.whole "NW"], [fallbackEvent "https://host/areas.json"]⟩ := by decide +kernel

end Source

end DistrictAtlas
