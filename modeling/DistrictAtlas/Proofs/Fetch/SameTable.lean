import DistrictAtlas.Proofs.Fetch.Attempts
import DistrictAtlas.Proofs.Fetch.ContentType
import DistrictAtlas.Proofs.Settings.Loading
import DistrictAtlas.Rules.Loading

/-!
# The same table from a file and from a server

A file is read strictly and as it stands, the body of a response leniently and in the character set
that its header leads to. For the bytes of a text both give the text, so it makes no difference to
what is loaded where a table comes from.
-/

namespace DistrictAtlas

/-- A server delivers a payload as UTF-8: the first outcome that allows no other attempt comes while
the client may still ask, and it is a response with this body whose header leaves it at UTF-8. -/
structure Network.Delivers (network : Network) (library : Library) (client : Client)
    (response : Response) (body : Bytes) : Prop where
  /-- It comes while the client may still ask. -/
  inTime : (network.lead library : Int) < max 1 client.attempts
  /-- It is the response. -/
  decides : network.outcomeAt (network.lead library) = .response response
  /-- All is well with it. -/
  status : response.status = 200
  /-- It has the body. -/
  body : response.body = body
  /-- Its header leaves it at UTF-8. -/
  utf8 : response.LeavesUtf8

namespace Source

/-- The text of a table that a server delivers is the text whose bytes were sent. -/
theorem table_of_delivers {library : Library} {client : Client} {network : Network}
    {response : Response} {url text : String} (hurl : Location.isAddress url = .ok true)
    (h : network.Delivers library client response (Utf8.encode text)) (files : Files) :
    (table library files client url network).result = .ok text := by
  have hrefuses : Client.refuses library response = false :=
    Client.refuses_of_not_bare (Response.hasBareCharset_of_leavesUtf8 h.utf8)
  have hok : Client.accept library response = .ok response :=
    (Client.accept_eq_ok_iff _ _ _).mpr ⟨hrefuses, by rw [h.status]; decide, rfl⟩
  have htext : response.text = .ok text := by
    rw [Response.text_of_leavesUtf8 h.utf8, h.body, Utf8.decodeLenient_encode]
  unfold table
  rw [hurl]
  dsimp only [Client.fetchText]
  rw [Client.fetch_result_of_lead h.inTime, h.decides]
  dsimp only [Outcome.verdict]
  rw [hok]
  dsimp only [Except.bind]
  rw [htext]
  rfl

/-- The bytes of a text give this text as a table, whether they lie in a file or come from a server,
and so the same is loaded, whatever library the requests are made with. -/
theorem file_and_server_alike {text path url : String} {files : Files} {network : Network}
    {library : Library} {client : Client} {response : Response}
    (hpath : Location.isAddress path = .ok false)
    (hfile : files.read (Path.read path) = .ok (Utf8.encode text))
    (hurl : Location.isAddress url = .ok true)
    (hserver : network.Delivers library client response (Utf8.encode text))
    (library' : Library) (files' : Files) (client' : Client) (network' : Network) :
    (table library' files client' path network').result = .ok text ∧
      (table library files' client url network).result = .ok text ∧
      ∀ colors : List String,
        (table library' files client' path network').result.bind (Rulebook.load colors) =
          (table library files' client url network).result.bind (Rulebook.load colors) := by
  have hlocal : (table library' files client' path network').result = .ok text := by
    unfold table
    rw [hpath]
    exact tableFile_of_read hfile
  have hremote := table_of_delivers hurl hserver files'
  refine ⟨hlocal, hremote, fun colors => ?_⟩
  rw [hlocal, hremote]

/-- A table with a byte order mark, line ends of two kinds and a letter beyond ASCII. -/
def markedTable : String := "\uFEFFid,prefixes\r\n\"Zürich\nNord\",W1\r"

/-- A response with this table that names UTF-8 in its own way, behind something else. -/
def markedResponse : Response :=
  { status := 200, headers := [("CONTENT-TYPE", "Text/CSV; header=present; Charset=\"Utf-8\" ")],
    body := Utf8.encode markedTable }

/-- A server that sends it when asked a second time. -/
def hesitantServer : Network :=
  { outcomes := [.response { status := 503 }, .response markedResponse], silence := "no more" }

/-- The parameter in which the response names UTF-8. -/
def quotedUtf8 : Response.Utf8Parameter where
  front := [' ']
  name := "Charset".toList
  quote := ['"']
  value := "Utf-8".toList
  back := [' ']
  front_blank := List.forall_mem_singleton.mpr (by decide)
  name_eq := by decide
  quote_mem := by decide
  value_eq := by decide
  back_blank := List.forall_mem_singleton.mpr (by decide)

/-- This table is the same from a file and from this server. -/
theorem markedTable_alike :
    let files := Files.ofList [("t.csv", some (Utf8.encode markedTable))]
    hesitantServer.Delivers .standard {} markedResponse (Utf8.encode markedTable) ∧
      (table .standard files {} "t.csv" hesitantServer).result = .ok markedTable ∧
      (table .standard {} {} "https://example.com/t.csv" hesitantServer).result = .ok markedTable := by
  intro files
  have hpath : Location.isAddress "t.csv" = .ok false := by decide +kernel
  have hurl : Location.isAddress "https://example.com/t.csv" = .ok true := by decide +kernel
  have hfile : files.read (Path.read "t.csv") = .ok (Utf8.encode markedTable) := rfl
  have hparts : Text.splitChars ';' markedResponse.contentType.toList =
      "Text/CSV".toList :: ([" header=present".toList] ++ [quotedUtf8.chars]) := by decide +kernel
  have hdelivers : hesitantServer.Delivers .standard {} markedResponse (Utf8.encode markedTable) :=
    ⟨by decide, rfl, rfl, rfl, Or.inr (Or.inr ⟨_, _, quotedUtf8, [], hparts, nofun⟩)⟩
  have halike := file_and_server_alike hpath hfile hurl hdelivers .standard {} {} hesitantServer
  exact ⟨hdelivers, halike.1, halike.2.1⟩

end Source

end DistrictAtlas
