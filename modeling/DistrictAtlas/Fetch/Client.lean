import DistrictAtlas.Entries
import DistrictAtlas.Fetch.Payload

/-!
# Fetching

Asking a server for a table or a document. Some statuses mean that another attempt may succeed; then
the same request is made again, up to a number of attempts. Any other status, and a request that does
not get through, ends the fetching. The network is what comes of the next requests, in order, so a
fetch also tells which requests it made and what it left of the network.
-/

namespace DistrictAtlas

/-- What comes of a request. -/
inductive Outcome where
  /-- The server answers. -/
  | response (response : Response)
  /-- The request does not get through, for a reason given in words. -/
  | failure (text : String)
deriving DecidableEq, Repr

/-- What comes of the next requests. -/
structure Network where
  /-- The outcomes in order. -/
  outcomes : List Outcome := []
  /-- Why all later requests do not get through. -/
  silence : String
deriving DecidableEq, Repr

/-- How many seconds a request may take. -/
structure Timeouts where
  /-- Until the connection stands. -/
  connect : Binary64 := Binary64.ofInt 10
  /-- Until the server answers. -/
  read : Binary64 := Binary64.ofInt 30
deriving DecidableEq, Repr

/-- A request to a server. -/
structure Request where
  /-- The address. -/
  url : String
  /-- The headers in order. -/
  headers : List (String × String)
  /-- How long it may take. -/
  timeouts : Timeouts
deriving DecidableEq, Repr

/-- How requests are made. -/
structure Client where
  /-- How long a request may take. -/
  timeouts : Timeouts := {}
  /-- How often a request is made; it is made once in any case. -/
  attempts : Int := 3
deriving DecidableEq, Repr

/-- Why a fetch failed. -/
inductive FetchFault where
  /-- The last attempt ended with a status that allows another one. -/
  | retryable (status : Int)
  /-- The server refused. -/
  | refused (status : Int)
  /-- A request did not get through. -/
  | failed (url text : String)
  /-- The answer is no document. -/
  | notDocument (url : String)
  /-- The answer is a document that is nested too deep. -/
  | tooDeep (nested : Json.Nested)
  /-- The answer names a character set by which nothing is read. -/
  | charset (refusal : Charset.Refusal)
  /-- The answer has a parameter for the character set that has no value. -/
  | bareCharset
deriving DecidableEq, Repr

namespace FetchFault

/-- The wording of a fault. -/
def message : FetchFault → String
  | retryable status => "Retryable HTTP status: " ++ String.ofList (Digits.ofInt status)
  | refused status => "HTTP status: " ++ String.ofList (Digits.ofInt status)
  | failed url text => "Request to " ++ url ++ " failed: " ++ text
  | notDocument url => "Invalid JSON payload from " ++ url
  | tooDeep nested => nested.message
  | charset refusal => refusal.message
  | bareCharset => "'bool' object has no attribute 'strip'"

/-- The name of a fault's kind. -/
def kind : FetchFault → String
  | retryable _ => "RetryableHttpError"
  | tooDeep _ => "RecursionError"
  | charset refusal => refusal.kind
  | bareCharset => "AttributeError"
  | _ => "HttpRequestError"

/-- Whether the fault is one that a client has to reckon with. -/
def isForeseen : FetchFault → Bool
  | tooDeep _ => false
  | charset _ => false
  | bareCharset => false
  | _ => true

/-- The status that the fault comes from. -/
def status? : FetchFault → Option Int
  | retryable status => some status
  | refused status => some status
  | _ => none

end FetchFault

/-- What became of a fetch. -/
structure Fetched (ε α : Type) where
  /-- What was fetched, or why nothing was. -/
  result : Except ε α
  /-- The requests made, in order. -/
  requests : List Request
  /-- What is left of the network. -/
  network : Network
deriving Repr

namespace Client

/-- The statuses that allow another attempt. -/
def retryableStatuses : List Int := [408, 425, 429, 500, 502, 503, 504]

/-- Whether the library finds an error in the headers of an answer. -/
def refuses (library : Library) (response : Response) : Bool :=
  library.refusesBare && response.hasBareCharset

/-- Whether another attempt may follow an answer. -/
def allowsMore (library : Library) (response : Response) : Bool :=
  !refuses library response && retryableStatuses.contains response.status

/-- An answer, unless there is an error in its headers or its status is a failure. -/
def accept (library : Library) (response : Response) : Except FetchFault Response :=
  if refuses library response then .error .bareCharset
  else if retryableStatuses.contains response.status then .error (.retryable response.status)
  else if 400 ≤ response.status then .error (.refused response.status)
  else .ok response

/-- Makes a request, and again up to `more` times while the answer allows it, given the outcomes to
come. -/
def attempt (library : Library) (request : Request) (silence : String) :
    (more : Nat) → List Outcome → Fetched FetchFault Response
  | _, [] => ⟨.error (.failed request.url silence), [request], ⟨[], silence⟩⟩
  | _, .failure text :: rest => ⟨.error (.failed request.url text), [request], ⟨rest, silence⟩⟩
  | 0, .response response :: rest => ⟨accept library response, [request], ⟨rest, silence⟩⟩
  | more + 1, .response response :: rest =>
    if allowsMore library response then
      let later := attempt library request silence more rest
      { later with requests := request :: later.requests }
    else ⟨accept library response, [request], ⟨rest, silence⟩⟩

/-- Makes a request as often as the client is allowed to. -/
def fetch (client : Client) (library : Library) (request : Request) (network : Network) :
    Fetched FetchFault Response :=
  attempt library request network.silence (client.attempts - 1).toNat network.outcomes

/-- By what name the program introduces itself. -/
def agent : String := "territory-rules/0.3 (+territory-map; contact: configured-email)"

/-- The headers of a request for content of the given types; further headers are put over them. -/
def headers (types : String) (further : List (String × String)) : List (String × String) :=
  further.foldl (fun all header => Entries.put header.1 header.2 all)
    [("User-Agent", agent), ("Accept", types)]

/-- The request for content of the given types. -/
def request (client : Client) (types url : String) (further : List (String × String))
    (timeouts : Option Timeouts) : Request :=
  ⟨url, headers types further, timeouts.getD client.timeouts⟩

/-- Fetches a text, with headers and timeouts for this fetch alone. -/
def fetchText (client : Client) (library : Library) (url : String)
    (further : List (String × String)) (timeouts : Option Timeouts) (network : Network) :
    Fetched FetchFault String :=
  let types := "text/csv, text/plain, */*"
  let fetched := client.fetch library (client.request types url further timeouts) network
  { fetched with
    result := fetched.result.bind fun response => response.text.mapError .charset }

/-- The fault of a document in the answer from an address. -/
def documentFault (url : String) : PayloadFault → FetchFault
  | .document (.tooDeep nested) => .tooDeep nested
  | _ => .notDocument url

/-- Fetches a document, with headers and timeouts for this fetch alone. -/
def fetchDocument (client : Client) (library : Library) (url : String)
    (further : List (String × String)) (timeouts : Option Timeouts) (network : Network) :
    Fetched FetchFault Value :=
  let fetched :=
    client.fetch library (client.request "application/json" url further timeouts) network
  { fetched with
    result := fetched.result.bind fun response =>
      (response.document library).mapError (documentFault url) }

/-- Where no outcome is left the first request does not get through. -/
theorem attempt_nil (library : Library) (request : Request) (silence : String) (more : Nat) :
    attempt library request silence more [] =
      ⟨.error (.failed request.url silence), [request], ⟨[], silence⟩⟩ := by
  cases more <;> rfl

end Client

end DistrictAtlas
