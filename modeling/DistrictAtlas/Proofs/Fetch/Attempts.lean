import DistrictAtlas.Fetch.Client

/-!
# How often a request is made

A request is made until an outcome allows no other attempt, or as often as the client may make it,
and once in any case. All attempts make the same request, the last outcome decides what becomes of
the fetch, and the outcomes behind it stay in the network. An answer in whose headers the library finds
an error is none that allows another attempt.
-/

namespace DistrictAtlas

/-- Whether another attempt may follow an outcome: only a status allows it, so a request that does not
get through is not repeated. -/
def Outcome.allowsMore (library : Library) : Outcome → Bool
  | .response found => Client.allowsMore library found
  | .failure _ => false

/-- What becomes of a fetch that ends with an outcome. -/
def Outcome.verdict (library : Library) (url : String) : Outcome → Except FetchFault Response
  | .response found => Client.accept library found
  | .failure text => .error (.failed url text)

/-- How many outcomes at the start all allow another attempt. -/
def Network.lead (library : Library) (network : Network) : Nat :=
  network.outcomes.findIdx fun outcome => !outcome.allowsMore library

/-- What comes of a request after others, the silence included. -/
def Network.outcomeAt (network : Network) (before : Nat) : Outcome :=
  network.outcomes[before]?.getD (.failure network.silence)

/-- The network after some requests. -/
def Network.after (network : Network) (requests : Nat) : Network :=
  { network with outcomes := network.outcomes.drop requests }

/-- A fault tells its kind and the status that it comes from. -/
def FetchFault.Tells (fault : FetchFault) (kind : String) (status : Option Int) : Prop :=
  fault.kind = kind ∧ fault.status? = status

namespace Client

variable {library : Library}

/-- An answer is refused if its parameter for the character set lacks its value and this is an error to
the library. -/
theorem refuses_iff {response : Response} : refuses library response = true ↔
    library.refusesBare = true ∧ response.hasBareCharset = true := by
  rw [refuses, Bool.and_eq_true]

/-- A library refuses no answer whose parameter for the character set has its value. -/
theorem refuses_of_not_bare {response : Response} (h : response.hasBareCharset = false) :
    refuses library response = false := by
  rw [refuses, h, Bool.and_false]

/-- An answer that is refused is reported as such, whatever its status is. -/
theorem accept_of_refuses {response : Response} (h : refuses library response = true) :
    accept library response = .error .bareCharset :=
  if_pos h

/-- The answers that are accepted are those that are not refused and have a status below the failures,
and they are returned as they are. -/
theorem accept_eq_ok_iff (library : Library) (response found : Response) :
    accept library response = .ok found ↔
      refuses library response = false ∧ response.status < 400 ∧ found = response := by
  have hlow : ∀ status ∈ retryableStatuses, 400 ≤ status := by decide
  unfold accept
  constructor
  · intro h
    split at h
    · cases h
    · next hrefuses =>
      split at h
      · cases h
      · split at h
        · cases h
        · next hstatus =>
          cases h
          exact ⟨Bool.eq_false_iff.mpr hrefuses, Int.not_le.mp hstatus, rfl⟩
  · rintro ⟨hrefuses, hstatus, rfl⟩
    have hnot : ¬retryableStatuses.contains found.status = true := fun h =>
      absurd (hlow _ (List.contains_iff_mem.mp h)) (Int.not_le.mpr hstatus)
    rw [if_neg (Bool.eq_false_iff.mp hrefuses), if_neg hnot, if_neg (Int.not_le.mpr hstatus)]

/-- A status that allows another attempt is reported as such when none is left. -/
theorem accept_of_retryable {response : Response} (hrefuses : refuses library response = false)
    (h : response.status ∈ retryableStatuses) :
    accept library response = .error (.retryable response.status) := by
  unfold accept
  rw [if_neg (Bool.eq_false_iff.mp hrefuses), if_pos (List.contains_iff_mem.mpr h)]

/-- Any other status of a failure is reported as a refusal. -/
theorem accept_of_refused {response : Response} (hrefuses : refuses library response = false)
    (hnot : response.status ∉ retryableStatuses) (h : 400 ≤ response.status) :
    accept library response = .error (.refused response.status) := by
  unfold accept
  rw [if_neg (Bool.eq_false_iff.mp hrefuses),
    if_neg fun hmem => hnot (List.contains_iff_mem.mp hmem), if_pos h]

/-- An answer is refused by the library, or it is accepted or, if its status is one of the failures,
refused with this status. -/
theorem accept_cases (library : Library) (response : Response) :
    (refuses library response = true ∧ accept library response = .error .bareCharset) ∨
      (refuses library response = false ∧ response.status < 400 ∧
        accept library response = .ok response) ∨
      (refuses library response = false ∧ 400 ≤ response.status ∧
        ∃ fault, accept library response = .error fault ∧
          fault.status? = some response.status ∧ fault.isForeseen = true) := by
  cases hrefuses : refuses library response with
  | true => exact Or.inl ⟨rfl, accept_of_refuses hrefuses⟩
  | false =>
    refine Or.inr ?_
    rcases Int.lt_or_le response.status 400 with hlow | hhigh
    · exact Or.inl ⟨rfl, hlow, (accept_eq_ok_iff library response response).mpr
        ⟨hrefuses, hlow, rfl⟩⟩
    · refine Or.inr ⟨rfl, hhigh, ?_⟩
      by_cases hretry : response.status ∈ retryableStatuses
      · exact ⟨_, accept_of_retryable hrefuses hretry, rfl, rfl⟩
      · exact ⟨_, accept_of_refused hrefuses hretry hhigh, rfl, rfl⟩

/-- What is accepted is an answer that is not refused and has a status below the failures. -/
theorem verdict_eq_ok_iff {url : String} {outcome : Outcome} {response : Response} :
    outcome.verdict library url = .ok response ↔ outcome = .response response ∧
      refuses library response = false ∧ response.status < 400 := by
  cases outcome with
  | failure text => exact iff_of_false nofun nofun
  | response found =>
    rw [Outcome.verdict, accept_eq_ok_iff]
    constructor
    · rintro ⟨hrefuses, hstatus, rfl⟩
      exact ⟨rfl, hrefuses, hstatus⟩
    · rintro ⟨hfound, hrefuses, hstatus⟩
      cases hfound
      exact ⟨hrefuses, hstatus, rfl⟩

/-- Nothing leads up to an outcome that allows no other attempt. -/
theorem lead_of_stop {outcome : Outcome} (h : outcome.allowsMore library = false)
    (rest : List Outcome) (silence : String) :
    Network.lead library ⟨outcome :: rest, silence⟩ = 0 := by
  unfold Network.lead
  rw [List.findIdx_cons, h]
  rfl

/-- An outcome that allows another attempt is one more that leads up to the others. -/
theorem lead_of_more {outcome : Outcome} (h : outcome.allowsMore library = true)
    (rest : List Outcome) (silence : String) :
    Network.lead library ⟨outcome :: rest, silence⟩ =
      Network.lead library ⟨rest, silence⟩ + 1 := by
  unfold Network.lead
  rw [List.findIdx_cons, h]
  rfl

/-- The last attempt that is left ends with its outcome, whatever this is. -/
theorem attempt_zero (request : Request) (outcome : Outcome) (rest : List Outcome)
    (silence : String) :
    attempt library request silence 0 (outcome :: rest) =
      ⟨outcome.verdict library request.url, [request], ⟨rest, silence⟩⟩ := by
  cases outcome <;> rfl

/-- An outcome that allows no other attempt ends the fetch, whatever is left to the client. -/
theorem attempt_of_stop {outcome : Outcome} (h : outcome.allowsMore library = false)
    (request : Request) (more : Nat) (rest : List Outcome) (silence : String) :
    attempt library request silence more (outcome :: rest) =
      ⟨outcome.verdict library request.url, [request], ⟨rest, silence⟩⟩ := by
  cases more with
  | zero => exact attempt_zero request outcome rest silence
  | succ more =>
    cases outcome with
    | failure text => rfl
    | response response =>
      have hanswer : Client.allowsMore library response = false := h
      dsimp only [attempt]
      rw [hanswer, if_neg Bool.false_ne_true]
      rfl

/-- Behind an outcome that allows another attempt the same request is made again. -/
theorem attempt_of_more {outcome : Outcome} (h : outcome.allowsMore library = true)
    (request : Request) (more : Nat) (rest : List Outcome) (silence : String) :
    attempt library request silence (more + 1) (outcome :: rest) =
      let later := attempt library request silence more rest
      { later with requests := request :: later.requests } := by
  cases outcome with
  | failure text => cases h
  | response response =>
    have hanswer : Client.allowsMore library response = true := h
    dsimp only [attempt]
    rw [hanswer, if_pos rfl]

/-- The attempts end with the first outcome that allows no other, or with the last one that is left to
the client; this outcome decides. -/
theorem attempt_eq (library : Library) (request : Request) (more : Nat) (network : Network) :
    attempt library request network.silence more network.outcomes =
      ⟨(network.outcomeAt (min more (network.lead library))).verdict library request.url,
        List.replicate (min more (network.lead library) + 1) request,
        network.after (min more (network.lead library) + 1)⟩ := by
  obtain ⟨outcomes, silence⟩ := network
  induction outcomes generalizing more with
  | nil =>
    have hlead : Network.lead library ⟨[], silence⟩ = 0 := rfl
    rw [attempt_nil, hlead, Nat.min_zero]
    rfl
  | cons outcome rest ih =>
    cases hmore : outcome.allowsMore library with
    | false =>
      rw [attempt_of_stop hmore, lead_of_stop hmore, Nat.min_zero]
      rfl
    | true =>
      cases more with
      | zero =>
        rw [attempt_zero, Nat.zero_min]
        rfl
      | succ more =>
        rw [attempt_of_more hmore, ih, lead_of_more hmore, Nat.add_min_add_right]
        rfl

/-- How many requests a fetch makes: as many as the client may make, and one in any case, but none
behind the first outcome that allows no other attempt. -/
def requestCount (client : Client) (library : Library) (network : Network) : Nat :=
  min (max 1 client.attempts).toNat (network.lead library + 1)

/-- A fetch makes one request as often as it may and has to, and the last outcome decides. -/
theorem fetch_eq (client : Client) (library : Library) (request : Request) (network : Network) :
    client.fetch library request network =
      ⟨(network.outcomeAt (client.requestCount library network - 1)).verdict library request.url,
        List.replicate (client.requestCount library network) request,
        network.after (client.requestCount library network)⟩ := by
  have hcount : client.requestCount library network =
      min (client.attempts - 1).toNat (network.lead library) + 1 := by
    unfold requestCount
    omega
  rw [fetch, attempt_eq, hcount, Nat.add_sub_cancel]

/-- What comes of the last request of a fetch. -/
def lastOutcome (client : Client) (library : Library) (network : Network) : Outcome :=
  network.outcomeAt (client.requestCount library network - 1)

/-- The last outcome decides what becomes of a fetch. -/
theorem fetch_result (client : Client) (library : Library) (request : Request)
    (network : Network) :
    (client.fetch library request network).result =
      (client.lastOutcome library network).verdict library request.url := by
  rw [fetch_eq, lastOutcome]

/-- Where the client may make enough requests, the first outcome that allows no other attempt
decides. -/
theorem fetch_result_of_lead {client : Client} {network : Network}
    (hcount : (network.lead library : Int) < max 1 client.attempts) (request : Request) :
    (client.fetch library request network).result =
      (network.outcomeAt (network.lead library)).verdict library request.url := by
  have hlead : client.requestCount library network - 1 = network.lead library := by
    unfold requestCount
    omega
  rw [fetch_eq, hlead]

/-- A fetch makes as many requests as the client may make, once in any case, but none behind the first
outcome that is no status for another attempt, silence being such an outcome. All requests are the
same, nothing behind the last outcome is used up, and this outcome decides: a status below the
failures is returned, any other is reported as what it is, and a request that does not get through
is reported without a status. Where the library finds an error in the headers of an answer, this error
takes the place of the answer. -/
theorem fetch_is_exact (client : Client) (library : Library) (types url : String)
    (further : List (String × String)) (timeouts : Option Timeouts) (network : Network) :
    let fetched := client.fetch library (client.request types url further timeouts) network
    let count := min (max 1 client.attempts).toNat (network.lead library + 1)
    fetched.requests.length = count ∧
      (∀ made ∈ fetched.requests, made.url = url ∧ made.headers = headers types further ∧
        made.timeouts = timeouts.getD client.timeouts) ∧
      fetched.network.outcomes = network.outcomes.drop count ∧
      match network.outcomeAt (count - 1) with
      | .response response =>
        (refuses library response = true → ∃ fault, fetched.result = .error fault ∧
          fault.Tells "AttributeError" none) ∧
        (refuses library response = false →
          (∀ found, fetched.result = .ok found ↔ response.status < 400 ∧ found = response) ∧
            (response.status ∈ retryableStatuses → ∃ fault, fetched.result = .error fault ∧
              fault.Tells "RetryableHttpError" (some response.status)) ∧
            (response.status ∉ retryableStatuses → 400 ≤ response.status →
              ∃ fault, fetched.result = .error fault ∧
                fault.Tells "HttpRequestError" (some response.status)))
      | .failure _ => ∃ fault, fetched.result = .error fault ∧
          fault.Tells "HttpRequestError" none := by
  intro fetched count
  have hfetched : fetched = _ :=
    fetch_eq client library (client.request types url further timeouts) network
  rw [hfetched]
  refine ⟨List.length_replicate, ?_, rfl, ?_⟩
  · intro made hmade
    rw [List.eq_of_mem_replicate hmade]
    exact ⟨rfl, rfl, rfl⟩
  · have hcount : client.requestCount library network = count := rfl
    rw [hcount]
    dsimp only
    cases network.outcomeAt (count - 1) with
    | failure text => exact ⟨_, rfl, rfl, rfl⟩
    | response response =>
      refine ⟨fun hrefuses => ⟨_, accept_of_refuses hrefuses, rfl, rfl⟩, fun hrefuses => ?_⟩
      refine ⟨fun found => ?_, fun hstatus => ?_, fun hnot hstatus => ?_⟩
      · exact (accept_eq_ok_iff library response found).trans (and_iff_right hrefuses)
      · exact ⟨_, accept_of_retryable hrefuses hstatus, rfl, rfl⟩
      · exact ⟨_, accept_of_refused hrefuses hnot hstatus, rfl, rfl⟩

end Client

end DistrictAtlas
