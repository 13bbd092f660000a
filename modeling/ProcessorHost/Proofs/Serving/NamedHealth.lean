import ProcessorHost.Proofs.Json.Dictionaries
import ProcessorHost.Proofs.Serving.Gate

/-!
# Asking for the health of a service

The health of a service is told to whoever asks for it by its name, whatever the name is and
whatever else the server is doing. Two names below `/health` are taken by the probes of the server
itself, and so no service is told of under these. Where requests have no time nothing is told.
-/

namespace ProcessorHost

variable {E L : Type} {r : Http.Request} {segment name : String}

namespace Http.Request

/-- The health of a service is asked for by a segment. -/
structure AsksHealth (r : Request) (segment : String) : Prop where
  method : r.method = "GET"
  target : r.target = "/health/" ++ segment

lemma AsksHealth.resource (hasks : r.AsksHealth segment) (hempty : name ≠ "")
    (hfixed : name ∉ Resource.fixedNames)
    (hsegment : Encodes (Json.bytesOf name) (Json.bytesOf segment)) :
    Resource.ofPath? r.path = some (.serviceHealth segment) := by
  have htarget : r.target = "/health/" ++ segment ++ "" := by
    rw [hasks.target, String.append_empty]
  have hpath : r.path = r.target :=
    path_eq_target_of_encodes htarget hsegment (by decide) (by decide)
  have hslash : '/' ∉ segment.toList := hsegment.not_mem (b := 47) (by decide) (by decide)
  have hother : segment ∉ Resource.fixedNames := by
    simp only [Resource.fixedNames, List.mem_cons, List.not_mem_nil, or_false, not_or] at hfixed ⊢
    exact ⟨hsegment.ne_of_unreserved (by decide) hfixed.1,
      hsegment.ne_of_unreserved (by decide) hfixed.2⟩
  rw [hpath, hasks.target, Resource.ofPath?_serviceHealth hslash
    (hsegment.ne_of_unreserved (by decide) hempty) hother]

end Http.Request

namespace Server

variable {server : Server}

lemma receive_health {clients : Clients E L} {host : Host E L} (hasks : r.AsksHealth segment)
    (hempty : name ≠ "") (hfixed : name ∉ Http.Resource.fixedNames)
    (hsegment : Http.Encodes (Json.bytesOf name) (Json.bytesOf segment)) :
    server.receive clients host r = .respond (serviceHealth clients host name) := by
  have hmethod : (Http.Resource.serviceHealth segment).methods.contains r.method := by
    rw [hasks.method]
    rfl
  rw [receive_of_allowed (hasks.resource hempty hfixed hsegment) hmethod]
  exact receiveAt_serviceHealth (Http.segmentText?_eq_some hsegment)

section Told

variable {clients : Clients E L} {host : Host E L}

lemma status_serviceHealth_eq_200 :
    (serviceHealth clients host name).status = 200 ↔ host.health clients name = .serving := by
  change statusOf (decide (host.health clients name = .serving)) = 200 ↔ _
  cases host.health clients name
  all_goals decide

lemma status_serviceHealth_eq_503 :
    (serviceHealth clients host name).status = 503 ↔ host.health clients name ≠ .serving := by
  change statusOf (decide (host.health clients name = .serving)) = 503 ↔ _
  cases host.health clients name
  all_goals decide

/-- The body has the name and the health, whatever signs the name is made of. -/
lemma body_serviceHealth :
    Json.document (Json.Decoder.dictionary Json.Decoder.string)
        (Json.bytesOf (serviceHealth clients host name).body) =
      .ok [("service", name), ("status", (host.health clients name).name)] := by
  have hsorted (status : String) : Keyed.ofList [("service", name), ("status", status)] =
      [("service", name), ("status", status)] := by
    have hlt : ¬ "status" < "service" := by decide
    simp [Keyed.ofList, Keyed.insert, hlt]
  rw [← hsorted, ← Json.document_texts]
  rfl

end Told

/-- The health of a service is told under its name. -/
structure TellsHealthOf (server : Server) (name : String) : Prop where
  /-- The name can be written in a target. -/
  written : ∃ segment, Http.EscapesReserved (Json.bytesOf name) (Json.bytesOf segment)
  /-- However it is written, what is told is the health of that service at that moment, and nothing
  else changes. -/
  told : ∀ segment, Http.EscapesReserved (Json.bytesOf name) (Json.bytesOf segment) →
    ∀ r : Http.Request, r.AsksHealth segment →
    ∀ (E L : Type) (clients : Clients E L) (host : Host E L) (number : Nat) (freshId : String),
      ∃ response, Job.arrive clients server host number freshId r =
          (host, .answered (.responded response)) ∧
        (response.status = 200 ↔ host.health clients name = .serving) ∧
        (response.status = 503 ↔ host.health clients name ≠ .serving) ∧
        response.contentType = some "application/json" ∧
        Json.document (Json.Decoder.dictionary Json.Decoder.string) (Json.bytesOf response.body) =
          .ok [("service", name), ("status", (host.health clients name).name)]

/-- Whatever the name of a service is, if it is not that of a probe, its health is told where
requests have time. -/
theorem health_told (server : Server) (htime : server.HasTime) (name : String) (hempty : name ≠ "")
    (hfixed : name ∉ Http.Resource.fixedNames) : server.TellsHealthOf name where
  written := Http.EscapesReserved.exists_segment name
  told segment hsegment r hasks E L clients host number freshId := by
    have hreceive : server.receive clients host r = .respond (serviceHealth clients host name) :=
      receive_health hasks hempty hfixed hsegment.encodes
    have hget : (r.method = "HEAD") = False := by
      rw [hasks.method]
      decide
    refine ⟨{ serviceHealth clients host name with requestId := some (r.name freshId) }, ?_,
      status_serviceHealth_eq_200, status_serviceHealth_eq_503, rfl, body_serviceHealth⟩
    unfold Job.arrive
    rw [if_neg htime, hreceive]
    simp only [hget]
    rfl

/-- A host at rest with one service that is serving. -/
def attending (name : String) : Host Unit Lifecycle :=
  { resting with lifecycle := Lifecycle.empty.setHealth name .serving }

/-- A server that drains tells of a service by a name that must be escaped. -/
theorem counting_tells : counting.TellsHealthOf "a/b ü" ∧
    ∀ r : Http.Request, r.AsksHealth "a%2Fb%20%c3%bc" → ∃ response,
      Job.arrive looseClients counting ((attending "a/b ü").withServing ⟨.draining, 1⟩) 1 "one" r =
        ((attending "a/b ü").withServing ⟨.draining, 1⟩, .answered (.responded response)) ∧
      response.status = 200 := by
  have htime : counting.HasTime := by
    unfold HasTime
    decide
  have htells := health_told counting htime "a/b ü" (by decide) (by decide)
  refine ⟨htells, fun r hasks => ?_⟩
  have hsegment : Http.EscapesReserved (Json.bytesOf "a/b ü") (Json.bytesOf "a%2Fb%20%c3%bc") := by
    rw [Json.bytesOf_eq, Json.bytesOf_eq]
    exact .unreserved (by decide) <| .reserved (by decide) (by decide) <|
      .unreserved (by decide) <| .reserved (by decide) (by decide) <|
      .reserved (by decide) (by decide) <| .reserved (by decide) (by decide) .nil
  obtain ⟨response, harrive, hstatus, -⟩ :=
    htells.told _ hsegment r hasks _ _ looseClients _ 1 "one"
  exact ⟨response, harrive, hstatus.mpr (by decide)⟩

/-- A request for what is below `/health`. -/
def probe (segment : String) : Http.Request := ⟨"GET", "/health/" ++ segment, [], []⟩

/-- What a probe is answered is the health, if that is told under its name. -/
lemma TellsHealthOf.status {server : Server} (htells : server.TellsHealthOf name)
    (hfree : (name.toList.flatMap String.utf8EncodeChar).all Http.isUnreserved = true)
    (clients : Clients E L) (host : Host E L) {response : Http.Response}
    (harrive : (Job.arrive clients server host 1 "one" (probe name)).2 =
      .answered (.responded response)) :
    (response.status = 200 ↔ host.health clients name = .serving) ∧
      (response.status = 503 ↔ host.health clients name ≠ .serving) := by
  rw [← Json.bytesOf_eq] at hfree
  obtain ⟨told, htold, hup, hdown, -⟩ := htells.told name (.of_unreserved hfree) (probe name)
    ⟨rfl, rfl⟩ _ _ clients host 1 "one"
  rw [htold] at harrive
  obtain rfl := Answer.responded.inj (JobProgress.answered.inj harrive)
  exact ⟨hup, hdown⟩

/-- Under the name of a probe not the health of a service is told, but that of the server, and
nothing is told where requests have no time. -/
theorem probes_not_told : counting.HasTime ∧ ¬ counting.TellsHealthOf "live" ∧
    ¬ counting.TellsHealthOf "ready" ∧ ¬ hurried.TellsHealthOf "counter" := by
  refine ⟨?_, fun htells => ?_, fun htells => ?_, fun htells => ?_⟩
  · unfold HasTime
    decide
  · have hstatus := (htells.status (by decide) looseClients resting rfl).1
    exact absurd (hstatus.mp rfl) (by decide)
  · have hstatus := (htells.status (by decide) looseClients (attending "ready") rfl).2
    exact absurd (by decide) (hstatus.mp rfl)
  · have hstatus := (htells.status (by decide) looseClients resting rfl).2
    exact absurd (hstatus.mpr (by decide)) (by decide)

end Server

end ProcessorHost
