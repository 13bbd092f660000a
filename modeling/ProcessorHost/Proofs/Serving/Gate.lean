import ProcessorHost.Proofs.Building.Reachable
import ProcessorHost.Proofs.Call.CallWorld
import ProcessorHost.Proofs.Call.Untouched

/-!
# The gate before process calls

A process call is looked at in a fixed order: its segment, its body, the identifier, and the state
of the server. What fails first is the answer, and then nothing has happened. Only a call that
passes comes to the events client, and to the processor if it is given an event. Where requests have
no time at all none of this is looked at.
-/

namespace ProcessorHost

variable {E L : Type}

/-- A process call by its first line: it is posted to the path of a segment. -/
structure Http.Request.Asks (r : Http.Request) (segment : String) : Prop where
  method : r.method = "POST"
  path : r.path = "/v1/processors/" ++ segment ++ "/process"
  whole : '/' ∉ segment.toList

/-- The name under which a request is answered. -/
def Http.Request.name (r : Http.Request) (freshId : String) : String :=
  (r.header? "x-request-id").getD freshId

namespace Server

variable {server : Server} {state : ServingState} {segment : String} {r : Http.Request}
  {request : ProcessRequest}

/-- All that a process call must have. -/
structure Admits (server : Server) (state : ServingState) (segment : String) (r : Http.Request)
    (request : ProcessRequest) : Prop where
  identifier : Http.segmentText? segment = some server.service.identity.id
  body : Http.acceptBody (readDocument ProcessRequest.decoder) r = .ok request
  ready : state = .ready

/-- The answers to what it lacks, each only if there is nothing to object to before. -/
inductive Denies (server : Server) (state : ServingState) (segment : String) (r : Http.Request) :
    Http.Response → Prop
  | segment (hsegment : Http.segmentText? segment = none) :
      Denies server state segment r (Http.badSegment .id)
  | body {id : String} {rejection : Http.BodyRejection}
      (hsegment : Http.segmentText? segment = some id)
      (hbody : Http.acceptBody (readDocument ProcessRequest.decoder) r = .error rejection) :
      Denies server state segment r rejection.response
  | identifier {id : String} {request : ProcessRequest}
      (hsegment : Http.segmentText? segment = some id)
      (hbody : Http.acceptBody (readDocument ProcessRequest.decoder) r = .ok request)
      (hid : id ≠ server.service.identity.id) :
      Denies server state segment r (ApiError.unknownProcessor id).response
  | state {request : ProcessRequest}
      (hsegment : Http.segmentText? segment = some server.service.identity.id)
      (hbody : Http.acceptBody (readDocument ProcessRequest.decoder) r = .ok request)
      (hstate : state ≠ .ready) : Denies server state segment r ApiError.unavailable.response

/-- Whether requests are looked at. -/
def HasTime (server : Server) : Prop := server.config.requestTimeout.nanos ≠ 0

/-- Every process call is admitted or denied. -/
lemma admits_or_denies (server : Server) (state : ServingState) (segment : String)
    (r : Http.Request) :
    (∃ request, server.Admits state segment r request) ∨
      ∃ response, server.Denies state segment r response := by
  cases hsegment : Http.segmentText? segment with
  | none => exact .inr ⟨_, .segment hsegment⟩
  | some id =>
    cases hbody : Http.acceptBody (readDocument ProcessRequest.decoder) r with
    | error rejection => exact .inr ⟨_, .body hsegment hbody⟩
    | ok request =>
      by_cases hid : id = server.service.identity.id
      · subst hid
        by_cases hstate : state = .ready
        · exact .inl ⟨request, hsegment, hbody, hstate⟩
        · exact .inr ⟨_, .state hsegment hbody hstate⟩
      · exact .inr ⟨_, .identifier hsegment hbody hid⟩

lemma Denies.not_admits {response : Http.Response} (h : server.Denies state segment r response) :
    ¬ server.Admits state segment r request := by
  rintro ⟨hsome, hok, hready⟩
  cases h with
  | segment hsegment => cases hsegment.symm.trans hsome
  | body hsegment hbody => cases hbody.symm.trans hok
  | identifier hsegment hbody hid => exact hid (Option.some.inj (hsegment.symm.trans hsome))
  | state hsegment hbody hstate => exact hstate hready

lemma Denies.letIn {host : Host E L} {response : Http.Response}
    (h : server.Denies host.serving.state segment r response) :
    server.letIn host segment r = .error response := by
  unfold Server.letIn readSegment
  cases h with
  | segment hsegment =>
    rw [hsegment]
    rfl
  | body hsegment hbody =>
    rw [hsegment, hbody]
    rfl
  | identifier hsegment hbody hid =>
    rw [hsegment, hbody]
    simp [check, Ne.symm hid, bind, Except.bind, Except.mapError]
  | state hsegment hbody hstate =>
    rw [hsegment, hbody]
    simp [check, hstate, bind, Except.bind, Except.mapError, throw, throwThe, MonadExceptOf.throw]

lemma receive_asked {clients : Clients E L} {host : Host E L} (hasks : r.Asks segment) :
    server.receive clients host r = server.receiveAt clients host r (.process segment) := by
  have hmethod : (Http.Resource.process segment).methods.contains r.method := by
    rw [hasks.method]
    rfl
  have hresource : Http.Resource.ofPath? r.path = some (.process segment) := by
    rw [hasks.path, Http.Resource.ofPath?_process hasks.whole]
  exact receive_of_allowed hresource hmethod

end Server

/-- Going on, a call asks the events client for nothing but to close. -/
lemma Call.goOn_requests (clients : Clients E L) (host : Host (Watched E) L) (call : Call)
    (behaviour : Behaviour (Except Cause Json.Members)) :
    ∃ closings, (call.goOn clients.watched host behaviour).1.events.requests =
        host.events.requests ++ closings ∧
      ∀ q ∈ closings, ∃ id, q.2 = .closed id := by
  have hprogress := goOn_progress clients.watched host call behaviour
  rcases hgo : call.goOn clients.watched host behaviour with ⟨after, progress⟩
  rw [hgo] at hprogress
  have hkept (h : after.events = host.events) : ∃ closings,
      after.events.requests = host.events.requests ++ closings ∧
        ∀ q ∈ closings, ∃ id, q.2 = .closed id :=
    ⟨[], by rw [h, List.append_nil], nofun⟩
  cases hprogress with
  | waits same => exact hkept (congrArg Prod.fst same.leases)
  | orphaned leases => exact hkept (congrArg Prod.fst leases)
  | closed leases =>
    refine ⟨[(host.events.caller, .closed call.event.id)], ?_, ?_⟩
    · exact congrArg Watched.requests (congrArg Prod.fst leases)
    · intro q hq
      rw [List.mem_singleton.mp hq]
      exact ⟨_, rfl⟩

namespace Job

/-- To conclude a call is to count it, to report it, and to let others in. -/
lemma ofCall_keeps {α : Type} {f : Host E L → α} (hcount : ∀ host key, f (host.count key) = f host)
    (hnote : ∀ host record, f (host.note record) = f host)
    (hserving : ∀ (host : Host E L) serving, f { host with serving } = f host)
    (server : Server) (host : Host E L) (number : Nat) (origin : Origin) (deadline : Option Nat)
    (progress : CallProgress) :
    f (ofCall server host number origin deadline progress).1 = f host := by
  have hconclude (outcome : CallOutcome) : f (server.service.conclude host outcome) = f host := by
    unfold ProcessorService.conclude ProcessorService.observe
    split
    · split
      · exact (hcount _ _).trans (hcount _ _)
      · exact (hnote _ _).trans ((hcount _ _).trans (hcount _ _))
    · rfl
  have hrelease (after : Host E L) : f (release origin after) = f after := by
    cases origin with
    | runner => rfl
    | service => rfl
    | network requestId headOnly => exact hserving _ _
  cases progress with
  | waits call => rfl
  | ended session outcome =>
    have hserved : f (release origin (if origin.isServed then server.service.conclude host outcome
        else host)) = f host := by
      rw [hrelease]
      split
      · exact hconclude outcome
      · rfl
    cases outcome with
    | answered result => exact hserved
    | panicked message => exact hserved

end Job

namespace ProcessorRunner

variable {clients : Clients E L} {host : Host (Watched E) L}

/-- A call that begins asks the events client to open its event, and then the processor to work on
it if there is one. -/
lemma beginCall_asks (clients : Clients E L) (runner : ProcessorRunner) (host : Host (Watched E) L)
    (number : Nat) (request : ProcessRequest) :
    (∃ closings, (runner.beginCall clients.watched host number true request).1.events.requests =
        host.events.requests ++ (host.events.caller, .opened request.eventId
          (clients.events.openEvent host.events.inner request.eventId).2) :: closings ∧
      ∀ q ∈ closings, ∃ id, q.2 = .closed id) ∧
    (runner.beginCall clients.watched host number true request).1.invocations = host.invocations +
      if (clients.events.openEvent host.events.inner request.eventId).2.isOk then 1 else 0 := by
  have hopen : clients.watched.events.openEvent host.events request.eventId =
      ({ host.events with
          inner := (clients.events.openEvent host.events.inner request.eventId).1
          requests := host.events.requests ++ [(host.events.caller, .opened request.eventId
            (clients.events.openEvent host.events.inner request.eventId).2)] },
        (clients.events.openEvent host.events.inner request.eventId).2) := rfl
  unfold beginCall
  rw [hopen]
  cases hresult : (clients.events.openEvent host.events.inner request.eventId).2 with
  | error e => exact ⟨⟨[], rfl, nofun⟩, rfl⟩
  | ok event =>
    refine ⟨?_, Host.invocations_untouched.goOn clients.watched _ _ _⟩
    obtain ⟨closings, hrequests, hclosed⟩ := Call.goOn_requests clients _
      (runner.prepare _ number true event)
      (runner.processor.work runner.binding event request.params)
    refine ⟨closings, hrequests.trans ?_, hclosed⟩
    exact List.append_assoc _ _ _

end ProcessorRunner

namespace Server

variable {server : Server} {segment : String} {r : Http.Request}

/-- What a request asked of the events client and of the processor, to judge by what it left. -/
structure Consults (server : Server) (segment : String) (r : Http.Request) (clients : Clients E L)
    (host after : Host (Watched E) L) : Prop where
  asks_iff : after.events.requests ≠ host.events.requests ↔
    server.HasTime ∧ ∃ request, server.Admits host.serving.state segment r request
  /-- The event is opened once, and at most closed after that. -/
  asks : server.HasTime → ∀ request, server.Admits host.serving.state segment r request →
    ∃ closings, after.events.requests = host.events.requests ++ (host.events.caller,
        .opened request.eventId
          (clients.events.openEvent host.events.inner request.eventId).2) :: closings ∧
      ∀ q ∈ closings, ∃ id, q.2 = .closed id
  works_iff : after.invocations ≠ host.invocations ↔
    server.HasTime ∧ ∃ request, server.Admits host.serving.state segment r request ∧
      ∃ event, (clients.events.openEvent host.events.inner request.eventId).2 = .ok event
  works_once : after.invocations ≤ host.invocations + 1

/-- What becomes of a process call, whatever the state of the host. -/
structure Gates (server : Server) (segment : String) (r : Http.Request) : Prop where
  late : ¬ server.HasTime → ∀ (E L : Type) (clients : Clients E L) host number freshId,
    Job.arrive clients server host number freshId r = (host, .answered (.responded (.bare 408)))
  /-- Nothing has happened when a call is denied. -/
  denied : server.HasTime → ∀ (E L : Type) (clients : Clients E L) (host : Host E L) response,
    server.Denies host.serving.state segment r response → ∀ number freshId,
      Job.arrive clients server host number freshId r = (host, .answered (.responded
        { response with requestId := some (r.name freshId) }))
  admitted : server.HasTime → ∀ (E L : Type) (clients : Clients E L) (host : Host E L) request,
    server.Admits host.serving.state segment r request → ∀ number freshId,
      Job.arrive clients server host number freshId r =
        Job.call clients server host number (.network (r.name freshId) false)
          (some (host.now + server.config.requestTimeout.nanos)) server.service.runner request
  decided : ∀ state, (∃ request, server.Admits state segment r request) ↔
    ¬ ∃ response, server.Denies state segment r response
  consults : ∀ runner, server.service.runner = .hosted runner →
    ∀ (E L : Type) (clients : Clients E L) (host : Host (Watched E) L) number freshId,
      server.Consults segment r clients host
        (Job.arrive clients.watched server host number freshId r).1

variable {clients : Clients E L} {host : Host E L} {number : Nat} {freshId : String}

lemma arrive_denied (hasks : r.Asks segment) (htime : server.HasTime) {response : Http.Response}
    (h : server.Denies host.serving.state segment r response) :
    Job.arrive clients server host number freshId r = (host, .answered (.responded
      { response with requestId := some (r.name freshId) })) := by
  have hhead : decide (r.method = "HEAD") = false := by
    rw [hasks.method]
    rfl
  unfold Job.arrive
  rw [if_neg htime, receive_asked hasks, hhead]
  unfold receiveAt
  dsimp only
  rw [h.letIn]
  rfl

lemma arrive_admitted (hasks : r.Asks segment) (htime : server.HasTime) {request : ProcessRequest}
    (h : server.Admits host.serving.state segment r request) :
    Job.arrive clients server host number freshId r =
      Job.call clients server host number (.network (r.name freshId) false)
        (some (host.now + server.config.requestTimeout.nanos)) server.service.runner request := by
  have hhead : decide (r.method = "HEAD") = false := by
    rw [hasks.method]
    rfl
  unfold Job.arrive
  rw [if_neg htime, receive_asked hasks, hhead,
    receiveAt_process.mpr ⟨h.identifier, h.body, h.ready⟩]
  rfl

lemma Admits.eq {state : ServingState} {request request' : ProcessRequest}
    (h : server.Admits state segment r request) (h' : server.Admits state segment r request') :
    request' = request :=
  Except.ok.inj (h'.body.symm.trans h.body)

/-- Nothing is asked where nothing happens. -/
lemma Consults.of_refused {host : Host (Watched E) L}
    (h : ¬(server.HasTime ∧ ∃ request, server.Admits host.serving.state segment r request)) :
    server.Consults segment r clients host host where
  asks_iff := iff_of_false (fun hne => hne rfl) h
  asks htime request hadmits := absurd ⟨htime, request, hadmits⟩ h
  works_iff := iff_of_false (fun hne => hne rfl)
    fun ⟨htime, request, hadmits, _⟩ => h ⟨htime, request, hadmits⟩
  works_once := Nat.le_succ _

lemma consults_admitted {host : Host (Watched E) L} {runner : ProcessorRunner}
    (hrunner : server.service.runner = .hosted runner) (hasks : r.Asks segment)
    (htime : server.HasTime) {request : ProcessRequest}
    (h : server.Admits host.serving.state segment r request) :
    server.Consults segment r clients host
      (Job.arrive clients.watched server host number freshId r).1 := by
  obtain ⟨⟨closings, hrequests, hclosed⟩, hinvocations⟩ :=
    runner.beginCall_asks clients host.enter number request
  have hkept := Job.ofCall_keeps (f := fun host : Host (Watched E) L =>
      (host.events.requests, host.invocations)) (fun _ _ => rfl) (fun _ _ => rfl) (fun _ _ => rfl)
    server (runner.beginCall clients.watched host.enter number true request).1 number
    (.network (r.name freshId) false) (some (host.now + server.config.requestTimeout.nanos))
    (runner.beginCall clients.watched host.enter number true request).2
  rw [hrequests, hinvocations] at hkept
  rw [arrive_admitted hasks htime h, hrunner]
  obtain ⟨hasked, hworked⟩ := Prod.mk.inj hkept
  refine ⟨iff_of_true (fun hsame => ?_) ⟨htime, request, h⟩, ?_, ?_, ?_⟩
  · have hnone := List.append_right_eq_self.mp (hasked.symm.trans hsame)
    cases hnone
  · intro _ other hother
    rw [h.eq hother]
    exact ⟨closings, hasked, hclosed⟩
  · refine (not_congr (Eq.congr_left hworked)).trans ?_
    constructor
    · intro hmore
      cases hresult : (clients.events.openEvent host.events.inner request.eventId).2 with
      | error e =>
        change ¬ host.invocations + (if (clients.events.openEvent host.events.inner
          request.eventId).2.isOk then 1 else 0) = host.invocations at hmore
        rw [hresult] at hmore
        exact absurd rfl hmore
      | ok event => exact ⟨htime, request, h, event, hresult⟩
    · rintro ⟨-, other, hother, event, hevent⟩
      rw [h.eq hother] at hevent
      change ¬ host.invocations + (if (clients.events.openEvent host.events.inner
        request.eventId).2.isOk then 1 else 0) = host.invocations
      rw [hevent]
      exact Nat.succ_ne_self _
  · refine hworked.trans_le ?_
    split
    · exact le_refl _
    · exact Nat.le_succ _

/-- A process call has an effect only if it has what it must, and it is answered by the first
thing that it lacks. -/
theorem process_calls_gated (server : Server) (hasks : r.Asks segment) :
    server.Gates segment r where
  late htime E L clients host number freshId := Job.arrive_without_time (not_not.mp htime)
  denied htime E L clients host response h number freshId := arrive_denied hasks htime h
  admitted htime E L clients host request h number freshId := arrive_admitted hasks htime h
  decided state := by
    constructor
    · rintro ⟨request, hadmits⟩ ⟨response, hdenies⟩
      exact hdenies.not_admits hadmits
    · intro hnot
      exact (server.admits_or_denies state segment r).resolve_right hnot
  consults runner hrunner E L clients host number freshId := by
    by_cases htime : server.HasTime
    · rcases server.admits_or_denies host.serving.state segment r with
        ⟨request, hadmits⟩ | ⟨response, hdenies⟩
      · exact consults_admitted hrunner hasks htime hadmits
      · rw [arrive_denied hasks htime hdenies]
        exact .of_refused fun ⟨_, _, hadmits⟩ => hdenies.not_admits hadmits
    · rw [Job.arrive_without_time (not_not.mp htime)]
      exact .of_refused fun ⟨h, _⟩ => htime h

/-- A host that has just been made ready, whose events client is watched. -/
def attentive : Host (Watched Unit) Lifecycle :=
  { Host.fresh ⟨(), 0, []⟩ .empty resting.timing with serving := Serving.initial.setReady }

lemma processCall_asks : processCall.Asks "counter" :=
  ⟨rfl, by decide, by decide⟩

lemma counting_admits : ∃ request, counting.Admits .ready "counter" processCall request := by
  have hfits := counting_fits
  unfold Fits at hfits
  cases hin : counting.letIn (resting.withServing ⟨.ready, 0⟩) "counter" processCall with
  | error response =>
    rw [hin] at hfits
    cases hfits
  | ok request =>
    obtain ⟨hsegment, hbody, hready⟩ := letIn_eq_ok.mp hin
    exact ⟨request, hsegment, hbody, hready⟩

/-- A call for the processor that counts words is let in when the server is ready, and has no
effect when it drains. -/
theorem counting_gated : processCall.Asks "counter" ∧
    (Job.arrive looseClients.watched counting attentive 1 "one" processCall).1.invocations ≠
      attentive.invocations ∧
    Job.arrive looseClients.watched counting (attentive.withServing ⟨.draining, 3⟩) 1 "one"
        processCall =
      (attentive.withServing ⟨.draining, 3⟩, .answered (.responded
        { ApiError.unavailable.response with requestId := some "one" })) := by
  have hgates := process_calls_gated counting processCall_asks
  obtain ⟨request, hadmits⟩ := counting_admits
  have htime : counting.HasTime := by
    unfold HasTime
    decide
  refine ⟨processCall_asks, ?_, ?_⟩
  · refine (hgates.consults _ rfl _ _ looseClients attentive 1 "one").works_iff.mpr ?_
    exact ⟨htime, request, hadmits, _, rfl⟩
  · have hname : processCall.name "one" = "one" := by decide +kernel
    have hdenied := hgates.denied htime _ _ looseClients.watched
      (attentive.withServing ⟨.draining, 3⟩) _
      (.state hadmits.identifier hadmits.body (by decide)) 1 "one"
    rw [hname] at hdenied
    exact hdenied

/-- The same server without any time for requests. -/
def hurried : Server := { counting with config := ⟨.zero⟩ }

/-- A call that has all it must does not come to the events client if requests have no time, nor
to the processor if the event is not leased. -/
theorem admitted_not_called :
    ((∃ request, hurried.Admits attentive.serving.state "counter" processCall request) ∧
      (Job.arrive looseClients.watched hurried attentive 1 "one" processCall).1.events.requests =
        [] ∧
      (Job.arrive looseClients.watched hurried attentive 1 "one" processCall).1.invocations = 0) ∧
    (∃ request, counting.Admits attentive.serving.state "counter" processCall request) ∧
      (Job.arrive Builder.leaseless.watched counting attentive 1 "one" processCall).1.invocations =
        0 := by
  obtain ⟨request, hadmits⟩ := counting_admits
  have hlate : Job.arrive looseClients.watched hurried attentive 1 "one" processCall =
      (attentive, .answered (.responded (.bare 408))) := Job.arrive_without_time rfl
  refine ⟨⟨⟨request, hadmits.identifier, hadmits.body, rfl⟩, ?_, ?_⟩, ⟨request, hadmits⟩, ?_⟩
  · rw [hlate]
    rfl
  · rw [hlate]
    rfl
  · decide +kernel

end Server

end ProcessorHost
