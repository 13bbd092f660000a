import ProcessorHost.Host.Job
import ProcessorHost.Proofs.Building.Identity
import ProcessorHost.Proofs.Http.Segments
import ProcessorHost.Proofs.Serving.Admission

/-!
# Reaching the hosted processor

An identifier may be any text. Written as a segment of a path it leads to the processor that is
hosted under it, which is asked to work while the server is ready. Only where there is no time at
all for a request, or no lease on its event, the processor is not asked.
-/

namespace ProcessorHost

variable {E L : Type} {clients : Clients E L} {host : Host E L} {r : Http.Request}
  {segment : String} {request : ProcessRequest}

namespace Http.Request

/-- A process call is posted to a segment, with a body that is accepted. -/
structure Posts (r : Request) (segment : String) (request : ProcessRequest) : Prop where
  method : r.method = "POST"
  target : r.target = "/v1/processors/" ++ segment ++ "/process"
  body : acceptBody (readDocument ProcessRequest.decoder) r = .ok request

lemma Posts.resource {bytes : List UInt8} (h : r.Posts segment request)
    (hsegment : Encodes bytes (Json.bytesOf segment)) :
    Resource.ofPath? r.path = some (.process segment) := by
  have hslash : '/' ∉ segment.toList := hsegment.not_mem (b := 47) (by decide) (by decide)
  have hpath : r.path = r.target :=
    path_eq_target_of_encodes h.target hsegment (by decide) (by decide)
  rw [hpath, h.target, Resource.ofPath?_process hslash]

end Http.Request

lemma Server.receive_posted {server : Server} (hposts : r.Posts segment request)
    (hsegment : Http.Encodes (Json.bytesOf server.service.identity.id) (Json.bytesOf segment))
    (hready : host.serving.state = .ready) : server.receive clients host r = .process request := by
  have hmethod : (Http.Resource.process segment).methods.contains r.method := by
    rw [hposts.method]
    rfl
  rw [receive_of_allowed (hposts.resource hsegment) hmethod]
  exact receiveAt_process.mpr ⟨Http.segmentText?_eq_some hsegment, hposts.body, hready⟩

/-- Has the processor work on an event that was leased for a request over the network. -/
def ProcessorRunner.invoke (clients : Clients E L) (runner : ProcessorRunner) (host : Host E L)
    (number : Nat) (request : ProcessRequest) (event : Event) : Host E L × CallProgress :=
  let host := { host with invocations := host.invocations + 1 }
  (runner.prepare host number true event).goOn clients host
    (runner.processor.work runner.binding event request.params)

namespace Job

variable {server : Server} {number : Nat} {freshId : String}

lemma arrive_without_time (htimeout : server.config.requestTimeout.nanos = 0) :
    arrive clients server host number freshId r = (host, .answered (.responded (.bare 408))) := by
  unfold arrive
  rw [if_pos htimeout]
  rfl

lemma ofCall_ne_late (after : Host E L) (requestId : String) (headOnly : Bool)
    (deadline : Option Nat) (progress : CallProgress) :
    (ofCall server after number (.network requestId headOnly) deadline progress).2 ≠
      .answered (.responded (.bare 408)) := by
  have hsent (response : Http.Response) :
      (Origin.network requestId headOnly).send response ≠ .responded (.bare 408) := by
    unfold Origin.send Http.Response.bare
    cases headOnly with
    | true => simp [Http.Response.headOnly]
    | false => simp
  cases progress with
  | waits call => exact nofun
  | ended session outcome =>
    cases outcome with
    | panicked message => exact nofun
    | answered result =>
      intro hanswer
      cases result with
      | ok response => exact hsent _ (JobProgress.answered.inj hanswer)
      | error e => exact hsent _ (JobProgress.answered.inj hanswer)

lemma arrive_invokes {runner : ProcessorRunner} {events : E} {event : Event}
    (hrunner : server.service.runner = .hosted runner)
    (htimeout : server.config.requestTimeout.nanos ≠ 0)
    (hreceive : server.receive clients host r = .process request)
    (hopen : clients.events.openEvent host.events request.eventId = (events, .ok event)) :
    arrive clients server host number freshId r =
      let (after, progress) :=
        runner.invoke clients { host.enter with events } number request event
      ofCall server after number
        (.network ((r.header? "x-request-id").getD freshId) (r.method = "HEAD"))
        (some (host.now + server.config.requestTimeout.nanos)) progress := by
  have hentered : clients.events.openEvent host.enter.events request.eventId =
      (events, .ok event) := hopen
  unfold arrive
  rw [if_neg htimeout, hreceive, hrunner]
  unfold call Runner.beginCall ProcessorRunner.beginCall
  dsimp only
  rw [hentered]
  rfl

end Job

namespace Graph

/-- The processor of a graph is asked to work for a request when it arrives. -/
def Invokes (graph : Graph) (clients : Clients E L) (host : Host E L) (r : Http.Request)
    (request : ProcessRequest) : Prop :=
  ∃ runner events event, graph.runner = .hosted runner ∧ runner.processor = graph.processor ∧
    clients.events.openEvent host.events request.eventId = (events, .ok event) ∧
    ∀ number freshId, Job.arrive clients graph.server host number freshId r =
      let (after, progress) := runner.invoke clients { host.enter with events } number request event
      Job.ofCall graph.server after number
        (.network ((r.header? "x-request-id").getD freshId) (r.method = "HEAD"))
        (some (host.now + graph.serverBuilder.config.requestTimeout.nanos)) progress

variable {graph : Graph}

lemma not_invokes_without_time (htimeout : graph.serverBuilder.config.requestTimeout.nanos = 0) :
    ¬ graph.Invokes clients host r request := by
  rintro ⟨runner, events, event, -, -, -, harrives⟩
  have harrive := harrives 0 ""
  rw [Job.arrive_without_time htimeout] at harrive
  exact Job.ofCall_ne_late _ _ _ _ _ (congrArg Prod.snd harrive).symm

/-- Process calls for the identifier of a graph come to its processor. -/
structure IsReachable (graph : Graph) : Prop where
  /-- There is a segment for the identifier. -/
  encoded : Http.Encodes (Json.bytesOf graph.processorId)
    (Json.bytesOf (Http.encoded graph.processorId))
  /-- A request to it is for the process call, which is what posting is allowed for. -/
  routed : ∀ segment, Http.Encodes (Json.bytesOf graph.processorId) (Json.bytesOf segment) →
    ∀ (r : Http.Request) request, r.Posts segment request →
      Http.Resource.ofPath? r.path = some (.process segment) ∧
      r.method ∈ (Http.Resource.process segment).methods
  checked : ∀ segment, Http.Encodes (Json.bytesOf graph.processorId) (Json.bytesOf segment) →
    Server.readSegment .id segment = .ok graph.processorId ∧
    graph.server.check graph.processorId = .ok ()
  /-- It is let in while the server is ready, and then it has the processor work, if there is
  time for it and a lease on its event. -/
  invoked : ∀ segment, Http.Encodes (Json.bytesOf graph.processorId) (Json.bytesOf segment) →
    ∀ (r : Http.Request) request, r.Posts segment request →
    ∀ (E L : Type) (clients : Clients E L) (host : Host E L), host.serving.state = .ready →
      graph.server.receive clients host r = .process request ∧
      (graph.Invokes clients host r request ↔
        graph.serverBuilder.config.requestTimeout.nanos ≠ 0 ∧
        ∃ events event,
          clients.events.openEvent host.events request.eventId = (events, .ok event))

end Graph

namespace Builder

variable {b : Builder} {site : BuildSite} {graph : Graph}

/-- Whatever the options and the overrides, but for the runner and the service: the processor of
a graph is reached under its identifier. -/
theorem processor_reachable (hrunner : b.overrides.runner = none)
    (hservice : b.overrides.service = none) (hbuilt : (b.build site).outcome = .built graph) :
    graph.IsReachable := by
  have hown := makesOwn hrunner hservice hbuilt
  have hid := hown.service_id
  refine ⟨Http.encodes_encoded _, ?_, ?_, ?_⟩
  · intro segment hsegment r request hposts
    refine ⟨hposts.resource hsegment, ?_⟩
    rw [hposts.method]
    exact List.mem_cons_self
  · intro segment hsegment
    exact ⟨Server.readSegment_eq_ok.mpr (Http.segmentText?_eq_some hsegment),
      Server.check_eq_ok.mpr hid.symm⟩
  · intro segment hsegment r request hposts E L clients host hready
    have hreceive : graph.server.receive clients host r = .process request := by
      rw [← hid] at hsegment
      exact Server.receive_posted hposts hsegment hready
    refine ⟨hreceive, ?_, ?_⟩
    · intro hinvokes
      refine ⟨fun hzero => Graph.not_invokes_without_time hzero hinvokes, ?_⟩
      obtain ⟨runner, events, event, -, -, hopen, -⟩ := hinvokes
      exact ⟨events, event, hopen⟩
    · rintro ⟨htimeout, events, event, hopen⟩
      have hserved : graph.server.service.runner = graph.runner := hown.service
      rw [hown.runner] at hserved
      exact ⟨_, events, event, hown.runner, rfl, hopen, fun number freshId =>
        Job.arrive_invokes hserved htimeout hreceive hopen⟩

/-- A processor whose identifier must be escaped. -/
def oddlyNamed : Builder where
  options := { (HostOptions.standard : HostOptions Processor) with
    processor := some WordCount.processor
    identifier := some "a/b?ü" }
  overrides := default

/-- A site without names of hosts. -/
def nameless : BuildSite := ⟨true, "one", fun _ => .error "unknown"⟩

/-- The same without any time for requests. -/
def timeless : Builder :=
  { oddlyNamed with options := { oddlyNamed.options with network := ⟨.zero⟩ } }

lemma exists_oddlyNamed : ∃ graph, (oddlyNamed.build nameless).outcome = .built graph ∧
    graph.processorId = "a/b?ü" ∧ graph.serverBuilder.config = .standard := ⟨_, rfl, rfl, rfl⟩

lemma exists_timeless : ∃ graph, (timeless.build nameless).outcome = .built graph ∧
    graph.serverBuilder.config = ⟨.zero⟩ := ⟨_, rfl, rfl⟩

/-- A request to process the event `e`, posted to a segment. -/
def posted (segment : String) : Http.Request :=
  { Server.processCall with target := "/v1/processors/" ++ segment ++ "/process" }

lemma exists_posted : ∃ request : ProcessRequest, request.eventId = "e" ∧
    ∀ segment, (posted segment).Posts segment request := by
  have hbody : (Http.acceptBody (readDocument ProcessRequest.decoder) Server.processCall).map
      ProcessRequest.eventId = .ok "e" := by decide +kernel
  cases haccept : Http.acceptBody (readDocument ProcessRequest.decoder) Server.processCall with
  | error rejection =>
    rw [haccept] at hbody
    cases hbody
  | ok request =>
    rw [haccept] at hbody
    exact ⟨request, Except.ok.inj hbody, fun segment => ⟨rfl, rfl, haccept⟩⟩

/-- It is reached with its identifier escaped. -/
theorem oddlyNamed_reachable : ∃ graph, (oddlyNamed.build nameless).outcome = .built graph ∧
    graph.processorId = "a/b?ü" ∧ graph.IsReachable ∧
    ∃ request, graph.Invokes Server.looseClients (Server.resting.withServing ⟨.ready, 0⟩)
      (posted "a%2fb%3f%c3%bc") request := by
  obtain ⟨graph, hbuilt, hid, hconfig⟩ := exists_oddlyNamed
  obtain ⟨request, -, hposts⟩ := exists_posted
  have hreachable := processor_reachable rfl rfl hbuilt
  have hencoded : Http.encoded graph.processorId = "a%2fb%3f%c3%bc" := by
    rw [hid]
    decide
  have hsegment := hreachable.encoded
  rw [hencoded] at hsegment
  have hinvoked := hreachable.invoked _ hsegment _ request (hposts _) Unit Lifecycle
    Server.looseClients (Server.resting.withServing ⟨.ready, 0⟩) rfl
  have htime : graph.serverBuilder.config.requestTimeout.nanos ≠ 0 := by
    rw [hconfig]
    decide
  exact ⟨graph, hbuilt, hid, hreachable, request,
    hinvoked.2.mpr ⟨htime, (), .bare request.eventId, rfl⟩⟩

/-- Clients of a host that leases no events. -/
def leaseless : Clients Unit Lifecycle where
  events := ⟨fun e _ => (e, .error (.of "down")), fun e _ => (e, .ok ())⟩
  lifecycle := Lifecycle.client

/-- A call that is posted to a server that is ready does not come to the processor if requests
have no time, or if the event is not leased. -/
theorem not_invokes_posted : (∃ graph request, (timeless.build nameless).outcome = .built graph ∧
      (posted (Http.encoded graph.processorId)).Posts (Http.encoded graph.processorId) request ∧
      ¬ graph.Invokes Server.looseClients (Server.resting.withServing ⟨.ready, 0⟩)
        (posted (Http.encoded graph.processorId)) request) ∧
    ∃ graph request, (oddlyNamed.build nameless).outcome = .built graph ∧
      (posted (Http.encoded graph.processorId)).Posts (Http.encoded graph.processorId) request ∧
      ¬ graph.Invokes leaseless (Server.resting.withServing ⟨.ready, 0⟩)
        (posted (Http.encoded graph.processorId)) request := by
  obtain ⟨request, -, hposts⟩ := exists_posted
  constructor
  · obtain ⟨graph, hbuilt, hconfig⟩ := exists_timeless
    have htime : graph.serverBuilder.config.requestTimeout.nanos = 0 := by
      rw [hconfig]
      rfl
    exact ⟨graph, request, hbuilt, hposts _, Graph.not_invokes_without_time htime⟩
  · obtain ⟨graph, hbuilt, -, -⟩ := exists_oddlyNamed
    refine ⟨graph, request, hbuilt, hposts _, ?_⟩
    rintro ⟨runner, events, event, -, -, hopen, -⟩
    cases hopen

end Builder

end ProcessorHost
