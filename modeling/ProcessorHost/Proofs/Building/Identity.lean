import ProcessorHost.Host.Builder
import ProcessorHost.Processor.WordCount
import ProcessorHost.Proofs.Serving.Standing

/-!
# One identity throughout the graph

The identifier of a processor is found once, from four possible origins, and handed to everything
that is made for it. So what the processor reports of its health is what is read of it.
-/

namespace ProcessorHost

/-- A call of the lifecycle that changes what it keeps. -/
inductive LifecycleCall
  | register (registration : Registration)
  | deregister (id : String)
  | setHealth (service : String) (status : Health)
deriving DecidableEq, Repr

namespace LifecycleCall

variable {L : Type}

def apply (client : LifecycleClient L) (l : L) : LifecycleCall → L
  | register registration => (client.register l registration).1
  | deregister id => (client.deregister l id).1
  | setHealth service status => client.setHealth l service status

def run (client : LifecycleClient L) (l : L) (calls : List LifecycleCall) : L :=
  calls.foldl (apply client) l

end LifecycleCall

namespace Server

variable {E L : Type} {server : Server} {segment : String}

lemma readSegment_eq_ok {p : Http.Parameter} {id : String} :
    readSegment p segment = .ok id ↔ Http.segmentText? segment = some id := by
  unfold readSegment
  cases Http.segmentText? segment with
  | none => simp
  | some text => simp

/-- A request that is allowed comes to its resource. -/
lemma receive_of_allowed {clients : Clients E L} {host : Host E L} {r : Http.Request}
    {resource : Http.Resource} (hresource : Http.Resource.ofPath? r.path = some resource)
    (hallowed : resource.methods.contains r.method) :
    server.receive clients host r = server.receiveAt clients host r resource := by
  unfold receive
  rw [hresource]
  dsimp only
  rw [if_pos hallowed]

lemma receiveAt_serviceHealth {clients : Clients E L} {host : Host E L} {r : Http.Request}
    {name : String} (hsegment : Http.segmentText? segment = some name) :
    server.receiveAt clients host r (.serviceHealth segment) =
      .respond (serviceHealth clients host name) := by
  unfold receiveAt
  dsimp only
  rw [readSegment_eq_ok.mpr hsegment]
  rfl

lemma check_eq_ok {id : String} : server.check id = .ok () ↔ id = server.service.identity.id := by
  unfold check
  split
  · rename_i heq
    exact iff_of_true rfl heq.symm
  · rename_i hne
    exact iff_of_false nofun (Ne.symm hne)

lemma letIn_eq_ok {host : Host E L} {r : Http.Request} {request : ProcessRequest} :
    server.letIn host segment r = .ok request ↔
      Http.segmentText? segment = some server.service.identity.id ∧
      Http.acceptBody (readDocument ProcessRequest.decoder) r = .ok request ∧
      host.serving.state = .ready := by
  unfold letIn
  rw [← readSegment_eq_ok]
  cases hsegment : readSegment .id segment with
  | error response => simp [bind, Except.bind]
  | ok id =>
    cases hbody : Http.acceptBody (readDocument ProcessRequest.decoder) r with
    | error rejection => simp [bind, Except.bind, Except.mapError]
    | ok body =>
      cases hcheck : server.check id with
      | error e =>
        have hne : id ≠ server.service.identity.id := fun heq => by
          rw [check_eq_ok.mpr heq] at hcheck
          cases hcheck
        simp [bind, Except.bind, Except.mapError, hcheck, hne]
      | ok checked =>
        obtain rfl := check_eq_ok.mp hcheck
        by_cases hready : host.serving.state = .ready
        · simp [bind, Except.bind, Except.mapError, pure, Except.pure, hcheck, hready]
        · simp [bind, Except.bind, Except.mapError, throw, throwThe, MonadExceptOf.throw, hcheck,
            hready]

variable {clients : Clients E L} {host : Host E L} {r : Http.Request}

lemma receiveAt_process {request : ProcessRequest} :
    server.receiveAt clients host r (.process segment) = .process request ↔
      Http.segmentText? segment = some server.service.identity.id ∧
      Http.acceptBody (readDocument ProcessRequest.decoder) r = .ok request ∧
      host.serving.state = .ready := by
  rw [← letIn_eq_ok]
  unfold receiveAt
  dsimp only
  cases server.letIn host segment r with
  | error response => exact iff_of_false nofun nofun
  | ok admitted =>
    change Reception.process admitted = _ ↔ _
    rw [Reception.process.injEq, Except.ok.injEq]

end Server

namespace Builder

variable {b : Builder} {site : BuildSite} {graph : Graph}

/-- The parts of a graph whose runner and service were not given. -/
structure MakesOwn (b : Builder) (site : BuildSite) (graph : Graph) : Prop where
  hosts : b.overrides.processor.or b.options.processor = some graph.processor
  name : graph.processorName = b.overrides.processorName.getD graph.processor.name
  id : graph.processorId =
    (b.overrides.processorId.or b.options.identifier).getD graph.processorName
  manager : graph.contextManager = b.overrides.contextManager.getD ⟨graph.processorId, .system⟩
  binds : (b.build site).binds = [(graph.processor, graph.contextManager.binding)]
  runner : graph.runner = .hosted ⟨graph.processor, graph.contextManager.binding,
    graph.contextManager, ⟨graph.processorName, graph.processorId⟩⟩
  service : graph.service.runner = graph.runner

lemma complete_eq_ok {lookup : Net.HostLookup} {name id : String} {manager : ContextManager}
    {processor : Processor} {runner : Runner} {service : ProcessorService}
    (h : b.complete lookup name id manager processor runner service = .ok graph) :
    ∃ serverBuilder, graph =
      { processorName := name, processorId := id, contextManager := manager, processor, runner,
        service, serverBuilder } := by
  unfold complete at h
  cases hlistening : b.listening lookup with
  | error e =>
    rw [hlistening] at h
    cases h
  | ok serverBuilder =>
    rw [hlistening] at h
    cases h
    exact ⟨serverBuilder, rfl⟩

/-- However far a build gets, it has bound the processor to the context manager. -/
lemma binds_build (site : BuildSite) (hservice : b.overrides.service = none)
    {processor : Processor}
    (hprocessor : b.overrides.processor.or b.options.processor = some processor) :
    (b.build site).binds = [(processor, (b.overrides.contextManager.getD
      ⟨(b.overrides.processorId.or b.options.identifier).getD
        (b.overrides.processorName.getD processor.name), .system⟩).binding)] := by
  unfold build
  rw [hprocessor, hservice]
  dsimp only
  split
  · rfl
  · split
    · rfl
    · split
      · rfl
      · split
        · rfl
        · rfl

lemma makesOwn (hrunner : b.overrides.runner = none) (hservice : b.overrides.service = none)
    (hbuilt : (b.build site).outcome = .built graph) : b.MakesOwn site graph := by
  cases hprocessor : b.overrides.processor.or b.options.processor with
  | none =>
    unfold build at hbuilt
    rw [hprocessor] at hbuilt
    cases hbuilt
  | some processor =>
    have hbinds := binds_build site hservice hprocessor
    unfold build at hbuilt
    rw [hprocessor, hrunner, hservice] at hbuilt
    dsimp only at hbuilt
    split at hbuilt
    · cases hbuilt
    · split at hbuilt
      · cases hbuilt
      · split at hbuilt
        · cases hbuilt
        · split at hbuilt
          · rename_i hcomplete
            cases hbuilt
            obtain ⟨serverBuilder, rfl⟩ := complete_eq_ok hcomplete
            exact ⟨hprocessor, rfl, rfl, rfl, hbinds, rfl, rfl⟩
          · cases hbuilt

namespace MakesOwn

variable (h : b.MakesOwn site graph)
include h

lemma runner_identity : graph.runner.identity = ⟨graph.processorName, graph.processorId⟩ := by
  rw [h.runner]
  rfl

lemma service_identity :
    graph.server.service.identity = ⟨graph.processorName, graph.processorId⟩ := by
  change graph.service.runner.identity = _
  rw [h.service, h.runner_identity]

lemma service_id : graph.server.service.identity.id = graph.processorId :=
  congrArg ProcessorIdentity.id h.service_identity

end MakesOwn

end Builder

end ProcessorHost
