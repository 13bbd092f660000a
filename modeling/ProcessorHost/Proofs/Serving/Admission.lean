import Mathlib.Data.List.Infix
import Mathlib.Tactic.Common
import ProcessorHost.Host.Serve
import ProcessorHost.Processor.WordCount

/-!
# Letting process calls in

A process call is let in only while the server is ready. Whoever holds the serving state may set
it to ready, draining or stopped at any time, and the last call decides. So a server that was
shut down refuses all calls from then on exactly if nobody makes it ready again, and its state
never moves backwards exactly if the calls come in the order of the states.
-/

namespace ProcessorHost

variable {E L : Type}

namespace ServingState

/-- The place of a state in the order starting, ready, draining, stopped. -/
def rank : ServingState → Nat
  | starting => 0
  | ready => 1
  | draining => 2
  | stopped => 3

end ServingState

/-- A call that sets the serving state. -/
inductive ServingCall
  | setReady
  | triggerShutdown
  | setStopped
deriving DecidableEq, Repr

namespace ServingCall

def apply : ServingCall → Serving → Serving
  | setReady => Serving.setReady
  | triggerShutdown => Serving.triggerShutdown
  | setStopped => Serving.setStopped

/-- The state that a call sets. -/
def state : ServingCall → ServingState
  | setReady => .ready
  | triggerShutdown => .draining
  | setStopped => .stopped

lemma state_apply (c : ServingCall) (s : Serving) : (c.apply s).state = c.state := by
  cases c with
  | _ => rfl

lemma state_eq_ready {c : ServingCall} : c.state = .ready ↔ c = .setReady := by
  cases c with
  | _ => simp [state]

end ServingCall

namespace Serving

def after (s : Serving) (calls : List ServingCall) : Serving := calls.foldl (fun s c => c.apply s) s

lemma state_after_concat (s : Serving) (calls : List ServingCall) (c : ServingCall) :
    (s.after (calls ++ [c])).state = c.state := by
  unfold after
  rw [List.foldl_append]
  exact c.state_apply _

/-- No call moves the state backwards. -/
def Advances (s : Serving) (calls : List ServingCall) : Prop :=
  ∀ before c, before ++ [c] <+: calls →
    (s.after before).state.rank ≤ (s.after (before ++ [c])).state.rank

lemma advances_cons (s : Serving) (c : ServingCall) (rest : List ServingCall) :
    s.Advances (c :: rest) ↔ s.state.rank ≤ c.state.rank ∧ (c.apply s).Advances rest := by
  constructor
  · intro h
    refine ⟨?_, ?_⟩
    · have hfirst := h [] c ⟨rest, rfl⟩
      rw [state_after_concat] at hfirst
      exact hfirst
    · intro before d hinitial
      exact h (c :: before) d ((List.prefix_cons_inj c).mpr hinitial)
  · rintro ⟨hfirst, hrest⟩ before d hinitial
    cases before with
    | nil =>
      obtain ⟨rfl, -⟩ := List.cons_prefix_cons.mp hinitial
      rw [state_after_concat]
      exact hfirst
    | cons first before =>
      obtain ⟨rfl, hbefore⟩ := List.cons_prefix_cons.mp hinitial
      exact hrest before d hbefore

lemma advances_iff (s : Serving) (calls : List ServingCall) :
    s.Advances calls ↔ (∀ c ∈ calls, s.state.rank ≤ c.state.rank) ∧
      calls.Pairwise fun c d => c.state.rank ≤ d.state.rank := by
  induction calls generalizing s with
  | nil => simp [Advances]
  | cons c rest ih =>
    rw [advances_cons, ih, List.pairwise_cons, c.state_apply]
    constructor
    · rintro ⟨hfirst, hlater, hrest⟩
      refine ⟨?_, hlater, hrest⟩
      intro d hd
      rcases List.mem_cons.mp hd with rfl | hd
      · exact hfirst
      · exact hfirst.trans (hlater d hd)
    · rintro ⟨hall, hlater, hrest⟩
      exact ⟨hall c List.mem_cons_self, hlater, hrest⟩

/-- Once the server has been shut down it is not ready. -/
def StaysShut (s : Serving) (calls : List ServingCall) : Prop :=
  ∀ before, before <+: calls → (∃ c ∈ before, c ≠ .setReady) → (s.after before).state ≠ .ready

lemma staysShut_iff (s : Serving) (calls : List ServingCall) :
    s.StaysShut calls ↔ calls.Pairwise fun c d => c = .setReady ∨ d ≠ .setReady := by
  induction calls using List.reverseRecOn with
  | nil => simp [StaysShut]
  | append_singleton calls d ih =>
    have hlast : (∃ c ∈ calls ++ [d], c ≠ .setReady) → (s.after (calls ++ [d])).state ≠ .ready ↔
        ∀ c ∈ calls, c = .setReady ∨ d ≠ .setReady := by
      rw [state_after_concat, ne_eq, ServingCall.state_eq_ready]
      constructor
      · intro h c hc
        by_cases hready : c = .setReady
        · exact .inl hready
        · exact .inr (h ⟨c, List.mem_append_left _ hc, hready⟩)
      · rintro h ⟨c, hc, hshut⟩
        rcases List.mem_append.mp hc with hc | hc
        · exact (h c hc).resolve_left hshut
        · rwa [← List.mem_singleton.mp hc]
    rw [List.pairwise_append, ← ih]
    constructor
    · intro h
      refine ⟨?_, List.pairwise_singleton _ _, ?_⟩
      · intro before hinitial
        exact h before (hinitial.trans (List.prefix_append _ _))
      · intro c hc e he
        rw [List.mem_singleton.mp he]
        exact hlast.mp (h _ (List.prefix_refl _)) c hc
    · rintro ⟨hcalls, -, hpair⟩ before hinitial
      rcases List.prefix_concat_iff.mp hinitial with rfl | hinitial
      · exact hlast.mpr fun c hc => hpair c hc d (List.mem_singleton_self d)
      · exact hcalls before hinitial

end Serving

namespace Host

def withServing (host : Host E L) (serving : Serving) : Host E L := { host with serving }

end Host

namespace Server

variable {server : Server} {host : Host E L}

/-- Whether a process call is let in by a server that is ready. -/
def Fits (server : Server) (host : Host E L) (segment : String) (r : Http.Request) : Prop :=
  (server.letIn (host.withServing ⟨.ready, 0⟩) segment r).isOk

lemma Fits.of_host {E' L' : Type} {segment : String} {r : Http.Request}
    (h : server.Fits host segment r) (host' : Host E' L') : server.Fits host' segment r := h

/-- The state is looked at last, and nothing else of the host is. -/
lemma letIn_withServing (server : Server) (host : Host E L) (serving : Serving) (segment : String)
    (r : Http.Request) :
    server.letIn (host.withServing serving) segment r =
      (server.letIn (host.withServing ⟨.ready, 0⟩) segment r).bind fun request =>
        if serving.state = .ready then .ok request else .error ApiError.unavailable.response := by
  unfold letIn Host.withServing
  cases readSegment .id segment with
  | error response => rfl
  | ok id =>
    cases Http.acceptBody (readDocument ProcessRequest.decoder) r with
    | error rejection => simp [Except.mapError, bind, Except.bind]
    | ok request =>
      cases hcheck : server.check id with
      | error e => simp [hcheck, Except.mapError, bind, Except.bind]
      | ok checked =>
        by_cases hready : serving.state = .ready
        · simp [hcheck, hready, Except.mapError, bind, Except.bind, pure, Except.pure]
        · simp [hcheck, hready, Except.mapError, bind, Except.bind, pure, Except.pure, throw,
            throwThe, MonadExceptOf.throw]

/-- Every process call is refused, and one that fits because of the state. -/
def Refuses (server : Server) (host : Host E L) : Prop :=
  ∀ segment r, ∃ response, server.letIn host segment r = .error response ∧
    (server.Fits host segment r → response = ApiError.unavailable.response)

lemma refuses_of_not_ready (server : Server) (h : host.serving.state ≠ .ready) :
    server.Refuses host := by
  intro segment r
  have hin := server.letIn_withServing host host.serving segment r
  change server.letIn host segment r = _ at hin
  unfold Fits
  cases hready : server.letIn (host.withServing ⟨.ready, 0⟩) segment r with
  | error response =>
    rw [hready] at hin
    exact ⟨response, hin, fun hfit => by cases hfit⟩
  | ok request =>
    rw [hready] at hin
    refine ⟨ApiError.unavailable.response, ?_, fun _ => rfl⟩
    simpa [Except.bind, h] using hin

lemma not_refuses_of_ready {segment : String} {r : Http.Request} (hfit : server.Fits host segment r)
    (h : host.serving.state = .ready) : ¬ server.Refuses host := by
  intro hrefuses
  obtain ⟨response, hin, -⟩ := hrefuses segment r
  have hwith := server.letIn_withServing host host.serving segment r
  change server.letIn host segment r = _ at hwith
  rw [hin] at hwith
  unfold Fits at hfit
  cases hready : server.letIn (host.withServing ⟨.ready, 0⟩) segment r with
  | error response =>
    rw [hready] at hfit
    cases hfit
  | ok request =>
    rw [hready] at hwith
    simp [Except.bind, h] at hwith

lemma ready_of_letIn {segment : String} {r : Http.Request} {request : ProcessRequest}
    (h : server.letIn host segment r = .ok request) : host.serving.state = .ready := by
  by_contra hready
  obtain ⟨response, hrefused, -⟩ := server.refuses_of_not_ready hready segment r
  rw [h] at hrefused
  cases hrefused

lemma eq_ok_of_ofExcept {x : Except Http.Response Reception} {request : ProcessRequest}
    (h : Reception.ofExcept x = .process request) : x = .ok (.process request) := by
  cases x with
  | error response => cases h
  | ok reception => exact congrArg Except.ok h

/-- Only a server that is ready makes a process call of a request. -/
lemma ready_of_receive {clients : Clients E L} {r : Http.Request} {request : ProcessRequest}
    (h : server.receive clients host r = .process request) : host.serving.state = .ready := by
  unfold receive at h
  split at h
  · cases h
  · rename_i resource hresource
    split at h
    · cases resource with
      | process segment =>
        have hmap : (server.letIn host segment r).map Reception.process = .ok (.process request) :=
          eq_ok_of_ofExcept h
        cases hin : server.letIn host segment r with
        | error response =>
          rw [hin] at hmap
          cases hmap
        | ok request => exact ready_of_letIn hin
      | info segment =>
        have hinfo := eq_ok_of_ofExcept h
        cases hsegment : readSegment .id segment with
        | error response => simp [hsegment, bind, Except.bind] at hinfo
        | ok id =>
          cases hcheck : server.check id with
          | error e => simp [hsegment, hcheck, Except.mapError, bind, Except.bind] at hinfo
          | ok checked =>
            simp [hsegment, hcheck, Except.mapError, bind, Except.bind, pure, Except.pure] at hinfo
      | stats segment =>
        have hstats := eq_ok_of_ofExcept h
        cases hsegment : readSegment .id segment with
        | error response => simp [hsegment, bind, Except.bind] at hstats
        | ok id =>
          cases hcheck : server.check id with
          | error e => simp [hsegment, hcheck, Except.mapError, bind, Except.bind] at hstats
          | ok checked =>
            simp [hsegment, hcheck, Except.mapError, bind, Except.bind, pure, Except.pure] at hstats
      | serviceHealth segment =>
        have hhealth := eq_ok_of_ofExcept h
        cases hsegment : readSegment .service segment with
        | error response => simp [hsegment, bind, Except.bind] at hhealth
        | ok service => simp [hsegment, bind, Except.bind, pure, Except.pure] at hhealth
      | health => cases h
      | live => cases h
      | ready => cases h
    · cases h

/-- For all calls that set the state of a server: the state never moves backwards exactly if they
come in the order of the states, and process calls are refused at every moment after the first
that shuts the server down exactly if none after it makes the server ready. -/
theorem shut_for_good_iff {server : Server} {host : Host E L} {segment : String} {r : Http.Request}
    (hfit : server.Fits host segment r) (calls : List ServingCall) :
    (Serving.initial.Advances calls ↔
      calls.Pairwise fun c d => c.state.rank ≤ d.state.rank) ∧
    ((∀ before, before <+: calls → (∃ c ∈ before, c ≠ .setReady) →
        server.Refuses (host.withServing (Serving.initial.after before))) ↔
      calls.Pairwise fun c d => c = .setReady ∨ d ≠ .setReady) := by
  constructor
  · rw [Serving.advances_iff]
    constructor
    · intro h
      exact h.2
    · intro h
      exact ⟨fun c _ => Nat.zero_le _, h⟩
  · rw [← Serving.staysShut_iff Serving.initial]
    constructor
    · intro h before hinitial hshut hready
      exact not_refuses_of_ready (hfit.of_host _) hready (h before hinitial hshut)
    · intro h before hinitial hshut
      exact server.refuses_of_not_ready (h before hinitial hshut)

/-- A server of the processor that counts words. -/
def counting : Server :=
  .build ⟨.v4 ⟨127, 0, 0, 1⟩, 8080, 0⟩ .standard
    ⟨.hosted ⟨WordCount.processor, ⟨"counter"⟩, ⟨"counter", .manual⟩, ⟨"word-count", "counter"⟩⟩,
      "one", true⟩ true

/-- A host at rest. -/
def resting : Host Unit Lifecycle :=
  .fresh () .empty ⟨⟨1, none, .empty, .created, [], [], [], false, false, 0⟩, 0, true⟩

/-- A request to process the event `e`, without parameters. -/
def processCall : Http.Request where
  method := "POST"
  target := "/v1/processors/counter/process"
  headers := [("content-type", "application/json")]
  body := [123, 34, 101, 118, 101, 110, 116, 95, 105, 100, 34, 58, 34, 101, 34, 125]

lemma counting_fits : counting.Fits resting "counter" processCall := by
  unfold Fits
  decide +kernel

/-- The calls of a server that serves by itself. -/
theorem counting_shut_for_good :
    Serving.initial.Advances [.setReady, .triggerShutdown, .triggerShutdown, .setStopped] ∧
      counting.Refuses (resting.withServing
        (Serving.initial.after [.setReady, .triggerShutdown, .triggerShutdown, .setStopped])) := by
  obtain ⟨hadvances, hrefuses⟩ := shut_for_good_iff counting_fits
    [.setReady, .triggerShutdown, .triggerShutdown, .setStopped]
  exact ⟨hadvances.mpr (by decide),
    hrefuses.mpr (by decide) _ (List.prefix_refl _) (by decide)⟩

/-- Clients of a host whose events are not kept. -/
def looseClients : Clients Unit Lifecycle where
  events := ⟨fun e id => (e, .ok (.bare id)), fun e _ => (e, .ok ())⟩
  lifecycle := Lifecycle.client

/-- A shutdown that is triggered before the server begins to serve is lost: the server is ready
once its services have started. -/
theorem not_refuses_early_shutdown :
    ¬ counting.Refuses (resting.withServing (Serving.initial.after [.triggerShutdown, .setReady])) ∧
    ¬ counting.Refuses ((Executor.setServing ⟨resting, [], [], []⟩ .triggerShutdown).beginServing
        looseClients counting 0 counting.address).1.host := by
  constructor
  · exact not_refuses_of_ready (counting_fits.of_host _) rfl
  · have hready : ((Executor.setServing ⟨resting, [], [], []⟩ .triggerShutdown).beginServing
        looseClients counting 0 counting.address).1.host.serving.state = .ready := by
      decide +kernel
    exact not_refuses_of_ready (counting_fits.of_host _) hready

end Server

end ProcessorHost
