import Mathlib.Data.List.Perm.Basic
import ProcessorHost.Processor.WordCount
import ProcessorHost.Proofs.Call.CallWorld
import ProcessorHost.Proofs.Call.SampleFlow
import ProcessorHost.Proofs.Call.Timings
import ProcessorHost.Proofs.Timing.Drained
import ProcessorHost.Service.ProcessorService

/-!
# Response timings and summaries

Any number of calls of one service run in any interleaving, and each of them ends in some way: it
answers, panics, or is broken off. Every sample that one of them records is kept in its scope, for
its own response, and handed to the collector of the service, for everybody's summary. The two
agree: a response tells of the samples of its call, and a summary at the end of those of all calls,
in whatever order they were handed over.
-/

namespace ProcessorHost

variable {E L : Type}

/-- A service that puts a hosted processor on the network. -/
structure ProcessorInstance where
  runner : ProcessorRunner
  uniqueServiceId : String
  register : Bool

def ProcessorInstance.service (p : ProcessorInstance) : ProcessorService :=
  ⟨.hosted p.runner, p.uniqueServiceId, p.register⟩

/-- A call that has ended. -/
structure EndedCall where
  number : Nat
  /-- What was recorded in the scope of the call. -/
  samples : List TimingSample
  /-- A call that was broken off has none. -/
  outcome : Option CallOutcome

/-- The calls of a service. -/
structure ServiceWorld (E L : Type) where
  host : Host E L
  waiting : List Call
  ended : List EndedCall

/-- What may happen next. A call goes on with whatever its processor does; to let it act once and
then wait gives the others their turn at any point. -/
inductive ServiceStep (E L : Type)
  | opens (number : Nat) (request : ProcessRequest)
  | goesOn (i : Nat) (behaviour : Behaviour (Except Cause Json.Members))
      (hspares : behaviour.SparesSink)
  | breaksOff (i : Nat)
  /-- The collector's worker moves, or a requester or a shutdown comes to the collector. -/
  | collects (step : CollectorStep) (hquiet : step.IsQuiet)
  /-- Anything else happens to the host, but not to its collector. -/
  | elsewhere (host : Host E L)

namespace ServiceWorld

/-- The samples of all calls so far. -/
def samples (w : ServiceWorld E L) : List TimingSample :=
  w.waiting.flatMap Call.recorded ++ w.ended.flatMap (·.samples)

/-- Takes a call from those that wait. -/
def without (w : ServiceWorld E L) (i : Nat) : ServiceWorld E L :=
  { w with waiting := w.waiting.eraseIdx i }

def adds (w : ServiceWorld E L) (host : Host E L) (call : Call) : ServiceWorld E L :=
  { w with host, waiting := call :: w.waiting }

def ends (w : ServiceWorld E L) (host : Host E L) (call : EndedCall) : ServiceWorld E L :=
  { w with host, ended := call :: w.ended }

/-- The world after one step; what is not possible is no step. -/
def next (clients : Clients E L) (p : ProcessorInstance) (w : ServiceWorld E L) :
    ServiceStep E L → ServiceWorld E L
  | .opens number request =>
    match p.runner.openCall clients w.host number true request with
    | (host, .ok call) => w.adds host call
    | (host, .error e) =>
      let outcome := .answered (.error (.eventsClient e))
      w.ends (p.service.conclude host outcome) ⟨number, [], some outcome⟩
  | .goesOn i behaviour _ =>
    match w.waiting[i]? with
    | none => w
    | some call =>
      match call.goOn clients w.host behaviour with
      | (host, .waits call) => (w.without i).adds host call
      | (host, .ended session outcome) =>
        (w.without i).ends (p.service.conclude host outcome)
          ⟨call.number, (session.map (·.samplesOf 0)).getD [], some outcome⟩
  | .breaksOff i =>
    match w.waiting[i]? with
    | none => w
    | some call =>
      (w.without i).ends (call.breakOff clients w.host).1 ⟨call.number, call.recorded, none⟩
  | .collects step _ => { w with host := ((CollectorHistory.begin w.host).next step).host }
  | .elsewhere host => { w with host := { host with timing := w.host.timing } }

def after (clients : Clients E L) (p : ProcessorInstance) (w : ServiceWorld E L)
    (steps : List (ServiceStep E L)) : ServiceWorld E L := steps.foldl (next clients p) w

/-- No call has begun. -/
def idle (host : Host E L) : ServiceWorld E L := ⟨host, [], []⟩

/-- What a response and a summary tell. -/
structure Agrees (w : ServiceWorld E L) : Prop where
  responses : ∀ call ∈ w.ended, ∀ response, call.outcome = some (.answered (.ok response)) →
    Call.TimingsOf call.samples response.timing
  /-- After the last call, if no sample was dropped and all have been folded, every reply to a new
  request tells of the samples of all calls. -/
  summaries : w.waiting = [] → w.host.timing.dropped = 0 →
    (CollectorHistory.begin w.host).pending = [] →
    TimingSample.Fit (w.ended.flatMap (·.samples)) →
    ∀ steps, (∀ step ∈ steps, step.IsQuiet) →
      ∀ request, request ∉ w.host.timing.worker.state.replies.map Prod.fst → ∀ a,
        ((CollectorHistory.begin w.host).after steps).collector.reply request = .done (.ok a) →
          a.Tells (w.ended.flatMap (·.samples))

/-- At any moment the collector has been handed what the calls have recorded. -/
structure Sound (first : Collector) (w : ServiceWorld E L) : Prop where
  feeding : ∀ call ∈ w.waiting, call.Feeding
  handed : Collector.Handed first w.samples w.host.timing
  responses : ∀ call ∈ w.ended, ∀ response, call.outcome = some (.answered (.ok response)) →
    Call.TimingsOf call.samples response.timing

variable {clients : Clients E L} {p : ProcessorInstance} {first : Collector}
  {w : ServiceWorld E L} {i : Nat} {call : Call}

lemma samples_without (hcall : w.waiting[i]? = some call) :
    w.samples.Perm (call.recorded ++ (w.without i).samples) := by
  obtain ⟨hlt, rfl⟩ := List.getElem?_eq_some_iff.mp hcall
  have hperm := (List.getElem_cons_eraseIdx_perm hlt).symm.flatMap_right Call.recorded
  rw [List.flatMap_cons] at hperm
  unfold samples without
  rw [← List.append_assoc]
  exact hperm.append_right _

lemma Sound.without (h : w.Sound first) (call : Call) (hmem : call ∈ (w.without i).waiting) :
    call.Feeding :=
  h.feeding call (List.mem_of_mem_eraseIdx hmem)

/-- A call that has opened has recorded nothing. -/
lemma openCall_cases (clients : Clients E L) (r : ProcessorRunner) (host : Host E L)
    (number : Nat) (request : ProcessRequest) :
    (r.openCall clients host number true request).1.timing = host.timing ∧
      ∀ call, (r.openCall clients host number true request).2 = .ok call →
        call.Feeding ∧ call.recorded = [] := by
  unfold ProcessorRunner.openCall
  split
  · exact ⟨rfl, fun call hcall => nomatch hcall⟩
  · refine ⟨rfl, fun call hcall => ?_⟩
    cases hcall
    exact Call.prepare_feeding _ _ _ _

lemma timing_conclude (service : ProcessorService) (host : Host E L) (outcome : CallOutcome) :
    (service.conclude host outcome).timing = host.timing := by
  unfold ProcessorService.conclude ProcessorService.observe
  split
  · split
    · rfl
    · rfl
  · rfl

/-- Another call waits, with what it has recorded. -/
lemma Sound.adds (h : w.Sound first) (rest : ServiceWorld E L) (hended : rest.ended = w.ended)
    (hrest : ∀ call ∈ rest.waiting, call.Feeding) {host : Host E L} {call : Call}
    (hcall : call.Feeding)
    (hhanded : Collector.Handed first (call.recorded ++ rest.samples) host.timing) :
    (rest.adds host call).Sound first where
  feeding other hmem := by
    rcases List.mem_cons.mp hmem with rfl | hmem
    · exact hcall
    · exact hrest other hmem
  handed := by
    rw [samples, ServiceWorld.adds, List.flatMap_cons, List.append_assoc]
    exact hhanded
  responses := hended ▸ h.responses

/-- A call has ended, with what it has recorded. -/
lemma Sound.ends (h : w.Sound first) (rest : ServiceWorld E L) (hended : rest.ended = w.ended)
    (hrest : ∀ call ∈ rest.waiting, call.Feeding) {host : Host E L} {call : EndedCall}
    (hhanded : Collector.Handed first (call.samples ++ rest.samples) host.timing)
    (hanswers : ∀ response, call.outcome = some (.answered (.ok response)) →
      Call.TimingsOf call.samples response.timing) :
    (rest.ends host call).Sound first where
  feeding := hrest
  handed := by
    refine hhanded.perm ?_
    rw [samples, samples, ServiceWorld.ends, List.flatMap_cons, ← List.append_assoc,
      ← List.append_assoc]
    exact List.perm_append_comm.append_right _
  responses other hmem := by
    rcases List.mem_cons.mp hmem with rfl | hmem
    · exact hanswers
    · exact h.responses other (hended ▸ hmem)

lemma Sound.opens (h : w.Sound first) (number : Nat) (request : ProcessRequest) :
    (w.next clients p (.opens number request)).Sound first := by
  obtain ⟨htiming, hfresh⟩ := openCall_cases clients p.runner w.host number request
  unfold next
  dsimp only
  rcases hopen : p.runner.openCall clients w.host number true request with ⟨host, e | call⟩
  · rw [hopen] at htiming
    refine h.ends w rfl h.feeding ?_ fun response hresponse => nomatch hresponse
    rw [timing_conclude, htiming]
    exact h.handed
  · rw [hopen] at htiming hfresh
    obtain ⟨hfeeding, hrecorded⟩ := hfresh call rfl
    refine h.adds w rfl h.feeding hfeeding ?_
    rw [hrecorded, htiming]
    exact h.handed

/-- What a call records is handed over, wherever the others have got to. -/
lemma Sound.goesOn (h : w.Sound first) (i : Nat) {behaviour : Behaviour (Except Cause Json.Members)}
    (hspares : behaviour.SparesSink) :
    (w.next clients p (.goesOn i behaviour hspares)).Sound first := by
  unfold next
  dsimp only
  cases hcall : w.waiting[i]? with
  | none => exact h
  | some call =>
    have hsamples := samples_without hcall
    have hhanded (new : List TimingSample) : Collector.Handed first
        ((call.recorded ++ new) ++ (w.without i).samples) (w.host.timing.submitAll new) := by
      refine (h.handed.submitAll new).perm ((hsamples.append_right new).trans ?_)
      rw [List.append_assoc, List.append_assoc]
      exact List.perm_append_comm.append_left _
    have hflows := Call.goOn_flows clients w.host
      (h.feeding call (List.mem_of_getElem? hcall)) hspares
    dsimp only
    rcases hgo : call.goOn clients w.host behaviour with ⟨host, progress⟩
    rw [hgo] at hflows
    cases hflows with
    | waits new flows =>
      refine h.adds (w.without i) rfl h.without flows.feeding ?_
      rw [flows.recorded, flows.timing]
      exact hhanded new
    | ended new timing recorded answers =>
      refine h.ends (w.without i) rfl h.without ?_ fun response hresponse => ?_
      · rw [timing_conclude, timing]
        change Collector.Handed first (Session.samplesOf _ 0 ++ _) _
        rw [recorded]
        exact hhanded new
      · exact Call.timingsOf_of_timings? (answers response (Option.some.inj hresponse))

lemma Sound.breaksOff (h : w.Sound first) (i : Nat) :
    (w.next clients p (.breaksOff i)).Sound first := by
  unfold next
  dsimp only
  cases hcall : w.waiting[i]? with
  | none => exact h
  | some call =>
    refine h.ends (w.without i) rfl h.without ?_ fun response hresponse => nomatch hresponse
    rw [Call.breakOff_timing clients w.host (h.feeding call (List.mem_of_getElem? hcall))]
    exact h.handed.perm (samples_without hcall)

lemma Sound.next (h : w.Sound first) (step : ServiceStep E L) :
    (w.next clients p step).Sound first := by
  cases step with
  | opens number request => exact h.opens number request
  | goesOn i behaviour hspares => exact h.goesOn i hspares
  | breaksOff i => exact h.breaksOff i
  | collects step hquiet => exact ⟨h.feeding, h.handed.quiet hquiet, h.responses⟩
  | elsewhere host => exact ⟨h.feeding, h.handed, h.responses⟩

lemma Sound.after (h : w.Sound first) (steps : List (ServiceStep E L)) :
    (w.after clients p steps).Sound first := by
  induction steps generalizing w with
  | nil => exact h
  | cons step rest ih => exact ih (h.next step)

lemma Sound.agrees {config : TimingConfig} {record : LogRecord}
    (hstart : Collector.start config = .ok (first, record)) (h : w.Sound first) : w.Agrees where
  responses := h.responses
  summaries hwaiting hdropped hdrained hfit steps hquiet request hnew a hreply := by
    have hhanded := h.handed
    rw [samples, hwaiting] at hhanded
    exact hhanded.reply hstart hdropped hfit hdrained hquiet hnew hreply

/-- Whatever the calls of a service do, and in whatever order, responses and summaries agree. -/
theorem responses_agree_with_summaries (clients : Clients E L) (p : ProcessorInstance)
    {config : TimingConfig} {record : LogRecord} {host : Host E L}
    (hstart : Collector.start config = .ok (host.timing, record))
    (steps : List (ServiceStep E L)) : ((idle host).after clients p steps).Agrees := by
  have hidle : (idle host).Sound host.timing :=
    ⟨(fun call hmem => nomatch hmem), .begin _, fun call hmem => nomatch hmem⟩
  exact (hidle.after steps).agrees hstart

def counter : ProcessorInstance :=
  ⟨⟨WordCount.processor, ⟨"counter"⟩, ⟨"counter", .manual⟩, ⟨"word-count", "counter"⟩⟩, "one", true⟩

/-- A collector with eight slots that is never reported. -/
def collecting : Collector :=
  ⟨⟨8, none, .empty, .created, [], [], [], false, false, 0⟩, 0, true⟩

/-- Works for some nanoseconds under a stopwatch, and goes on. -/
def reads (length : Span) (next : Behaviour (Except Cause Json.Members)) :
    Behaviour (Except Cause Json.Members) :=
  .act (.newWatch "read" (.attached 0) true) fun _ => .act (.advance length) fun _ =>
    .act (.stop 0) fun _ => next

def moves (move : WorkerMove) : ServiceStep E L :=
  .collects (.move move 0) (by simp [CollectorStep.IsQuiet])

/-- One call answers while another waits, which is then broken off. -/
def crossing : ServiceWorld EventStore Lifecycle :=
  (idle (Host.fresh .empty .empty collecting)).after ⟨EventStore.client, Lifecycle.client⟩ counter
    [.opens 1 ⟨"e", []⟩, .opens 2 ⟨"e", []⟩,
      .goesOn 0 (reads ⟨2, by decide⟩ (.sleep 1 .pend)) (by simp [reads, Behaviour.SparesSink]),
      moves .setUp,
      .goesOn 1 (reads ⟨3, by decide⟩ (.returns (.ok []))) (by simp [reads, Behaviour.SparesSink]),
      .breaksOff 0, moves .take, moves .finish, moves .take, moves .finish, moves .take,
      moves .finish]

/-- A summary is asked for, and the worker replies. -/
def asked : List CollectorStep := [.ask 7, .move .take 0, .move .finish 0]

theorem crossing_agrees :
    crossing.waiting = [] ∧
    crossing.ended.map (fun call => (call.number, call.samples.length)) = [(2, 1), (1, 2)] ∧
    (∃ call ∈ crossing.ended, ∃ response, call.outcome = some (.answered (.ok response)) ∧
      response.timing = [("counter:process_method", ⟨5, by decide⟩),
        ("counter:read", ⟨3, by decide⟩)]) ∧
    crossing.Agrees ∧
    ∃ a, ((CollectorHistory.begin crossing.host).after asked).collector.reply 7 = .done (.ok a) ∧
      a.Tells (crossing.ended.flatMap (·.samples)) := by
  have hstart : Collector.start ⟨8, none⟩ = .ok (collecting, Collector.startRecord 8) := rfl
  have hagrees : crossing.Agrees := responses_agree_with_summaries _ _ hstart _
  have hfit : TimingSample.Fit (crossing.ended.flatMap (·.samples)) :=
    .of_total (by decide) (by decide)
  exact ⟨by decide, by decide, ⟨_, .tail _ (.head _), _, rfl, rfl⟩, hagrees, _, rfl,
    hagrees.summaries (by decide) (by decide) (by decide) hfit asked
      (by simp [asked, CollectorStep.IsQuiet]) 7 (by decide) _ rfl⟩

end ServiceWorld

end ProcessorHost
