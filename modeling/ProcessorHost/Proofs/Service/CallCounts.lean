import Mathlib.Data.List.Perm.Basic
import ProcessorHost.Proofs.Call.Untouched
import ProcessorHost.Proofs.Serving.Admission

/-!
# Counting calls

Process calls come over the network or are made directly, any number of them at a time. Each ends
by returning, by a panic, or by being dropped, while the state of the server changes. Through all
of this the calls in flight are those that were let in over the network and have not ended, and the
counters of the service are those of the calls that returned.
-/

namespace ProcessorHost

variable {E L : Type}

namespace Origin

def isNetwork : Origin → Bool
  | network .. => true
  | _ => false

end Origin

/-- The call that a request makes if it passes the gate. -/
def Server.letsIn? (clients : Clients E L) (server : Server) (host : Host E L) (r : Http.Request) :
    Option ProcessRequest :=
  if server.config.requestTimeout.nanos = 0 then none
  else
    match server.receive clients host r with
    | .process request => some request
    | _ => none

/-- The end of a call; one that was dropped has no outcome. -/
structure CallEnd where
  origin : Origin
  outcome : Option CallOutcome

namespace CallEnd

/-- Whether this was a call of the service that returned, with a result or with an error. -/
def returned (ok : Bool) (e : CallEnd) : Bool :=
  e.origin.isServed &&
    match e.outcome with
    | some (.answered result) => result.isOk = ok
    | _ => false

end CallEnd

/-- What is counted of the calls of a service. -/
structure Tally where
  inFlight : UInt64
  ok : Nat
  error : Nat
  durations : Nat

namespace Tally

/-- A call has ended. -/
def ends (t : Tally) (e : CallEnd) : Tally where
  inFlight := if e.origin.isNetwork then t.inFlight - 1 else t.inFlight
  ok := t.ok + (e.returned true).toNat
  error := t.error + (e.returned false).toNat
  durations := t.durations + ((e.returned true).toNat + (e.returned false).toNat)

end Tally

namespace Host

def tally (service : ProcessorService) (host : Host E L) : Tally where
  inFlight := host.serving.inFlight
  ok := host.metrics.count (service.requestCounter "ok")
  error := host.metrics.count (service.requestCounter "error")
  durations := host.metrics.count service.durationCounter

variable (service : ProcessorService)

/-- No counter of the service is one of dropped samples. -/
lemma count_submit (host : Host E L) (sample : TimingSample) {key : CounterKey}
    (hkey : ∀ reason : DropReason, key ≠ reason.counter) :
    (host.submit sample).metrics.count key = host.metrics.count key := by
  unfold submit
  split
  · rfl
  · rename_i timing reason heq
    change (host.metrics.increment reason.counter).count key = _
    rw [Metrics.count_increment, if_neg (hkey reason), Nat.add_zero]

lemma requestCounter_ne_drop (outcome : String) (reason : DropReason) :
    service.requestCounter outcome ≠ reason.counter := by
  intro h
  have hname : "docproc_process_requests_total" = reason.counter.name := congrArg CounterKey.name h
  cases reason with
  | _ => exact absurd hname (by decide)

lemma durationCounter_ne_drop (reason : DropReason) :
    service.durationCounter ≠ reason.counter := by
  intro h
  have hname : "docproc_process_duration_seconds" = reason.counter.name :=
    congrArg CounterKey.name h
  cases reason with
  | _ => exact absurd hname (by decide)

lemma serving_submit (host : Host E L) (sample : TimingSample) :
    (host.submit sample).serving = host.serving := by
  unfold submit
  split
  · rfl
  · rfl

/-- While a call goes on nothing is counted. -/
lemma tally_untouched : Untouched (tally service : Host E L → Tally) where
  submit host sample := by
    unfold tally
    rw [serving_submit, count_submit host sample (requestCounter_ne_drop service "ok"),
      count_submit host sample (requestCounter_ne_drop service "error"),
      count_submit host sample (durationCounter_ne_drop service)]
  received _ _ := rfl
  note _ _ := rfl
  lifecycle _ _ := rfl
  clocks _ _ := rfl
  events _ _ := rfl
  orphans _ _ := rfl

lemma requestCounter_ne_duration (outcome : String) :
    service.requestCounter outcome ≠ service.durationCounter := by
  intro h
  have hobservations : false = true := congrArg CounterKey.observations h
  cases hobservations

lemma requestCounter_injective {outcome outcome' : String}
    (h : service.requestCounter outcome = service.requestCounter outcome') :
    outcome = outcome' := by
  have hlabels := congrArg CounterKey.labels h
  simpa [ProcessorService.requestCounter] using hlabels

/-- A call of the service is counted once it has returned. -/
lemma tally_conclude (host : Host E L) (origin : Origin) (hserved : origin.isServed)
    (outcome : CallOutcome) :
    (service.conclude host outcome).tally service =
      { (host.tally service).ends ⟨origin, some outcome⟩ with
        inFlight := host.serving.inFlight } := by
  have hdurations : service.requestCounter "ok" ≠ service.durationCounter ∧
      service.requestCounter "error" ≠ service.durationCounter :=
    ⟨requestCounter_ne_duration service _, requestCounter_ne_duration service _⟩
  have hok : service.requestCounter "ok" ≠ service.requestCounter "error" := fun h =>
    absurd (requestCounter_injective service h) (by decide)
  cases outcome with
  | panicked message => simp [tally, Tally.ends, CallEnd.returned, ProcessorService.conclude]
  | answered result =>
    cases result with
    | ok response =>
      simp [tally, Tally.ends, CallEnd.returned, hserved, ProcessorService.conclude,
        ProcessorService.observe, count, Metrics.count_increment, Except.isOk, Except.toBool,
        hdurations.1, hdurations.2, hdurations.1.symm, hok.symm]
    | error e =>
      simp [tally, Tally.ends, CallEnd.returned, hserved, ProcessorService.conclude,
        ProcessorService.observe, count, note, Metrics.count_increment, Except.isOk, Except.toBool,
        hdurations.1, hdurations.2, hdurations.2.symm, hok]

end Host

namespace Job

variable {clients : Clients E L} {server : Server} {host : Host E L}

/-- Whether a job is a call that was let in over the network. -/
def isInFlight (job : Job) : Bool :=
  job.origin.isNetwork &&
    match job.stage with
    | .calling _ => true
    | .summarising _ => false

lemma tally_release (service : ProcessorService) (origin : Origin) (host : Host E L) :
    (release origin host).tally service = { host.tally service with
      inFlight :=
        if origin.isNetwork then host.serving.inFlight - 1 else host.serving.inFlight } := by
  cases origin with
  | runner => rfl
  | service => rfl
  | network requestId headOnly => rfl

/-- When a call has ended it is counted, and no longer in flight. -/
lemma tally_ofCall (server : Server) (host : Host E L) (number : Nat) (origin : Origin)
    (deadline : Option Nat) (session : Option Session) (outcome : CallOutcome) :
    (ofCall server host number origin deadline (.ended session outcome)).1.tally server.service =
      (host.tally server.service).ends ⟨origin, some outcome⟩ := by
  have hconclude : (if origin.isServed then server.service.conclude host outcome
        else host).tally server.service =
      { (host.tally server.service).ends ⟨origin, some outcome⟩ with
        inFlight := host.serving.inFlight } := by
    split
    · rename_i hserved
      exact Host.tally_conclude server.service host origin hserved outcome
    · rename_i hserved
      simp [Host.tally, Tally.ends, CallEnd.returned, hserved]
  have hreleased := tally_release server.service origin
    (if origin.isServed then server.service.conclude host outcome else host)
  rw [hconclude] at hreleased
  have hinFlight := congrArg Tally.inFlight hconclude
  change Serving.inFlight _ = host.serving.inFlight at hinFlight
  rw [hinFlight] at hreleased
  cases outcome with
  | answered result => exact hreleased
  | panicked message => exact hreleased

/-- A request that is not let in as a call counts for nothing, and does not become one. -/
lemma arrive_other {r : Http.Request} (hnone : server.letsIn? clients host r = none) (number : Nat)
    (freshId : String) :
    (arrive clients server host number freshId r).1.tally server.service =
        host.tally server.service ∧
      ∀ job, (arrive clients server host number freshId r).2 = .waits job →
        job.isInFlight = false := by
  unfold Server.letsIn? at hnone
  unfold arrive
  dsimp only
  split at hnone
  · rename_i hzero
    rw [if_pos hzero]
    refine ⟨rfl, fun job hjob => ?_⟩
    cases hjob
  · rename_i htime
    rw [if_neg htime]
    split at hnone
    · cases hnone
    · rename_i hother
      cases hreceive : server.receive clients host r with
      | process request => exact absurd hreceive (hother request)
      | respond response =>
        refine ⟨rfl, fun job hjob => ?_⟩
        cases hjob
      | summarise =>
        dsimp only
        unfold summarise
        split
        · refine ⟨rfl, fun job hjob => ?_⟩
          cases hjob
          rfl
        · refine ⟨rfl, fun job hjob => ?_⟩
          cases hjob

lemma arrive_letsIn {number : Nat} {freshId : String} {r : Http.Request} {request : ProcessRequest}
    (hsome : server.letsIn? clients host r = some request) :
    arrive clients server host number freshId r =
      call clients server host number
        (.network ((r.header? "x-request-id").getD freshId) (r.method = "HEAD"))
        (some (host.now + server.config.requestTimeout.nanos)) server.service.runner request := by
  unfold Server.letsIn? at hsome
  unfold arrive
  dsimp only
  split at hsome
  · cases hsome
  · rename_i htime
    rw [if_neg htime]
    split at hsome
    · rename_i admitted hreceive
      rw [hreceive, Option.some.inj hsome]
    · cases hsome

/-- A job that is looked at expires, or it goes on, or it does so and expires then. -/
lemma poll_cases (clients : Clients E L) (server : Server) (host : Host E L) (job : Job) :
    job.poll clients server host = job.expire clients host ∨
    job.poll clients server host = job.goOn clients server host ∨
    ∃ after later, job.goOn clients server host = (after, .waits later) ∧
      job.poll clients server host = later.expire clients after := by
  unfold poll
  split
  · split
    · exact .inl rfl
    · exact .inr (.inl rfl)
  · split
    · rename_i after later hgo
      split
      · exact .inr (.inr ⟨after, later, hgo, rfl⟩)
      · exact .inr (.inl hgo.symm)
    · exact .inr (.inl rfl)

end Job

/-- The calls of a server and whatever else waits. -/
structure Traffic (E L : Type) where
  host : Host E L
  waiting : List Job
  /-- Who waits for the calls that have begun. -/
  begun : List Origin
  ended : List CallEnd

/-- What may happen next. -/
inductive TrafficStep (E L : Type)
  | arrives (number : Nat) (freshId : String) (r : Http.Request)
  /-- A call is made directly, of the service or of a runner. -/
  | calls (number : Nat) (served : Bool) (deadline : Option Nat) (runner : Runner)
      (request : ProcessRequest)
  | goesOn (i : Nat)
  /-- The time of a job is up, or nobody waits for it any more. -/
  | breaksOff (i : Nat)
  | serves (call : ServingCall)
  | submits (sample : TimingSample)
  /-- Anything else happens to the host, but not to its serving state or its counters. -/
  | elsewhere (host : Host E L)

namespace Traffic

/-- Nothing has begun. -/
def idle (host : Host E L) : Traffic E L := ⟨host, [], [], []⟩

def without (w : Traffic E L) (i : Nat) : Traffic E L := { w with waiting := w.waiting.eraseIdx i }

/-- Takes over what became of a job. -/
def takes (w : Traffic E L) (outcome : Host E L × JobProgress) : Traffic E L :=
  { w with
    host := outcome.1
    waiting := match outcome.2 with
      | .waits job => job :: w.waiting
      | .answered _ => w.waiting }

def begins (w : Traffic E L) (origin : Origin) : Traffic E L :=
  { w with begun := origin :: w.begun }

/-- Keeps the end of a call, if it has ended. -/
def keeps (w : Traffic E L) (origin : Origin) : CallProgress → Traffic E L
  | .waits _ => w
  | .ended _ outcome => { w with ended := ⟨origin, some outcome⟩ :: w.ended }

def next (clients : Clients E L) (server : Server) (w : Traffic E L) :
    TrafficStep E L → Traffic E L
  | .arrives number freshId r =>
    let arrived := w.takes (Job.arrive clients server w.host number freshId r)
    match server.letsIn? clients w.host r with
    | none => arrived
    | some request =>
      let origin : Origin :=
        .network ((r.header? "x-request-id").getD freshId) (r.method = "HEAD")
      (arrived.begins origin).keeps origin
        (server.service.runner.beginCall clients w.host.enter number true request).2
  | .calls number served deadline runner request =>
    let origin : Origin := if served then .service else .runner
    ((w.takes (Job.call clients server w.host number origin deadline runner request)).begins
      origin).keeps origin (runner.beginCall clients w.host number origin.isServed request).2
  | .goesOn i =>
    match w.waiting[i]? with
    | none => w
    | some job =>
      let gone := (w.without i).takes (job.goOn clients server w.host)
      match job.stage with
      | .calling call => gone.keeps job.origin (call.resume clients w.host).2
      | .summarising _ => gone
  | .breaksOff i =>
    match w.waiting[i]? with
    | none => w
    | some job =>
      let dropped := { w.without i with host := (job.breakOff clients w.host).1 }
      match job.stage with
      | .calling _ => { dropped with ended := ⟨job.origin, none⟩ :: w.ended }
      | .summarising _ => dropped
  | .serves call => { w with host := w.host.withServing (call.apply w.host.serving) }
  | .submits sample => { w with host := w.host.submit sample }
  | .elsewhere host =>
    { w with host := { host with serving := w.host.serving, metrics := w.host.metrics } }

def after (clients : Clients E L) (server : Server) (w : Traffic E L)
    (steps : List (TrafficStep E L)) : Traffic E L := steps.foldl (next clients server) w

/-- The number of calls that were let in over the network and have not ended. -/
def inFlight (w : Traffic E L) : Nat := w.waiting.countP Job.isInFlight

def returned (w : Traffic E L) (ok : Bool) : Nat := w.ended.countP (CallEnd.returned ok)

lemma countP_cons_eq {α : Type} (p : α → Bool) (a : α) (l : List α) :
    (a :: l).countP p = l.countP p + (p a).toNat := by
  rw [List.countP_cons]
  cases p a with
  | _ => rfl

lemma inFlight_waits (w : Traffic E L) (host : Host E L) (job : Job) :
    (w.takes (host, .waits job)).inFlight = w.inFlight + job.isInFlight.toNat :=
  countP_cons_eq _ _ _

/-- The counts are right, with so many more calls in hand. -/
structure Counts (service : ProcessorService) (hand : Nat) (w : Traffic E L) : Prop where
  tally : w.host.tally service = ⟨UInt64.ofNat (w.inFlight + hand), w.returned true,
    w.returned false, w.returned true + w.returned false⟩
  balance : w.begun.countP Origin.isNetwork =
    w.inFlight + hand + w.ended.countP (·.origin.isNetwork)

variable {clients : Clients E L} {server : Server} {service : ProcessorService} {w : Traffic E L}
  {hand : Nat}

lemma Counts.of_tally (h : w.Counts service hand) {host : Host E L}
    (htally : host.tally service = w.host.tally service) :
    { w with host }.Counts service hand :=
  ⟨htally.trans h.tally, h.balance⟩

/-- A call ends that was in hand. -/
lemma Counts.ends {e : CallEnd} (h : w.Counts service e.origin.isNetwork.toNat) {host : Host E L}
    (htally : host.tally service = (w.host.tally service).ends e) :
    { w with host, ended := e :: w.ended }.Counts service 0 where
  tally := by
    rw [htally, h.tally]
    have hless : (if e.origin.isNetwork then
          UInt64.ofNat (w.inFlight + e.origin.isNetwork.toNat) - 1
        else UInt64.ofNat (w.inFlight + e.origin.isNetwork.toNat)) = UInt64.ofNat w.inFlight := by
      cases e.origin.isNetwork with
      | true => simp [UInt64.ofNat_add]
      | false => simp
    have hcons (ok : Bool) : (e :: w.ended).countP (CallEnd.returned ok) =
        w.returned ok + (e.returned ok).toNat := countP_cons_eq _ _ _
    unfold Tally.ends
    dsimp only
    rw [hless, Tally.mk.injEq]
    refine ⟨rfl, (hcons true).symm, (hcons false).symm, ?_⟩
    change _ = (e :: w.ended).countP _ + (e :: w.ended).countP _
    rw [hcons, hcons]
    omega
  balance := by
    change w.begun.countP _ = w.inFlight + 0 + (e :: w.ended).countP _
    rw [h.balance, countP_cons_eq]
    omega

/-- A call that was in hand waits, or it has ended. -/
lemma Counts.turns {origin : Origin} (h : w.Counts server.service origin.isNetwork.toNat)
    (number : Nat) (deadline : Option Nat) (progress : CallProgress) :
    ((w.takes (Job.ofCall server w.host number origin deadline progress)).keeps origin
      progress).Counts server.service 0 := by
  cases progress with
  | ended session outcome =>
    have hends := h.ends (Job.tally_ofCall server w.host number origin deadline session
      outcome)
    cases outcome with
    | answered result => exact hends
    | panicked message => exact hends
  | waits call =>
    have hmore :
        (w.takes (Job.ofCall server w.host number origin deadline (.waits call))).inFlight =
        w.inFlight + origin.isNetwork.toNat := by
      have hwaits := w.inFlight_waits w.host ⟨number, origin, .calling call, deadline⟩
      rw [Job.isInFlight, Bool.and_true] at hwaits
      exact hwaits
    refine ⟨?_, ?_⟩
    · change w.host.tally _ = ⟨UInt64.ofNat (_ + 0), _, _, _⟩
      rw [Nat.add_zero, keeps, hmore]
      exact h.tally
    · change w.begun.countP _ = _ + 0 + _
      rw [Nat.add_zero, keeps, hmore]
      exact h.balance

/-- A job is taken from those that wait; a call among them is in hand then. -/
lemma Counts.without (h : w.Counts service 0) {i : Nat} {job : Job}
    (hjob : w.waiting[i]? = some job) : (w.without i).Counts service job.isInFlight.toNat := by
  obtain ⟨hlt, rfl⟩ := List.getElem?_eq_some_iff.mp hjob
  have hless : w.inFlight + 0 = (w.without i).inFlight + (w.waiting[i]).isInFlight.toNat := by
    have hperm := (List.getElem_cons_eraseIdx_perm hlt).countP_eq Job.isInFlight
    rw [countP_cons_eq] at hperm
    exact hperm.symm
  refine ⟨?_, ?_⟩
  · rw [← hless]
    exact h.tally
  · rw [← hless]
    exact h.balance

/-- A call begins, and is in hand at once. -/
lemma Counts.calls (h : w.Counts server.service 0) (number : Nat) (origin : Origin)
    (deadline : Option Nat) (runner : Runner) (request : ProcessRequest) {host : Host E L}
    (hhost : host = if origin.isNetwork then w.host.enter else w.host) :
    (((w.takes (Job.call clients server w.host number origin deadline runner request)).begins
      origin).keeps origin
        (runner.beginCall clients host number origin.isServed request).2).Counts
      server.service 0 := by
  have hbegan := (Host.tally_untouched server.service).beginCall clients (fun _ _ => rfl) runner
    host number origin.isServed request
  have hcall : Job.call clients server w.host number origin deadline runner request =
      Job.ofCall server (runner.beginCall clients host number origin.isServed request).1 number
        origin deadline (runner.beginCall clients host number origin.isServed request).2 := by
    subst hhost
    cases origin with
    | runner => rfl
    | service => rfl
    | network requestId headOnly => rfl
  rcases hbegin : runner.beginCall clients host number origin.isServed request with
    ⟨after, progress⟩
  rw [hbegin] at hbegan hcall
  have hentered : host.tally server.service = { w.host.tally server.service with
      inFlight := UInt64.ofNat (w.inFlight + origin.isNetwork.toNat) } := by
    have htally : w.host.serving.inFlight = UInt64.ofNat w.inFlight :=
      congrArg Tally.inFlight h.tally
    subst hhost
    cases origin.isNetwork with
    | true =>
      change { w.host.tally server.service with inFlight := w.host.serving.inFlight + 1 } = _
      rw [htally, Bool.toNat_true, UInt64.ofNat_add]
      rfl
    | false =>
      rw [Bool.toNat_false, Nat.add_zero, ← htally]
      rfl
  have hin : ({ w with host := after, begun := origin :: w.begun } : Traffic E L).Counts
      server.service origin.isNetwork.toNat := by
    refine ⟨?_, ?_⟩
    · change after.tally server.service = _
      rw [hbegan, hentered, h.tally]
      rfl
    · change (origin :: w.begun).countP _ = w.inFlight + _ + w.ended.countP _
      rw [countP_cons_eq, h.balance]
      omega
  have hturned := hin.turns number deadline progress
  rw [hcall]
  cases progress with
  | waits call => exact hturned
  | ended session outcome => exact hturned

lemma Counts.goesOn (h : w.Counts server.service 0) (i : Nat) :
    (w.next clients server (.goesOn i)).Counts server.service 0 := by
  unfold next
  dsimp only
  cases hjob : w.waiting[i]? with
  | none => exact h
  | some job =>
    have hin := h.without hjob
    dsimp only
    unfold Job.goOn
    cases hstage : job.stage with
    | calling call =>
      have hflight : job.isInFlight = job.origin.isNetwork := by
        rw [Job.isInFlight, hstage, Bool.and_true]
      have hresumed := (Host.tally_untouched server.service).resume clients w.host call
      rw [hflight] at hin
      exact (hin.of_tally hresumed).turns job.number job.deadline (call.resume clients w.host).2
    | summarising request =>
      have hflight : job.isInFlight = false := by rw [Job.isInFlight, hstage, Bool.and_false]
      rw [hflight] at hin
      dsimp only
      rcases hresume : w.host.timing.resume job.number request with ⟨timing, progress⟩
      dsimp only
      cases progress with
      | done result => exact hin.of_tally rfl
      | pending request =>
        have hsame : ((w.without i).takes (Job.ofSummary timing w.host job.number job.origin
            job.deadline (.pending request))).inFlight = (w.without i).inFlight := by
          have hwaits := (w.without i).inFlight_waits { w.host with timing }
            ⟨job.number, job.origin, .summarising request, job.deadline⟩
          rw [Job.isInFlight, Bool.and_false] at hwaits
          exact hwaits
        refine ⟨?_, ?_⟩
        · rw [hsame]
          exact hin.tally
        · rw [hsame]
          exact hin.balance

lemma Counts.breaksOff (h : w.Counts server.service 0) (i : Nat) :
    (w.next clients server (.breaksOff i)).Counts server.service 0 := by
  unfold next
  dsimp only
  cases hjob : w.waiting[i]? with
  | none => exact h
  | some job =>
    have hin := h.without hjob
    dsimp only
    unfold Job.breakOff
    cases hstage : job.stage with
    | calling call =>
      have hflight : job.isInFlight = job.origin.isNetwork := by
        rw [Job.isInFlight, hstage, Bool.and_true]
      have hbroken := (Host.tally_untouched server.service).breakOff clients w.host call
      rw [hflight] at hin
      refine hin.ends (e := ⟨job.origin, none⟩) ?_
      change (Job.release job.origin (call.breakOff clients w.host).1).tally server.service = _
      have hinFlight : (call.breakOff clients w.host).1.serving.inFlight =
          w.host.serving.inFlight := congrArg Tally.inFlight hbroken
      rw [Job.tally_release, hbroken, hinFlight]
      simp [Tally.ends, CallEnd.returned, Traffic.without, Host.tally]
    | summarising request =>
      have hflight : job.isInFlight = false := by rw [Job.isInFlight, hstage, Bool.and_false]
      rw [hflight] at hin
      exact hin.of_tally rfl

lemma Counts.arrives (h : w.Counts server.service 0) (number : Nat) (freshId : String)
    (r : Http.Request) :
    (w.next clients server (.arrives number freshId r)).Counts server.service 0 := by
  unfold next
  dsimp only
  cases hin : server.letsIn? clients w.host r with
  | some request =>
    dsimp only
    rw [Job.arrive_letsIn hin]
    exact h.calls number (.network _ _) _ server.service.runner request rfl
  | none =>
    obtain ⟨htally, hother⟩ := Job.arrive_other hin number freshId
    dsimp only
    rcases harrive : Job.arrive clients server w.host number freshId r with ⟨host, progress⟩
    rw [harrive] at htally hother
    cases progress with
    | answered answer => exact h.of_tally htally
    | waits job =>
      have hsame : (w.takes (host, .waits job)).inFlight = w.inFlight := by
        rw [inFlight_waits, hother job rfl]
        rfl
      refine ⟨?_, ?_⟩
      · rw [hsame]
        exact htally.trans h.tally
      · rw [hsame]
        exact h.balance

/-- Whatever happens next, the counts are right. -/
lemma Counts.next (h : w.Counts server.service 0) (step : TrafficStep E L) :
    (w.next clients server step).Counts server.service 0 := by
  cases step with
  | arrives number freshId r => exact h.arrives number freshId r
  | calls number served deadline runner request =>
    unfold Traffic.next
    cases served with
    | true => exact h.calls number .service deadline runner request rfl
    | false => exact h.calls number .runner deadline runner request rfl
  | goesOn i => exact h.goesOn i
  | breaksOff i => exact h.breaksOff i
  | serves call =>
    refine h.of_tally ?_
    cases call with
    | _ => rfl
  | submits sample => exact h.of_tally ((Host.tally_untouched server.service).submit _ _)
  | elsewhere host => exact h.of_tally rfl

lemma Counts.after (h : w.Counts server.service 0) (steps : List (TrafficStep E L)) :
    (w.after clients server steps).Counts server.service 0 := by
  induction steps generalizing w with
  | nil => exact h
  | cons step rest ih => exact ih (h.next step)

/-- The host and what waits, without what is only kept for the record. -/
def state (w : Traffic E L) : Host E L × List Job := (w.host, w.waiting)

lemma state_keeps (w : Traffic E L) (origin : Origin) (progress : CallProgress) :
    (w.keeps origin progress).state = w.state := by
  cases progress with
  | _ => rfl

lemma state_goesOn (clients : Clients E L) (server : Server) {i : Nat} {job : Job}
    (hjob : w.waiting[i]? = some job) :
    (w.next clients server (.goesOn i)).state =
      ((w.without i).takes (job.goOn clients server w.host)).state := by
  unfold next
  dsimp only
  rw [hjob]
  dsimp only
  split
  · exact state_keeps _ _ _
  · rfl

lemma state_breaksOff (clients : Clients E L) (server : Server) {i : Nat} {job : Job}
    (hjob : w.waiting[i]? = some job) :
    (w.next clients server (.breaksOff i)).state =
      ((job.breakOff clients w.host).1, (w.without i).waiting) := by
  unfold next
  dsimp only
  rw [hjob]
  dsimp only
  split
  · rfl
  · rfl

lemma state_expire (clients : Clients E L) (server : Server) {i : Nat} {job : Job}
    (hjob : w.waiting[i]? = some job) :
    (w.next clients server (.breaksOff i)).state =
      ((w.without i).takes (job.expire clients w.host)).state := by
  rw [state_breaksOff clients server hjob]
  unfold Job.expire
  rcases job.breakOff clients w.host with ⟨host, panic⟩
  cases panic with
  | _ => rfl

/-- To look at a job is to let it go on, or to break it off, or both. -/
theorem polls_are_steps (clients : Clients E L) (server : Server) {i : Nat} {job : Job}
    (hjob : w.waiting[i]? = some job) :
    ∃ steps, (w.after clients server steps).state =
      ((w.without i).takes (job.poll clients server w.host)).state := by
  rcases job.poll_cases clients server w.host with hpoll | hpoll | ⟨host, later, hgo, hpoll⟩
  · rw [hpoll]
    exact ⟨[.breaksOff i], state_expire clients server hjob⟩
  · rw [hpoll]
    exact ⟨[.goesOn i], state_goesOn clients server hjob⟩
  · -- What has gone on is the first of those that wait, and then its time is up.
    have hwent := state_goesOn clients server hjob
    rw [hgo] at hwent
    obtain ⟨hhost, hwaiting⟩ := Prod.mk.inj hwent
    have hfirst : (w.next clients server (.goesOn i)).waiting[0]? = some later := by
      rw [hwaiting]
      rfl
    refine ⟨[.goesOn i, .breaksOff 0], (state_expire clients server hfirst).trans ?_⟩
    have hrest :
        ((w.next clients server (.goesOn i)).without 0).waiting = (w.without i).waiting := by
      unfold without
      dsimp only
      rw [hwaiting]
      rfl
    rw [hpoll, hhost]
    unfold state takes
    dsimp only
    rw [hrest]

/-- A call comes too early, and another is let in but is given no event. -/
example :
    let clients : Clients Unit Lifecycle :=
      ⟨⟨fun e _ => (e, .error (.of "down")), fun e _ => (e, .ok ())⟩, Lifecycle.client⟩
    let w := (idle Server.resting).after clients Server.counting
      [.arrives 1 "one" Server.processCall, .serves .setReady, .arrives 2 "two" Server.processCall]
    (w.begun.length, w.inFlight, w.returned true, w.returned false) = (1, 0, 0, 1) := by
  decide +kernel

end Traffic

end ProcessorHost
