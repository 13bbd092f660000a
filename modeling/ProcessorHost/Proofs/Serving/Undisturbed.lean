import Mathlib.Tactic.Common
import ProcessorHost.Proofs.Serving.Standing

/-!
# Tasks that leave the standing alone

If the processor of a server, and all that already runs, report no health under some names, then
the standing of the host under these names stays as it is whatever the executor does: a request
arrives, goes on, is late or broken off, time passes, or the foreground waits.
-/

namespace ProcessorHost

variable {E L : Type}

namespace Job

variable {clients : Clients E L} {server : Server} {names : List String}

/-- Whoever the job waits for reports no health under some names. -/
def IsReserved (names : List String) (job : Job) : Prop :=
  match job.stage with
  | .calling call => call.IsReserved names
  | .summarising _ => True

end Job

/-- The same of a job that may have ended. -/
def JobProgress.IsReserved (names : List String) : JobProgress → Prop
  | waits job => job.IsReserved names
  | answered _ => True

/-- What became of a job, and what the host was before. -/
structure JobProgress.Undisturbed (clients : Clients E L) (names : List String) (host : Host E L)
    (outcome : Host E L × JobProgress) : Prop where
  standing : Host.SameStanding clients names host outcome.1
  reserved : outcome.2.IsReserved names

namespace Job

variable {clients : Clients E L} {server : Server} {names : List String}

open JobProgress

lemma office_conclude (service : ProcessorService) (host : Host E L) (outcome : CallOutcome) :
    (service.conclude host outcome).office = host.office := by
  unfold ProcessorService.conclude ProcessorService.observe
  split
  · split
    · rfl
    · rfl
  · rfl

lemma release_standing (origin : Origin) (host : Host E L) :
    Host.SameStanding clients names host (release origin host) := by
  cases origin with
  | runner => exact .refl host
  | service => exact .refl host
  | network requestId headOnly => exact ⟨rfl, fun _ _ => rfl⟩

lemma ofCall_undisturbed (clients : Clients E L) (server : Server) (host : Host E L) (number : Nat)
    (origin : Origin)
    (deadline : Option Nat) {progress : CallProgress} (h : progress.IsReserved names) :
    Undisturbed clients names host (ofCall server host number origin deadline progress) := by
  cases progress with
  | waits call => exact ⟨.refl host, h⟩
  | ended session outcome =>
    have hconcluded : Host.SameStanding clients names host
        (if origin.isServed then server.service.conclude host outcome else host) := by
      split
      · exact .of_office (office_conclude server.service host outcome)
      · exact .refl host
    have hreleased := hconcluded.trans (release_standing origin _)
    cases outcome with
    | answered result => exact ⟨hreleased, trivial⟩
    | panicked message => exact ⟨hreleased, trivial⟩

lemma ofSummary_undisturbed (timing : Collector) (host : Host E L) (number : Nat) (origin : Origin)
    (deadline : Option Nat) (progress : Collector.SummaryProgress) :
    Undisturbed clients names host (ofSummary timing host number origin deadline progress) := by
  cases progress with
  | pending request => exact ⟨.of_office rfl, trivial⟩
  | done result => exact ⟨.of_office rfl, trivial⟩

lemma call_undisturbed (hlaw : clients.lifecycle.IsLawful) (host : Host E L) (number : Nat)
    (origin : Origin) (deadline : Option Nat) {runner : Runner} (h : runner.IsReserved names)
    (request : ProcessRequest) :
    Undisturbed clients names host
      (call clients server host number origin deadline runner request) := by
  have hcall {entered : Host E L} (henter : Host.SameStanding clients names host entered) :
      Undisturbed clients names host
        (ofCall server (runner.beginCall clients entered number origin.isServed request).1 number
          origin deadline (runner.beginCall clients entered number origin.isServed request).2) := by
    obtain ⟨hbegun, hreserved⟩ := runner.beginCall_standing hlaw entered h number origin.isServed
      request
    obtain ⟨hjob, hwaits⟩ := ofCall_undisturbed clients server _ number origin deadline hreserved
    exact ⟨(henter.trans hbegun).trans hjob, hwaits⟩
  cases origin with
  | network requestId headOnly => exact hcall ⟨rfl, fun _ _ => rfl⟩
  | runner => exact hcall (.refl host)
  | service => exact hcall (.refl host)

lemma summarise_undisturbed (host : Host E L) (number : Nat) (origin : Origin)
    (deadline : Option Nat) :
    Undisturbed clients names host (summarise host number origin deadline) := by
  unfold summarise
  split
  · exact ofSummary_undisturbed _ host number origin deadline _
  · exact ofSummary_undisturbed _ host number origin deadline _

lemma arrive_undisturbed (hlaw : clients.lifecycle.IsLawful) (host : Host E L) (number : Nat)
    (freshId : String) (h : server.service.runner.IsReserved names) (r : Http.Request) :
    Undisturbed clients names host (arrive clients server host number freshId r) := by
  unfold arrive
  dsimp only
  split
  · exact ⟨.refl host, trivial⟩
  · split
    · exact ⟨.refl host, trivial⟩
    · exact call_undisturbed hlaw host number _ _ h _
    · exact summarise_undisturbed host number _ _

lemma breakOff_standing (clients : Clients E L) (names : List String) (host : Host E L)
    (job : Job) :
    Host.SameStanding clients names host (job.breakOff clients host).1 := by
  unfold breakOff
  split
  · rename_i call _
    have hcall : Host.SameStanding clients names host (call.breakOff clients host).1 :=
      .of_office (call.breakOff_office clients host)
    exact hcall.trans (release_standing job.origin _)
  · exact .of_office rfl

lemma expire_undisturbed (clients : Clients E L) (names : List String) (host : Host E L)
    (job : Job) :
    Undisturbed clients names host (job.expire clients host) := by
  have hbroken := breakOff_standing clients names host job
  unfold expire
  split
  · rename_i after heq
    rw [heq] at hbroken
    exact ⟨hbroken, trivial⟩
  · rename_i after message heq
    rw [heq] at hbroken
    exact ⟨hbroken, trivial⟩

lemma goOn_undisturbed (server : Server) (hlaw : clients.lifecycle.IsLawful) (host : Host E L)
    {job : Job}
    (h : job.IsReserved names) : Undisturbed clients names host (job.goOn clients server host) := by
  unfold IsReserved at h
  unfold goOn
  split
  · rename_i call heq
    rw [heq] at h
    obtain ⟨hresumed, hreserved⟩ := call.resume_standing hlaw host h
    obtain ⟨hjob, hwaits⟩ := ofCall_undisturbed clients server
      (call.resume clients host).1 job.number job.origin job.deadline hreserved
    exact ⟨hresumed.trans hjob, hwaits⟩
  · exact ofSummary_undisturbed _ host job.number job.origin job.deadline _

lemma poll_undisturbed (hlaw : clients.lifecycle.IsLawful) (host : Host E L) {job : Job}
    (h : job.IsReserved names) : Undisturbed clients names host (job.poll clients server host) := by
  have hgone := goOn_undisturbed server hlaw host h
  unfold poll
  split
  · split
    · exact expire_undisturbed clients names host job
    · exact hgone
  · split
    · rename_i after job' heq
      rw [heq] at hgone
      split
      · obtain ⟨hexpired, hwaits⟩ := expire_undisturbed clients names after job'
        exact ⟨hgone.standing.trans hexpired, hwaits⟩
      · exact hgone
    · exact hgone

end Job

/-- A request in the background whose processor reports no health under some names. -/
def Background.IsReserved (names : List String) : Background → Prop
  | begun job => job.IsReserved names
  | _ => True

namespace Executor

variable {clients : Clients E L} {names : List String} {e e' e'' : Executor E L}

def IsReserved (names : List String) (e : Executor E L) : Prop :=
  ∀ entry ∈ e.background, entry.2.IsReserved names

/-- What an executor has done has left the standing alone, and what it goes on with does. -/
structure Undisturbed (clients : Clients E L) (names : List String) (e e' : Executor E L) :
    Prop where
  standing : Host.SameStanding clients names e.host e'.host
  reserved : e'.IsReserved names

lemma Undisturbed.refl (h : e.IsReserved names) : Undisturbed clients names e e :=
  ⟨.refl e.host, h⟩

lemma Undisturbed.trans (h : Undisturbed clients names e e')
    (h' : Undisturbed clients names e' e'') : Undisturbed clients names e e'' :=
  ⟨h.standing.trans h'.standing, h'.reserved⟩

/-- What an executor has apart from its queues. -/
def content (e : Executor E L) : Host E L × List (Nat × Background) := (e.host, e.background)

lemma Undisturbed.of_content (h : e.IsReserved names) (hcontent : e'.content = e.content) :
    Undisturbed clients names e e' := by
  obtain ⟨hhost, hbackground⟩ := Prod.mk.inj hcontent
  refine ⟨?_, ?_⟩
  · rw [hhost]
    exact .refl e.host
  · unfold IsReserved
    rw [hbackground]
    exact h

/-- Only the host has changed. -/
lemma Undisturbed.of_host (h : e.IsReserved names) {host : Host E L}
    (hhost : Host.SameStanding clients names e.host host) :
    Undisturbed clients names e { e with host } :=
  ⟨hhost, h⟩

lemma content_wake (e : Executor E L) (task : Activity) : (e.wake task).content = e.content := by
  unfold wake
  split
  · rfl
  · rfl

lemma content_wakeAll (e : Executor E L) : e.wakeAll.content = e.content := by
  unfold wakeAll
  dsimp only
  rw [Surroundings.foldl_preserves (f := content)]
  · split
    · exact content_wake e .timing
    · rfl
  · intro e entry
    obtain ⟨number, b⟩ := entry
    dsimp only
    split
    · exact content_wake e _
    · rfl

lemma setTimers_undisturbed (h : Undisturbed clients names e e') (task : Option Activity)
    (times : List Nat) : Undisturbed clients names e (e'.setTimers task times) :=
  h.trans (.of_content h.reserved rfl)

lemma jump_undisturbed (h : e.IsReserved names) (time : Nat) :
    Undisturbed clients names e (e.jump time).1 := by
  unfold jump
  dsimp only
  have hlater : Undisturbed clients names e
      { e with host := { e.host with now := max e.host.now time },
               timers := (e.timers.partition fun timer => timer.1 ≤ time).2 } :=
    ⟨.of_office rfl, h⟩
  refine hlater.trans (.of_content hlater.reserved ?_)
  apply Surroundings.foldl_preserves (f := content)
  intro e timer
  cases timer.2 with
  | none => rfl
  | some task => exact content_wake e task

lemma background?_isReserved (h : e.IsReserved names) {number : Nat} {b : Background}
    (hfind : e.background? number = some b) : b.IsReserved names := by
  unfold background? at hfind
  obtain ⟨entry, hentry, rfl⟩ := Option.map_eq_some_iff.mp hfind
  exact h entry (List.mem_of_find?_eq_some hentry)

lemma setBackground_undisturbed (h : e.IsReserved names) (number : Nat) {b : Background}
    (hb : b.IsReserved names) : Undisturbed clients names e (e.setBackground number b) := by
  refine ⟨.refl e.host, ?_⟩
  intro entry hmem
  obtain ⟨old, hold, rfl⟩ := List.mem_map.mp hmem
  split
  · exact hb
  · exact h old hold

lemma keep_undisturbed (h : e.IsReserved names) (number : Nat) {outcome : Host E L × JobProgress}
    (houtcome : JobProgress.Undisturbed clients names e.host outcome) :
    Undisturbed clients names e (e.keep number outcome) := by
  obtain ⟨host, progress⟩ := outcome
  have hhost := Undisturbed.of_host h houtcome.standing
  cases progress with
  | waits job =>
    have hjob : (Background.begun job).IsReserved names := houtcome.reserved
    exact setTimers_undisturbed
      (hhost.trans (setBackground_undisturbed hhost.reserved number hjob)) _ _
  | answered answer =>
    have hdone : (Background.done answer).IsReserved names := trivial
    exact setTimers_undisturbed
      (hhost.trans (setBackground_undisturbed hhost.reserved number hdone)) _ _

lemma run_undisturbed (server : Server) (hlaw : clients.lifecycle.IsLawful)
    (hserver : server.service.runner.IsReserved names) (h : e.IsReserved names) (task : Activity) :
    Undisturbed clients names e (e.run clients server task) := by
  cases task with
  | timing =>
    have hpolled : Host.SameStanding clients names e.host e.host.pollTiming := .of_office rfl
    exact setTimers_undisturbed (.of_host h hpolled) _ _
  | close => exact .of_host h (.of_office (e.host.office_closeOrphan clients))
  | job number =>
    unfold run
    dsimp only
    split
    · exact keep_undisturbed h number (Job.arrive_undisturbed hlaw e.host number _ hserver _)
    · rename_i job hjob
      exact keep_undisturbed h number
        (Job.poll_undisturbed hlaw e.host (background?_isReserved h hjob))
    · exact .refl h

/-- Whatever runs leaves the standing alone, however much of it. -/
lemma settle_undisturbed (server : Server) (hlaw : clients.lifecycle.IsLawful)
    (hserver : server.service.runner.IsReserved names) (fuel : Nat) (h : e.IsReserved names) :
    Undisturbed clients names e (e.settle clients server fuel) := by
  induction fuel generalizing e with
  | zero => exact .refl h
  | succ fuel ih =>
    unfold settle
    have hwoken : Undisturbed clients names e e.wakeAll := .of_content h (content_wakeAll e)
    dsimp only
    split
    · exact hwoken
    · rename_i task rest _
      have hrun := run_undisturbed server hlaw hserver
        (e := { e.wakeAll with ready := rest }) hwoken.reserved task
      exact (hwoken.trans ⟨hrun.standing, hrun.reserved⟩).trans (ih hrun.reserved)

lemma wait_undisturbed (server : Server) (hlaw : clients.lifecycle.IsLawful)
    (hserver : server.service.runner.IsReserved names) (times : List Nat)
    (holds : Host E L → List (Nat × Background) → Bool) (fuel : Nat) (h : e.IsReserved names) :
    Undisturbed clients names e (e.wait clients server times holds fuel) := by
  induction fuel generalizing e with
  | zero => exact .refl h
  | succ fuel ih =>
    unfold wait
    have hsettled : Undisturbed clients names e
        ((e.setTimers none times).settle clients server fuel) :=
      .trans (setTimers_undisturbed (.refl h) none times)
        (settle_undisturbed server hlaw hserver fuel h)
    dsimp only
    split
    · exact setTimers_undisturbed hsettled none []
    · split
      · exact hsettled
      · rename_i time _
        have hjumped := hsettled.trans (jump_undisturbed hsettled.reserved time)
        split
        · rename_i after heq
          rw [heq] at hjumped
          exact setTimers_undisturbed hjumped none []
        · rename_i after heq
          rw [heq] at hjumped
          exact hjumped.trans (ih hjumped.reserved)

lemma awaitTiming_undisturbed (server : Server) (hlaw : clients.lifecycle.IsLawful)
    (hserver : server.service.runner.IsReserved names) (fuel : Nat) (h : e.IsReserved names) :
    Undisturbed clients names e (e.awaitTiming clients server fuel) :=
  wait_undisturbed server hlaw hserver [] _ fuel h

lemma spawn_undisturbed (h : e.IsReserved names) (number : Nat) (freshId : String)
    (request : Http.Request) :
    Undisturbed clients names e (e.spawn number freshId request) := by
  refine ⟨.refl e.host, ?_⟩
  intro entry hmem
  rcases List.mem_append.mp hmem with hmem | hmem
  · exact h entry hmem
  · rw [List.mem_singleton.mp hmem]
    trivial

lemma join_undisturbed (server : Server) (hlaw : clients.lifecycle.IsLawful)
    (hserver : server.service.runner.IsReserved names) (fuel number : Nat)
    (h : e.IsReserved names) :
    Undisturbed clients names e (e.join clients server fuel number).1 := by
  unfold join
  dsimp only
  split
  · exact wait_undisturbed server hlaw hserver [] _ fuel h
  · exact wait_undisturbed server hlaw hserver [] _ fuel h

/-- A request that is answered leaves the standing alone. -/
theorem request_undisturbed (server : Server) (hlaw : clients.lifecycle.IsLawful)
    (hserver : server.service.runner.IsReserved names) (fuel number : Nat) (freshId : String)
    (request : Http.Request) (h : e.IsReserved names) :
    Undisturbed clients names e (e.request clients server fuel number freshId request).1 := by
  have hspawned : Undisturbed clients names e (e.spawn number freshId request) :=
    spawn_undisturbed h number freshId request
  have hjoined :=
    hspawned.trans (join_undisturbed server hlaw hserver fuel number hspawned.reserved)
  refine ⟨hjoined.standing, ?_⟩
  intro entry hmem
  exact hjoined.reserved entry (List.mem_filter.mp hmem).1

end Executor

end ProcessorHost
