import ProcessorHost.Proofs.Call.LeasesClosed
import ProcessorHost.Proofs.Call.SampleFlow
import ProcessorHost.Proofs.Call.Stretches
import ProcessorHost.Proofs.Call.Timings

/-!
# Outcomes of calls

When its processor has returned, a call stops its stopwatch, releases its own context, gives the
event back and answers, in this order. Its own context is then at the bottom of the stack of its
scope. If it is the only one there, the call records one sample more for itself and answers with
what the processor returned; contexts that the processor left entered make it a panic, and stay.
-/

namespace ProcessorHost

variable {E L : Type}

/-- The first interval of a stopwatch is not too long. -/
lemma Stopwatch.stop_first (label : String) (clock : ClockSource) (scope : Option Nat)
    (since now : UInt64) : ((unstarted label clock scope).restart since).stop now =
      .stopped ⟨label, .stopped, .between since now, none, clock, scope⟩ (.between since now) := by
  have hadd : Span.zero.add? (.between since now) = some (.between since now) :=
    Span.add?_eq_some_iff.mpr (Nat.zero_add _).symm
  have hrunning : ((unstarted label clock scope).restart since).isRunning := rfl
  unfold stop
  rw [if_pos hrunning]
  unfold restart unstarted
  dsimp only
  rw [Option.getD_some, hadd]

namespace Session

variable {s s' : Session}

lemma nanos_of_stop {id : Nat} {interval : Span} (h : (s.stop id).2 = .interval interval) :
    interval.nanos < UInt64.size := by
  rcases s.stop_cases id with ⟨hnone | ⟨e, hnone⟩, -⟩ | ⟨watch, after, -, -, -, hnone | hsome⟩
  · rw [hnone] at h
    cases h
  · rw [hnone] at h
    cases h
  · rw [hnone] at h
    cases h
  · rw [hsome] at h
    rw [← Reply.interval.inj h]
    exact Nat.lt_of_le_of_lt (Nat.sub_le _ _) (UInt64.toNat_lt _)

/-- What a run files are intervals between two readings. -/
lemma exists_files_undergo (s : Session) (o : Occurrence) :
    ∃ filings, s.Files filings (s.undergo o).1 ∧
      ∀ f ∈ filings, f.sample.duration.nanos < UInt64.size := by
  cases o with
  | pass clocks today => exact ⟨[], files_of_scopes rfl rfl, nofun⟩
  | act action =>
    by_cases hstop : ∃ id, action = .stop id
    · obtain ⟨id, rfl⟩ := hstop
      rcases s.stop_files id with ⟨watch, interval, -, hreply, hfiles⟩ | ⟨-, hfiles⟩
      · refine ⟨_, hfiles, fun f hf => ?_⟩
        obtain ⟨k, -, hf⟩ := Option.bind_eq_some_iff.mp (Option.mem_toList.mp hf)
        obtain ⟨context, -, rfl⟩ := Option.map_eq_some_iff.mp hf
        exact nanos_of_stop hreply
      · exact ⟨[], hfiles, nofun⟩
    · exact ⟨[], perform_files (fun id heq => hstop ⟨id, heq⟩) s, nofun⟩

lemma exists_files_undergoAll (s : Session) (os : List Occurrence) :
    ∃ filings, s.Files filings (s.undergoAll os) ∧
      ∀ f ∈ filings, f.sample.duration.nanos < UInt64.size := by
  induction os generalizing s with
  | nil => exact ⟨[], Files.refl s, nofun⟩
  | cons o rest ih =>
    obtain ⟨filings, hfiles, hshort⟩ := s.exists_files_undergo o
    obtain ⟨filings', hfiles', hshort'⟩ := ih (s.undergo o).1
    refine ⟨filings ++ filings', hfiles.trans hfiles', fun f hf => ?_⟩
    rcases List.mem_append.mp hf with hf | hf
    · exact hshort f hf
    · exact hshort' f hf

end Session

namespace Call

/-- The session when the processor has returned and what it held has been dropped. -/
def left (call : Call) : Session := (call.session.releaseHeld none).1

/-- The call at this moment. -/
def dropped (call : Call) : Call := { call with session := call.left }

/-- The interval that the stopwatch of the call measures. -/
def interval (call : Call) : Span :=
  .between (call.watch.runningSince.getD 0) (call.session.clocks.read call.watch.clock)

/-- The sample that the stopwatch of the call records under a label. -/
def sample (call : Call) (label : String) : TimingSample :=
  ⟨⟨label, methodLabel⟩, call.interval, call.session.today⟩

/-- What a call has handed over, and has received, when it has recorded one sample more. -/
def handed (call : Call) (host : Host E L) (sample : TimingSample) :
    Collector × List (Nat × TimingSample) :=
  if call.feeds then ((host.timing.submit sample).1, host.received)
  else (host.timing, host.received ++ [(call.number, sample)])

/-- The answer to what the processor has returned, given all samples of the call. -/
def answers (eventId : String) (samples : List TimingSample) :
    Except Cause Json.Members → CallOutcome
  | .error e => .answered (.error (.processor e))
  | .ok result =>
    match timings? samples with
    | some timing => .answered (.ok ⟨eventId, result, timing⟩)
    | none => .panicked Span.overflowText

end Call

/-- The collector, and what calls with a sink of their own have received. -/
def Host.intake (host : Host E L) : Collector × List (Nat × TimingSample) :=
  (host.timing, host.received)

namespace Call

variable {call : Call}

/-- Reports are no samples. -/
lemma pass_intake (clients : Clients E L) (host : Host E L) (call : Call) {session : Session}
    (hsame : session.deliveries = call.session.deliveries) :
    (call.pass clients host session).1.intake = host.intake := by
  unfold pass Surroundings.passOn
  dsimp only
  rw [hsame, List.drop_length, List.foldl_nil]
  exact Surroundings.foldl_preserves (f := Host.intake) (g := Host.note) (fun _ _ => rfl) _ _

lemma pass_handed (clients : Clients E L) (host : Host E L) (call : Call) {session : Session}
    {k : Nat} {sample : TimingSample}
    (hone : session.deliveries = call.session.deliveries ++ [⟨sink, k, sample⟩]) :
    (call.pass clients host session).1.intake = call.handed host sample := by
  unfold pass Surroundings.passOn
  dsimp only
  rw [hone, List.drop_left, List.foldl_cons, List.foldl_nil]
  refine (Surroundings.foldl_preserves (f := Host.intake) (g := Host.note) (fun _ _ => rfl)
    _ _).trans ?_
  unfold surroundings handed
  dsimp only
  rw [if_pos rfl]
  split
  · unfold Host.intake
    rw [Host.timing_submit]
    congr 1
    unfold Host.submit
    split
    · rfl
    · rfl
  · rfl

lemma intake_closeEvent (clients : Clients E L) (host : Host E L) (id : String) :
    (host.closeEvent clients id).intake = host.intake := by
  unfold Host.closeEvent
  split
  · rfl
  · rfl

/-- The stopwatch of the call runs, and has measured nothing before. -/
def IsTimed (call : Call) : Prop :=
  ∃ clock since, call.watch = (Stopwatch.unstarted methodLabel clock (some 0)).restart since

/-- The session when the stopwatch has been stopped. -/
def measured (call : Call) : Session := call.session.record 0 methodLabel call.interval

/-- The session when the call's own context has been released. -/
def freed (call : Call) : Session × Reply :=
  ({ call.session with held := [call.guard] } : Session).release call.guard false

/-- The stopwatch of the call can be stopped. -/
lemma IsTimed.stopWatch_eq (h : call.IsTimed) (clients : Clients E L) (host : Host E L) :
    ∃ watch, call.stopWatch clients host = ((call.pass clients host call.measured).1,
      { call with session := call.measured, watch }, .stopped watch call.interval) := by
  obtain ⟨clock, since, hwatch⟩ := h
  have hinterval : call.interval = .between since (call.session.clocks.read clock) := by
    unfold interval
    rw [hwatch]
    rfl
  unfold stopWatch measured
  rw [hinterval, hwatch]
  dsimp only
  rw [Stopwatch.stop_first]
  exact ⟨_, rfl⟩

lemma releaseHeld_eq (clients : Clients E L) (host : Host E L) (call : Call) :
    call.releaseHeld clients host none = ((call.pass clients host call.left).1, call.dropped,
      (call.session.releaseHeld none).2) := rfl

lemma releaseOwn_eq (clients : Clients E L) (host : Host E L) (call : Call) :
    call.releaseOwn clients host none = ((call.pass clients host call.freed.1).1,
      { call with session := call.freed.1 },
      match call.freed.2 with
      | .panicked message => some message
      | _ => none) := by
  unfold releaseOwn freed
  dsimp only
  rw [Option.isSome_none]
  rcases ({ call.session with held := [call.guard] } : Session).release call.guard false with
    ⟨session, reply⟩
  cases reply with
  | _ => rfl

/-- A call never answers that its own stopwatch was misused. -/
lemma returned_usage (clients : Clients E L) (host : Host E L) (h : call.IsTimed)
    (result : Except Cause Json.Members) (session : Option Session) (e : UsageError) :
    (call.returned clients host result).2 ≠ .ended session (.answered (.error (.usage e))) := by
  unfold returned
  rw [releaseHeld_eq]
  cases (call.session.releaseHeld none).2 with
  | some message => exact nofun
  | none =>
    have hdropped : call.dropped.IsTimed := h
    obtain ⟨watch, hstop⟩ := hdropped.stopWatch_eq clients (call.pass clients host call.left).1
    dsimp only
    rw [hstop]
    dsimp only
    rw [releaseOwn_eq]
    split
    · exact nofun
    · rename_i host₃ call₃ heq
      intro hended
      cases result with
      | error cause => cases hended
      | ok members =>
        unfold answer at hended
        dsimp only at hended
        split at hended
        · cases hended
        · cases hended

/-- Whether the processor returns without a fault: what it held is dropped in order. -/
def DropsInOrder (call : Call) : Prop := (call.session.releaseHeld none).2 = none

/-- The call when its own stopwatch has been stopped, and may be `watch` now. -/
def stopped (call : Call) (watch : Stopwatch) : Call :=
  { call with session := call.measured, watch }

/-- The call when its own context has been released. -/
def unentered (call : Call) : Call := { call with session := call.freed.1 }

lemma freed_files (call : Call) : call.session.Files [] call.freed.1 := by
  have hheld : call.session.Files [] { call.session with held := [call.guard] } :=
    Session.files_of_scopes rfl rfl
  exact hheld.trans (Session.release_files _ call.guard false)

/-- What is left to do when nothing has failed so far. -/
lemma IsTimed.returned_eq (h : call.IsTimed) (hdrops : call.DropsInOrder) (clients : Clients E L)
    (host : Host E L) (result : Except Cause Json.Members) :
    ∃ watch host', host'.intake = (call.dropped.pass clients
        (call.pass clients host call.left).1 call.dropped.measured).1.intake ∧
      (∀ message, (call.dropped.stopped watch).freed.2 = .panicked message →
        call.returned clients host result =
          (call.dropped.stopped watch).unentered.panics host' message) ∧
      ((call.dropped.stopped watch).freed.2 = .done → call.returned clients host result =
        let (host, outcome) := (call.dropped.stopped watch).unentered.answer
          (host'.closeEvent clients call.event.id) result (.stopped watch call.dropped.interval)
        (host, .ended (some (call.dropped.stopped watch).unentered.session) outcome)) := by
  have hdropped : call.dropped.IsTimed := h
  obtain ⟨watch, hstop⟩ := hdropped.stopWatch_eq clients (call.pass clients host call.left).1
  have hown := releaseOwn_eq clients (call.dropped.pass clients
    (call.pass clients host call.left).1 call.dropped.measured).1 (call.dropped.stopped watch)
  unfold DropsInOrder at hdrops
  refine ⟨watch, ((call.dropped.stopped watch).pass clients (call.dropped.pass clients
    (call.pass clients host call.left).1 call.dropped.measured).1
      (call.dropped.stopped watch).freed.1).1, ?_, fun message hreply => ?_, fun hreply => ?_⟩
  · exact pass_intake clients _ _ (freed_files (call.dropped.stopped watch)).deliveries_eq
  · rw [hreply] at hown
    unfold returned
    rw [releaseHeld_eq, hdrops]
    dsimp only
    rw [hstop]
    dsimp only
    unfold stopped at hown
    rw [hown]
    rfl
  · rw [hreply] at hown
    unfold returned
    rw [releaseHeld_eq, hdrops]
    dsimp only
    rw [hstop]
    dsimp only
    unfold stopped at hown
    rw [hown]
    rfl

/-- What the stopwatch of a call records when a context is innermost. -/
lemma measured_files {top : Frame} (htop : (call.session.frames 0).head? = some top) :
    call.session.Files [⟨0, call.sample top.context.label⟩] call.measured := by
  have hrecorded : call.session.recorded 0 methodLabel call.interval =
      some ⟨0, call.sample top.context.label⟩ := by
    cases hscope : call.session.scope? 0 with
    | none => simp [Session.frames, hscope] at htop
    | some scope =>
      rw [Session.frames_of_scope hscope] at htop
      unfold Session.recorded
      rw [hscope, Option.bind_some, Scope.current?, htop]
      rfl
  have hfiles := call.session.record_files 0 methodLabel call.interval
  rw [hrecorded] at hfiles
  exact hfiles

/-- The sink of the call gets it. -/
lemma measured_deliveries {top : Frame} (htop : (call.session.frames 0).head? = some top)
    (hsink : call.session.sinkOf 0 = some sink) : call.measured.deliveries =
      call.session.deliveries ++ [⟨sink, 0, call.sample top.context.label⟩] := by
  have hfiles := measured_files htop
  obtain ⟨scope, hfound, -⟩ := Option.bind_eq_some_iff.mp hsink
  have hdelivery : call.measured.delivery? ⟨0, call.sample top.context.label⟩ =
      some ⟨sink, 0, call.sample top.context.label⟩ := by
    rw [Session.delivery?, hfiles.sinks 0 (Session.lt_of_scope hfound), hsink]
    rfl
  rw [hfiles.deliveries, List.filterMap_cons_some hdelivery, List.filterMap_nil]

lemma left_files (call : Call) : call.session.Files [] call.left :=
  (call.session.releaseAll_files none call.session.held).1

/-- What becomes of a call when its processor has returned. -/
structure Concludes (clients : Clients E L) (host : Host E L) (call : Call)
    (result : Except Cause Json.Members) (own : Frame) : Prop where
  bottom : ∃ inner, call.left.frames 0 = inner ++ [own]
  /-- If the processor has released all that it entered, then the call records a sample of its own
  after all others, hands it over, and answers. -/
  released : call.left.frames 0 = [own] → ∃ after final,
    call.returned clients host result =
      (after, .ended (some final) (answers call.event.id (final.samplesOf 0) result)) ∧
    final.samplesOf 0 = call.session.samplesOf 0 ++ [call.dropped.sample own.context.label] ∧
    final.deliveries =
      call.session.deliveries ++ [⟨sink, 0, call.dropped.sample own.context.label⟩] ∧
    after.intake = call.handed host (call.dropped.sample own.context.label)
  /-- Otherwise it panics, and what the processor left entered stays. -/
  entered : ∀ top inner, call.left.frames 0 = top :: inner ++ [own] → ∃ after final,
    call.returned clients host result = (after, .ended (some final)
      (.panicked (Session.releaseText own.context.label top.context.label))) ∧
    final.frames 0 = top :: inner

lemma measured_forgets {h : ContextHistory} {e : Guard × Context}
    (hforgets : call.session.Forgets h e) :
    call.measured.Forgets h e ∧ ∀ k, call.measured.frames k = call.session.frames k := by
  have hstep : Session.ContextStep call.session call.measured none :=
    Session.record_step call.session 0 methodLabel call.interval
  have hsame := hforgets.of_step hstep
    (by simpa using hforgets.records.keeps hstep)
  refine ⟨by simpa using hsame, ?_⟩
  cases hstep with
  | keeps frames next held => exact frames

/-- Only what has been taken in so far matters to what is taken in. -/
lemma handed_congr {host host' : Host E L} (h : host.intake = host'.intake) (call : Call)
    (sample : TimingSample) : call.handed host sample = call.handed host' sample := by
  obtain ⟨htiming, hreceived⟩ := Prod.mk.inj h
  unfold handed
  rw [htiming, hreceived]

lemma answer_eq (host : Host E L) (call : Call) (result : Except Cause Json.Members)
    (watch : Stopwatch) (interval : Span) :
    ∃ host', host'.intake = host.intake ∧ call.answer host result (.stopped watch interval) =
      (host', answers call.event.id (call.session.samplesOf 0) result) := by
  cases result with
  | error e => exact ⟨host, rfl, rfl⟩
  | ok members =>
    unfold answer answers
    dsimp only
    cases htimings : timings? (call.session.samplesOf 0) with
    | none =>
      have hfound : timings? (((call.session.scope? 0).map (·.samples)).getD []) = none := htimings
      rw [hfound]
      exact ⟨host, rfl, rfl⟩
    | some timing =>
      have hfound : timings? (((call.session.scope? 0).map (·.samples)).getD []) = some timing :=
        htimings
      rw [hfound]
      refine ⟨_, ?_, rfl⟩
      rfl

/-- The call's own context lies below whatever its processor left. -/
lemma concludes {h : ContextHistory} {e : Guard × Context} (hforgets : call.left.Forgets h e)
    (hguard : e.1 = call.guard) (hscope : e.1.scope = 0) (htimed : call.IsTimed)
    (hdrops : call.DropsInOrder) (hsink : call.left.sinkOf 0 = some sink) (clients : Clients E L)
    (host : Host E L) (result : Except Cause Json.Members) :
    call.Concludes clients host result (frameOf e) := by
  obtain ⟨inner, hinner, -⟩ := hforgets.frames
  rw [hscope] at hinner
  have hdropped : call.dropped.session.Forgets h e := hforgets
  obtain ⟨hmeasured, hframes⟩ := measured_forgets hdropped
  have hstack : call.dropped.measured.frames e.1.scope = inner ++ [frameOf e] := by
    rw [hscope, hframes]
    exact hinner
  obtain ⟨watch, host', hintake, hpanics, hanswers⟩ := htimed.returned_eq hdrops clients host result
  obtain ⟨hafter, hreply⟩ := hmeasured.release hstack
  rw [hscope] at hafter
  rw [hguard] at hafter hreply
  refine ⟨⟨inner, hinner⟩, fun hown => ?_, fun top rest hleft => ?_⟩
  · obtain rfl : inner = [] := by
      rw [hinner] at hown
      exact List.append_left_eq_self.mp hown
    have hdone : (call.dropped.stopped watch).freed.2 = .done := hreply
    have hreturned := hanswers hdone
    have htop : (call.dropped.session.frames 0).head? = some (frameOf e) := by
      change (call.left.frames 0).head? = _
      rw [hinner]
      rfl
    have hfreed := freed_files (call.dropped.stopped watch)
    obtain ⟨host₂, hanswered, hanswer⟩ := answer_eq (host'.closeEvent clients call.event.id)
      (call.dropped.stopped watch).unentered result watch call.dropped.interval
    dsimp only at hreturned
    rw [hanswer] at hreturned
    have hdeliveries := measured_deliveries htop hsink
    refine ⟨host₂, (call.dropped.stopped watch).freed.1, hreturned, ?_, ?_, ?_⟩
    · rw [hfreed.samples_eq, ← (left_files call).samples_eq]
      exact (measured_files htop).samples 0
    · rw [hfreed.deliveries_eq, ← (left_files call).deliveries_eq]
      exact hdeliveries
    · rw [hanswered, intake_closeEvent, hintake, pass_handed clients _ _ hdeliveries]
      exact handed_congr (pass_intake clients host call (left_files call).deliveries_eq) _ _
  · obtain rfl : inner = top :: rest := by
      rw [hinner] at hleft
      exact List.append_cancel_right hleft
    have hfault : (call.dropped.stopped watch).freed.2 =
        .panicked (Session.releaseText call.guard.label top.context.label) := hreply
    have hreturned := hpanics _ hfault
    have htext : call.guard.label = (frameOf e).context.label := by
      rw [← hguard]
      exact (hforgets.records.labels _ e hforgets.mem_entered).symm
    rw [htext] at hreturned
    exact ⟨_, _, hreturned, hafter⟩

/-- To drop what is held enters nothing. -/
lemma left_forgets {h : ContextHistory} {e : Guard × Context} (hforgets : call.session.Forgets h e)
    (hfew : h.LeavesNumbers) : ∃ h', call.left.Forgets h' e := by
  obtain ⟨os, hleft, hentered⟩ := Session.exists_releases call.session none call.session.held
  have hafter := hforgets.undergoAll os fun k => by
    rw [ContextHistory.entered_append, hentered, List.append_nil]
    exact hfew k
  rw [← hleft] at hafter
  exact ⟨_, hafter⟩

lemma nanos_sample (call : Call) (label : String) :
    (call.sample label).duration.nanos < UInt64.size :=
  Nat.lt_of_le_of_lt (Nat.sub_le _ _) (UInt64.toNat_lt _)

end Call

namespace ProcessorRunner

/-- The guard of the context that a runner enters for a call. -/
def ownGuard (r : ProcessorRunner) : Guard := ⟨0, 0, r.identity.id⟩

/-- The context that a runner enters for a call which it begins in a host. -/
def ownContext (r : ProcessorRunner) (host : Host E L) : Context :=
  ⟨r.identity.id, host.clocks.read r.manager.clock⟩

/-- What happens in the session of a call before its processor begins. -/
def opening (r : ProcessorRunner) (host : Host E L) : List Occurrence :=
  [.pass host.clocks host.today, .act (.openScope r.manager.clock (some Call.sink)),
    .act (.enter 0 r.identity.id)]

lemma prepare_forgets (r : ProcessorRunner) (host : Host E L) (number : Nat) (feeds : Bool)
    (event : Event) : (r.prepare host number feeds event).session.Forgets
      [.entered r.ownGuard (r.ownContext host)] (r.ownGuard, r.ownContext host) := by
  have hfew : (Session.fresh.chronicle (r.opening host)).LeavesNumbers :=
    .of_length (by decide : 1 < UInt64.size)
  -- The guard is not among those that the processor holds.
  have hgiven : (Session.fresh.undergoAll (r.opening host)).ContextStep
      (r.prepare host number feeds event).session none :=
    Session.keeps_of_scopes rfl (List.nil_sublist _)
  exact ⟨(Session.records_run hfew).keeps hgiven, ⟨[], rfl⟩, List.not_mem_nil, List.not_mem_nil⟩

/-- What becomes of a call with an event whose processor begins. -/
structure ConcludesCall (clients : Clients E L) (r : ProcessorRunner) (host : Host E L)
    (number : Nat) (feeds : Bool) (event : Event)
    (behaviour : Behaviour (Except Cause Json.Members)) : Prop where
  /-- A call goes on until its processor stops, and what becomes of it then is what follows. -/
  begins : (r.prepare host number feeds event).goOn clients host behaviour =
    ((r.prepare host number feeds event).work clients host behaviour).finish clients
  /-- It does so again whenever it is looked at when its time has come. -/
  resumes : ∀ os stop ms rest (now : Host E L),
    Call.Works clients host (r.prepare host number feeds event) behaviour os stop →
    stop.halt = .sleeping ms rest → stop.host.now + ms * 1000000 ≤ now.now →
    stop.finish clients = (stop.host, .waits (stop.later ms rest)) ∧
      (stop.later ms rest).resume clients now =
        ((stop.later ms rest).work clients now rest).finish clients
  /-- A call that has ended did so when its processor stopped. -/
  ends : ∀ come, Relation.ReflTransGen (Call.Looks clients)
      ((r.prepare host number feeds event).goOn clients host behaviour) come →
    ∀ session outcome, come.2 = .ended session outcome → ∃ os stop,
      Call.Works clients host (r.prepare host number feeds event) behaviour os stop ∧
      stop.finish clients = come
  /-- When the processor returns, the call concludes with its result, for the event that was
  opened, and under the context of the runner. -/
  concludes : ∀ os stop result,
    Call.Works clients host (r.prepare host number feeds event) behaviour os stop →
    stop.halt = .returned result → stop.call.DropsInOrder →
    ContextHistory.LeavesNumbers (.entered r.ownGuard (r.ownContext host) ::
      (r.prepare host number feeds event).session.chronicle os) →
    (r.prepare host number feeds event).Continues os stop.call ∧
      stop.finish clients = stop.call.returned clients stop.host result ∧
      stop.call.Concludes clients stop.host result ⟨0, r.ownContext host⟩
  /-- There is an answer exactly if the durations under each text of a key add up to a span. -/
  fits : ∀ os stop,
    Call.Works clients host (r.prepare host number feeds event) behaviour os stop → ∀ label,
      let samples := stop.call.session.samplesOf 0 ++ [stop.call.dropped.sample label]
      (∃ timings, Call.timings? samples = some timings) ↔ Call.AddUp samples
  /-- No sample is longer than a clock of 64 bits counts, so that less than a billion of them always
  do. -/
  few : ∀ os stop,
    Call.Works clients host (r.prepare host number feeds event) behaviour os stop →
    (stop.call.session.samplesOf 0).length < 1000000000 → ∀ label,
      Call.AddUp (stop.call.session.samplesOf 0 ++ [stop.call.dropped.sample label])

variable (clients : Clients E L) (r : ProcessorRunner) (host : Host E L) (number : Nat)
  (feeds : Bool) (event : Event) (behaviour : Behaviour (Except Cause Json.Members))

lemma prepare_files {os : List Occurrence} {call : Call}
    (h : (r.prepare host number feeds event).Continues os call) :
    call.session.sinkOf 0 = some Call.sink ∧
      ∀ sample ∈ call.session.samplesOf 0, sample.duration.nanos < UInt64.size := by
  obtain ⟨filings, hfiles, hshort⟩ :=
    (r.prepare host number feeds event).session.exists_files_undergoAll os
  rw [← h.session] at hfiles
  refine ⟨hfiles.sinks 0 Nat.zero_lt_one, fun sample hmem => ?_⟩
  rw [hfiles.samples] at hmem
  obtain ⟨f, hf, rfl⟩ := List.mem_map.mp hmem
  exact hshort f (List.mem_of_mem_filter hf)

lemma concludesCall : r.ConcludesCall clients host number feeds event behaviour where
  begins := Call.goOn_eq clients host _ behaviour
  resumes os stop ms rest now _ hhalt htime :=
    ⟨by rw [Call.Stop.finish, hhalt], Call.resume_later stop rest htime⟩
  ends come hcome session outcome hended := by
    obtain ⟨os, stop, hworks, -, hfinish⟩ := Call.exists_stop hcome
    exact ⟨os, stop, hworks, hfinish session outcome hended⟩
  concludes os stop result hworks hhalt hdrops hfew := by
    have hcontinues := hworks.continues
    have hforgets := (r.prepare_forgets host number feeds event).undergoAll os hfew
    rw [← hcontinues.session] at hforgets
    obtain ⟨h, hleft⟩ := Call.left_forgets hforgets hfew
    obtain ⟨hsink, -⟩ := r.prepare_files host number feeds event hcontinues
    have htimed : stop.call.IsTimed := ⟨_, _, hcontinues.watch⟩
    refine ⟨hcontinues, ?_, Call.concludes hleft hcontinues.guard.symm rfl htimed hdrops ?_ clients
      stop.host result⟩
    · rw [Call.Stop.finish, hhalt]
    · obtain ⟨scope, hfound, -⟩ := Option.bind_eq_some_iff.mp hsink
      rw [(Call.left_files stop.call).sinks 0 (Session.lt_of_scope hfound)]
      exact hsink
  fits os stop _ label := Call.exists_timings_iff _
  few os stop hworks hfew label := by
    obtain ⟨-, hshort⟩ := r.prepare_files host number feeds event hworks.continues
    apply Call.AddUp.of_total
    have hall : ∀ sample ∈ stop.call.session.samplesOf 0 ++ [stop.call.dropped.sample label],
        sample.duration.nanos < UInt64.size := by
      intro sample hmem
      rcases List.mem_append.mp hmem with hmem | hmem
      · exact hshort sample hmem
      · rw [List.mem_singleton.mp hmem]
        exact Call.nanos_sample _ label
    have htotal := Call.nanos_of_short hall
    rw [List.length_append, List.length_singleton] at htotal
    have hsize : UInt64.size = 0x10000000000000000 := rfl
    rw [hsize] at htotal
    omega

/-- What becomes of the calls that a runner begins. -/
structure ConcludesCalls (clients : Clients E L) (r : ProcessorRunner) (host : Host E L)
    (number : Nat) (feeds : Bool) (request : ProcessRequest) : Prop where
  /-- Without an event nothing is called and nothing is recorded. -/
  unopened : ∀ events e,
    clients.events.openEvent host.events request.eventId = (events, .error e) →
    r.beginCall clients host number feeds request =
      ({ host with events }, .ended none (.answered (.error (.eventsClient e))))
  opened : ∀ events event,
    clients.events.openEvent host.events request.eventId = (events, .ok event) →
    let begun : Host E L := { host with events, invocations := host.invocations + 1 }
    let behaviour := r.processor.work r.binding event request.params
    r.beginCall clients host number feeds request =
        (r.prepare begun number feeds event).goOn clients begun behaviour ∧
      r.ConcludesCall clients begun number feeds event behaviour
  /-- However often a call is looked at, its own stopwatch is never refused. -/
  unrefused : ∀ come,
    Relation.ReflTransGen (Call.Looks clients)
        (r.beginCall clients host number feeds request) come →
    ∀ session e, come.2 ≠ .ended session (.answered (.error (.usage e)))

lemma finish_usage {os : List Occurrence} {stop : Call.Stop E L}
    (h : Call.Works clients host (r.prepare host number feeds event) behaviour os stop)
    (session : Option Session) (e : UsageError) :
    (stop.finish clients).2 ≠ .ended session (.answered (.error (.usage e))) := by
  have htimed : stop.call.IsTimed := ⟨_, _, h.continues.watch⟩
  unfold Call.Stop.finish
  cases stop.halt with
  | returned result => exact Call.returned_usage clients stop.host htimed result session e
  | panicked message => exact nofun
  | sleeping ms rest => exact nofun
  | pending => exact nofun

/-- A call that a runner begins answers for the event that it opened, with what its processor
returned; and panics if the processor left contexts entered. -/
theorem calls_conclude (request : ProcessRequest) :
    r.ConcludesCalls clients host number feeds request where
  unopened events e hopen := by
    unfold beginCall
    rw [hopen]
  opened events event hopen := by
    refine ⟨?_, r.concludesCall clients _ number feeds event _⟩
    unfold beginCall
    rw [hopen]
  unrefused come hcome session e := by
    unfold beginCall at hcome
    rcases hopen : clients.events.openEvent host.events request.eventId with ⟨events, _ | event⟩
    · rw [hopen] at hcome
      rcases Relation.ReflTransGen.cases_head hcome with rfl | ⟨next, hlooks, -⟩
      · exact nofun
      · cases hlooks
    · rw [hopen] at hcome
      obtain ⟨os, stop, hworks, hfinish, -⟩ := Call.exists_stop hcome
      rw [← hfinish]
      exact finish_usage clients r _ number feeds event _ hworks session e

/-- Enters a context for every event, and leaves the context of one event entered. -/
def leaving : ProcessorRunner :=
  ⟨⟨"leaving", fun _ event _ => .act (.enter 0 "inner") fun _ =>
      if event.id = "left" then .act (.forget ⟨0, 1, "inner"⟩) fun _ => .returns (.ok [])
      else .returns (.ok [])⟩,
    ⟨"leaving"⟩, ⟨"leaving", .manual⟩, ⟨"leaving", "leaving"⟩⟩

def leavingHost : Host EventStore Lifecycle := .fresh .empty .empty CallWorld.quiet

theorem leaving_concludes :
    (∃ after final, leaving.beginCall ⟨EventStore.client, Lifecycle.client⟩ leavingHost 1 false
        ⟨"left", []⟩ = (after, .ended (some final)
          (.panicked "context `leaving` released while `inner` is the active context")) ∧
      final.frames 0 = [⟨1, ⟨"inner", 0⟩⟩]) ∧
    ∃ after final, leaving.beginCall ⟨EventStore.client, Lifecycle.client⟩ leavingHost 1 false
        ⟨"kept", []⟩ = (after, .ended (some final)
          (.answered (.ok ⟨"kept", [], [("leaving:process_method", .zero)]⟩))) ∧
      final.samplesOf 0 = [⟨⟨"leaving", "process_method"⟩, .zero, .epoch⟩] := by
  have hconcludes (eventId : String) := calls_conclude ⟨EventStore.client, Lifecycle.client⟩ leaving
    leavingHost 1 false ⟨eventId, []⟩
  constructor
  · obtain ⟨hbegins, hcall⟩ := (hconcludes "left").opened _ _ rfl
    obtain ⟨-, hfinish, hends⟩ := hcall.concludes _ _ (.ok []) .begins rfl rfl
      (.of_length (by decide))
    obtain ⟨after, final, hreturned, hframes⟩ := hends.entered ⟨1, ⟨"inner", 0⟩⟩ [] rfl
    rw [hbegins, hcall.begins]
    exact ⟨after, final, hfinish.trans hreturned, hframes⟩
  · obtain ⟨hbegins, hcall⟩ := (hconcludes "kept").opened _ _ rfl
    obtain ⟨-, hfinish, hends⟩ := hcall.concludes _ _ (.ok []) .begins rfl rfl
      (.of_length (by decide))
    obtain ⟨after, final, hreturned, hsamples, -⟩ := hends.released rfl
    rw [hbegins, hcall.begins]
    refine ⟨after, final, hfinish.trans (hreturned.trans ?_), hsamples⟩
    rw [hsamples]
    rfl

end ProcessorRunner

end ProcessorHost
