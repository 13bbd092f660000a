import ProcessorHost.Call.Call
import ProcessorHost.Proofs.Session.Attribution
import ProcessorHost.Proofs.Timing.CollectorHistory

/-!
# Where the samples of a call go

A call's scope is the first of its session, and the only one that has the sink of the call: a
processor does not know that sink. So what the call records in its scope is what the collector is
handed, in the same order, however the call goes on or ends; and the timings of an answer are
those of all that the call has recorded.
-/

namespace ProcessorHost

variable {E L : Type}

/-- A behaviour that opens no scope with the sink of the call. -/
def Behaviour.SparesSink {α : Type} : Behaviour α → Prop
  | returns _ => True
  | panics _ => True
  | act action next =>
    (∀ clock, action ≠ .openScope clock (some Call.sink)) ∧ ∀ reply, (next reply).SparesSink
  | look next => ∀ session, (next session).SparesSink
  | report _ next => next.SparesSink
  | health next => ∀ status, (next status).SparesSink
  | sleep _ next => next.SparesSink
  | pend => True

namespace Session

/-- The first scope has the sink of the call, and no other. -/
structure Feeding (s : Session) : Prop where
  first : s.sinkOf 0 = some Call.sink
  others : ∀ k, k ≠ 0 → s.sinkOf k ≠ some Call.sink

variable {s s' : Session} {filings : List Filing}

/-- What was filed in the first scope. -/
def fed (filings : List Filing) : List TimingSample :=
  (filings.filter fun f => f.scope = 0).map (·.sample)

/-- The sink of the call gets what is filed in the first scope. -/
lemma Feeding.delivered (hfeeding : s'.Feeding) (hfiles : s.Files filings s') :
    ((s'.deliveries.drop s.deliveries.length).filter fun d => d.sink = Call.sink).map (·.sample) =
      fed filings := by
  rw [hfiles.deliveries, List.drop_left]
  clear hfiles
  induction filings with
  | nil => rfl
  | cons f rest ih =>
    have hsplit : fed (f :: rest) = (if f.scope = 0 then [f.sample] else []) ++ fed rest := by
      unfold fed
      by_cases hf : f.scope = 0
      · simp [hf]
      · simp [hf]
    rw [hsplit, ← ih, List.filterMap_cons]
    unfold delivery?
    by_cases hf : f.scope = 0
    · rw [hf, hfeeding.first]
      simp
    · have hne := hfeeding.others f.scope hf
      cases hsink : s'.sinkOf f.scope with
      | none => simp [hf]
      | some sink =>
        rw [hsink] at hne
        have hne' : sink ≠ Call.sink := fun heq => hne (congrArg some heq)
        simp [hf, hne']

lemma Feeding.of_files (h : s.Feeding) (hfiles : s.Files filings s')
    (hlength : s'.scopes.length = s.scopes.length) : s'.Feeding := by
  have hsink (k : Nat) : s'.sinkOf k = s.sinkOf k := by
    by_cases hk : k < s.scopes.length
    · exact hfiles.sinks k hk
    · have hnone : s.scope? k = none := List.getElem?_eq_none (Nat.not_lt.mp hk)
      have hnone' : s'.scope? k = none := List.getElem?_eq_none (hlength ▸ Nat.not_lt.mp hk)
      unfold sinkOf
      rw [hnone, hnone']
  exact ⟨(hsink 0).trans h.first, fun k hk => (hsink k) ▸ h.others k hk⟩

lemma Feeding.openScope (h : s.Feeding) (clock : ClockSource) {sink : Option Nat}
    (hsink : sink ≠ some Call.sink) : (s.perform (.openScope clock sink)).1.Feeding := by
  have hpos : 0 < s.scopes.length := by
    by_contra hzero
    have hnone : s.scope? 0 = none := List.getElem?_eq_none (Nat.not_lt.mp hzero)
    have hfirst := h.first
    unfold sinkOf at hfirst
    rw [hnone] at hfirst
    cases hfirst
  have hsinks (k : Nat) : (s.perform (.openScope clock sink)).1.sinkOf k =
      if k = s.scopes.length then sink else s.sinkOf k := by
    unfold sinkOf scope? perform
    dsimp only
    rw [List.getElem?_append]
    by_cases hlt : k < s.scopes.length
    · rw [if_pos hlt, if_neg (Nat.ne_of_lt hlt)]
    · rw [if_neg hlt]
      split
      · rename_i heq
        simp [heq, Scope.fresh]
      · rename_i hne
        rw [List.getElem?_eq_none (Nat.not_lt.mp hlt), List.getElem?_eq_none]
        rw [List.length_singleton]
        omega
  refine ⟨?_, fun k hk => ?_⟩
  · rw [hsinks, if_neg (Nat.ne_of_lt hpos)]
    exact h.first
  · rw [hsinks]
    split
    · exact hsink
    · exact h.others k hk

lemma length_record (s : Session) (k : Nat) (stopwatch : String) (interval : Span) :
    (s.record k stopwatch interval).scopes.length = s.scopes.length := by
  unfold record
  split
  · rfl
  · split
    · rfl
    · dsimp only
      split
      · exact List.length_set
      · exact List.length_set

lemma length_release (s : Session) (guard : Guard) (unwinding : Bool) :
    (s.release guard unwinding).1.scopes.length = s.scopes.length := by
  unfold release
  split
  · rfl
  · split
    · dsimp only
      split
      · exact List.length_set
      · exact List.length_set
    · rfl

lemma length_enter (s : Session) (id : Nat) (label : String) :
    (s.enter id label).1.scopes.length = s.scopes.length := by
  unfold enter
  split
  · rfl
  · exact List.length_set

lemma length_exit (s : Session) (id : Nat) (guard : Guard) :
    (s.exit id guard).1.scopes.length = s.scopes.length := by
  unfold exit
  split
  · rfl
  · split
    · split
      · split
        · exact List.length_set
        · rfl
      · rfl
    · rfl

lemma length_newWatch (s : Session) (label : String) (source : WatchSource) (started : Bool) :
    (s.newWatch label source started).1.scopes.length = s.scopes.length := by
  unfold newWatch
  dsimp only
  split
  · rfl
  · split
    · rfl
    · rfl

lemma length_start (s : Session) (id : Nat) : (s.start id).1.scopes.length = s.scopes.length := by
  unfold start
  split
  · rfl
  · split
    · rfl
    · rfl

lemma length_stop (s : Session) (id : Nat) : (s.stop id).1.scopes.length = s.scopes.length := by
  unfold stop
  split
  · rfl
  · split
    · rfl
    · rfl
    · split
      · rfl
      · exact length_record _ _ _ _

/-- Scopes are only ever opened on purpose. -/
lemma length_perform {action : Action} (h : ∀ clock sink, action ≠ .openScope clock sink)
    (s : Session) : (s.perform action).1.scopes.length = s.scopes.length := by
  cases action with
  | openScope clock sink => exact absurd rfl (h clock sink)
  | advance amount => rfl
  | enter id label => exact length_enter s id label
  | exit id guard => exact length_exit s id guard
  | release guard => exact length_release s guard false
  | releaseUnwinding guard => exact length_release s guard true
  | newWatch label source started => exact length_newWatch s label source started
  | start id => exact length_start s id
  | stop id => exact length_stop s id
  | forget guard | reset id | dropWatch id =>
    unfold perform
    dsimp only
    split
    · rfl
    · rfl

lemma Feeding.perform (h : s.Feeding) {action : Action}
    (hspares : ∀ clock, action ≠ .openScope clock (some Call.sink)) :
    (s.perform action).1.Feeding := by
  by_cases hopens : ∃ clock sink, action = .openScope clock sink
  · obtain ⟨clock, sink, rfl⟩ := hopens
    refine h.openScope clock ?_
    rintro rfl
    exact hspares clock rfl
  · obtain ⟨filings, hfiles⟩ := s.exists_files action
    exact h.of_files hfiles (length_perform (fun clock sink heq => hopens ⟨clock, sink, heq⟩) s)

/-- Releasing guards files nothing. -/
lemma releaseAll_files (s : Session) (panic : Option String) (guards : List Guard) :
    s.Files [] (s.releaseAll panic guards).1 ∧
      (s.releaseAll panic guards).1.scopes.length = s.scopes.length := by
  induction guards generalizing s panic with
  | nil => exact ⟨Files.refl s, rfl⟩
  | cons guard rest ih =>
    have hfiles := s.release_files guard panic.isSome
    have hlength := s.length_release guard panic.isSome
    unfold releaseAll
    split
    · rename_i after message heq
      rw [heq] at hfiles hlength
      obtain ⟨hrest, hlength'⟩ := ih after (some message)
      exact ⟨hfiles.trans hrest, hlength'.trans hlength⟩
    · rename_i after reply hreply heq
      rw [heq] at hfiles hlength
      obtain ⟨hrest, hlength'⟩ := ih after panic
      exact ⟨hfiles.trans hrest, hlength'.trans hlength⟩

end Session

namespace Call

variable {clients : Clients E L} {host host' host'' : Host E L} {call call' call'' : Call}
  {new new' : List TimingSample}

/-- The samples that a call has recorded so far. -/
def recorded (call : Call) : List TimingSample := call.session.samplesOf 0

/-- A call whose samples go to the collector. -/
structure Feeding (call : Call) : Prop where
  feeds : call.feeds = true
  session : call.session.Feeding

/-- A call goes on and records samples, and the collector is handed them. -/
structure Flows (host : Host E L) (call : Call) (new : List TimingSample) (host' : Host E L)
    (call' : Call) : Prop where
  timing : host'.timing = host.timing.submitAll new
  recorded : call'.recorded = call.recorded ++ new
  feeding : call'.Feeding
  number : call'.number = call.number

lemma Flows.trans (h : Flows host call new host' call')
    (h' : Flows host' call' new' host'' call'') :
    Flows host call (new ++ new') host'' call'' where
  timing := by rw [h'.timing, h.timing, Collector.submitAll_append]
  recorded := by rw [h'.recorded, h.recorded, List.append_assoc]
  feeding := h'.feeding
  number := h'.number.trans h.number

lemma Flows.refl (host : Host E L) (h : call.Feeding) : Flows host call [] host call :=
  ⟨rfl, (List.append_nil _).symm, h, rfl⟩

lemma timing_deliver (clients : Clients E L) (hfeeds : call.feeds = true) (host : Host E L)
    (d : Delivery) : ((call.surroundings clients).deliver host d).timing =
      if d.sink = sink then (host.timing.submit d.sample).1 else host.timing := by
  unfold surroundings
  dsimp only
  by_cases hd : d.sink = sink
  · rw [if_pos hd, if_pos hd, if_pos hfeeds]
    exact host.timing_submit d.sample
  · rw [if_neg hd, if_neg hd]

lemma timing_deliverAll (clients : Clients E L) (hfeeds : call.feeds = true) (host : Host E L)
    (deliveries : List Delivery) :
    (deliveries.foldl (call.surroundings clients).deliver host).timing =
      host.timing.submitAll
        ((deliveries.filter fun d => d.sink = Call.sink).map (·.sample)) := by
  induction deliveries generalizing host with
  | nil => rfl
  | cons d rest ih =>
    rw [List.foldl_cons, ih, timing_deliver clients hfeeds]
    by_cases hd : d.sink = sink
    · rw [if_pos hd, List.filter_cons_of_pos (by simpa using hd)]
      rfl
    · rw [if_neg hd, List.filter_cons_of_neg (by simpa using hd)]

lemma timing_note (clients : Clients E L) (call : Call) (host : Host E L)
    (records : List LogRecord) :
    (records.foldl (call.surroundings clients).note host).timing = host.timing := by
  induction records generalizing host with
  | nil => rfl
  | cons record rest ih => exact ih _

/-- What a session gives out reaches the collector as far as the first scope filed it. -/
lemma timing_passOn (clients : Clients E L) (hfeeds : call.feeds = true) (host : Host E L)
    {s s' : Session} {filings : List Filing} (hfiles : s.Files filings s') (hfeeding : s'.Feeding)
    (records : Nat) :
    ((call.surroundings clients).passOn host s.deliveries.length records s').timing =
      host.timing.submitAll (Session.fed filings) := by
  unfold Surroundings.passOn
  dsimp only
  rw [timing_note, timing_deliverAll clients hfeeds, hfeeding.delivered hfiles]

/-- A behaviour records in the first scope what the collector is handed. -/
lemma run_flows {α : Type} (clients : Clients E L) (hfeeds : call.feeds = true) (host : Host E L)
    {s : Session} (hfeeding : s.Feeding) {behaviour : Behaviour α}
    (hspares : behaviour.SparesSink) :
    ∃ new, (behaviour.run (call.surroundings clients) host s).1.timing =
        host.timing.submitAll new ∧
      (behaviour.run (call.surroundings clients) host s).2.1.samplesOf 0 = s.samplesOf 0 ++ new ∧
      (behaviour.run (call.surroundings clients) host s).2.1.Feeding := by
  have hstops : ∃ new, host.timing = host.timing.submitAll new ∧
      s.samplesOf 0 = s.samplesOf 0 ++ new ∧ s.Feeding :=
    ⟨[], rfl, (List.append_nil _).symm, hfeeding⟩
  induction behaviour generalizing host s with
  | returns a => exact hstops
  | panics message => exact hstops
  | act action next ih =>
    obtain ⟨hnot, hnext⟩ := hspares
    obtain ⟨filings, hfiles⟩ := s.exists_files action
    have hafter := hfeeding.perform hnot
    have htiming := timing_passOn clients hfeeds host hfiles hafter s.log.length
    obtain ⟨new, htiming', hsamples, hfeeding'⟩ := ih (s.perform action).2
      ((call.surroundings clients).passOn host s.deliveries.length s.log.length
        (s.perform action).1) hafter (hnext _)
      ⟨[], rfl, (List.append_nil _).symm, hafter⟩
    refine ⟨Session.fed filings ++ new, ?_, ?_, hfeeding'⟩
    · rw [Collector.submitAll_append, ← htiming]
      exact htiming'
    · rw [← List.append_assoc]
      exact hsamples.trans (congrArg (· ++ new) (hfiles.samples 0))
  | look next ih => exact ih s host hfeeding (hspares s) hstops
  | report status next ih => exact ih _ hfeeding hspares hstops
  | health next ih => exact ih _ host hfeeding (hspares _) hstops
  | sleep ms next ih =>
    cases ms with
    | zero => exact ih host hfeeding hspares hstops
    | succ ms => exact hstops
  | pend => exact hstops

lemma pass_flows (clients : Clients E L) (host : Host E L) (h : call.Feeding) {session : Session}
    {filings : List Filing} (hfiles : call.session.Files filings session)
    (hlength : session.scopes.length = call.session.scopes.length) :
    Flows host call (Session.fed filings) (call.pass clients host session).1
      (call.pass clients host session).2 := by
  have hfeeding := h.session.of_files hfiles hlength
  exact ⟨timing_passOn clients h.feeds host hfiles hfeeding _, hfiles.samples 0,
    ⟨h.feeds, hfeeding⟩, rfl⟩

lemma releaseHeld_flows (clients : Clients E L) (host : Host E L) (h : call.Feeding)
    (panic : Option String) :
    Flows host call [] (call.releaseHeld clients host panic).1
      (call.releaseHeld clients host panic).2.1 := by
  obtain ⟨hfiles, hlength⟩ := call.session.releaseAll_files panic call.session.held
  exact pass_flows clients host h hfiles hlength

lemma releaseOwn_flows (clients : Clients E L) (host : Host E L) (h : call.Feeding)
    (panic : Option String) :
    Flows host call [] (call.releaseOwn clients host panic).1
      (call.releaseOwn clients host panic).2.1 := by
  have hheld : call.session.Files [] { call.session with held := [call.guard] } :=
    Session.files_of_scopes rfl rfl
  have hflows := pass_flows clients host h
    (hheld.trans (Session.release_files _ call.guard panic.isSome)) (Session.length_release _ _ _)
  unfold releaseOwn
  dsimp only
  split
  · exact hflows
  · exact hflows

lemma releaseAll_flows (clients : Clients E L) (host : Host E L) (h : call.Feeding)
    (panic : Option String) :
    Flows host call [] (call.releaseAll clients host panic).1
      (call.releaseAll clients host panic).2.1 := by
  have hheld := releaseHeld_flows clients host h panic
  exact hheld.trans (releaseOwn_flows clients _ hheld.feeding _)

lemma stopWatch_flows (clients : Clients E L) (host : Host E L) (h : call.Feeding) :
    ∃ new, Flows host call new (call.stopWatch clients host).1
      (call.stopWatch clients host).2.1 := by
  unfold stopWatch
  dsimp only
  split
  · rename_i watch interval _
    obtain ⟨htiming, hrecorded, hfeeding, hnumber⟩ := pass_flows clients host h
      (call.session.record_files 0 watch.label interval) (Session.length_record _ _ _ _)
    exact ⟨_, htiming, hrecorded, ⟨hfeeding.feeds, hfeeding.session⟩, hnumber⟩
  · exact ⟨[], Flows.refl host h⟩

lemma timing_closeEvent (clients : Clients E L) (host : Host E L) (id : String) :
    (host.closeEvent clients id).timing = host.timing := by
  unfold Host.closeEvent
  split
  · rfl
  · rfl

/-- An answer that is not an error lists the timings of the call. -/
lemma answer_timings (host : Host E L) (call : Call) (result : Except Cause Json.Members)
    (stopped : StopOutcome) :
    (call.answer host result stopped).1.timing = host.timing ∧
      ∀ response, (call.answer host result stopped).2 = .answered (.ok response) →
        timings? call.recorded = some response.timing := by
  unfold answer
  split
  · exact ⟨rfl, fun response h => by cases h⟩
  · exact ⟨rfl, fun response h => by cases h⟩
  · split
    · exact ⟨rfl, fun response h => by cases h⟩
    · rename_i timing htiming
      refine ⟨rfl, fun response h => ?_⟩
      cases h
      exact htiming

/-- What has become of the samples when a call stops for the time being. -/
inductive SampleProgress (host : Host E L) (call : Call) (host' : Host E L) : CallProgress → Prop
  | waits {call' : Call} (new : List TimingSample) (flows : Flows host call new host' call') :
      SampleProgress host call host' (.waits call')
  | ended {session : Session} {outcome : CallOutcome} (new : List TimingSample)
      (timing : host'.timing = host.timing.submitAll new)
      (recorded : session.samplesOf 0 = call.recorded ++ new)
      (answers : ∀ response, outcome = .answered (.ok response) →
        timings? (session.samplesOf 0) = some response.timing) :
      SampleProgress host call host' (.ended (some session) outcome)

lemma SampleProgress.of_flows {progress : CallProgress}
    (h : SampleProgress host' call' host'' progress) (flows : Flows host call new host' call') :
    SampleProgress host call host'' progress := by
  cases h with
  | waits new' flows' => exact .waits _ (flows.trans flows')
  | ended new' timing recorded answers =>
    refine .ended (new ++ new') ?_ ?_ answers
    · rw [timing, flows.timing, Collector.submitAll_append]
    · rw [recorded, flows.recorded, List.append_assoc]

lemma panics_flows (host : Host E L) (call : Call) (message : String) :
    SampleProgress host call (call.panics host message).1 (call.panics host message).2 :=
  .ended [] rfl (List.append_nil _).symm fun response h => by cases h

lemma returned_flows (clients : Clients E L) (host : Host E L) (h : call.Feeding)
    (result : Except Cause Json.Members) :
    SampleProgress host call (call.returned clients host result).1
      (call.returned clients host result).2 := by
  unfold returned
  -- Three ways to panic, and then one to answer.
  have hheld := releaseHeld_flows clients host h none
  split
  · rename_i host₁ call₁ message heq
    rw [heq] at hheld
    have hown := releaseOwn_flows clients host₁ hheld.feeding (some message)
    exact (panics_flows _ _ message).of_flows (hheld.trans hown)
  · rename_i host₁ call₁ heq
    rw [heq] at hheld
    obtain ⟨new, hwatch⟩ := stopWatch_flows clients host₁ hheld.feeding
    split
    · rename_i host₂ call₂ watch heq₂
      rw [heq₂] at hwatch
      have hown := releaseOwn_flows clients host₂ hwatch.feeding (some Span.overflowText)
      exact (panics_flows _ _ _).of_flows ((hheld.trans hwatch).trans hown)
    · rename_i host₂ call₂ stopped hstopped heq₂
      rw [heq₂] at hwatch
      have hown := releaseOwn_flows clients host₂ hwatch.feeding none
      split
      · rename_i host₃ call₃ message heq₃
        rw [heq₃] at hown
        exact (panics_flows _ _ message).of_flows ((hheld.trans hwatch).trans hown)
      · rename_i host₃ call₃ heq₃
        rw [heq₃] at hown
        obtain ⟨htiming, hanswers⟩ := answer_timings (host₃.closeEvent clients call₃.event.id)
          call₃ result stopped
        refine SampleProgress.of_flows (.ended [] ?_ (List.append_nil _).symm hanswers)
          ((hheld.trans hwatch).trans hown)
        exact htiming.trans (timing_closeEvent clients host₃ _)

/-- Whatever the processor does, the collector is handed what the call records. -/
theorem goOn_flows (clients : Clients E L) (host : Host E L) (h : call.Feeding)
    {behaviour : Behaviour (Except Cause Json.Members)} (hspares : behaviour.SparesSink) :
    SampleProgress host call (call.goOn clients host behaviour).1
      (call.goOn clients host behaviour).2 := by
  unfold goOn
  dsimp only
  have hfeeding : ({ call.session with clocks := host.clocks, today := host.today } :
      Session).Feeding := ⟨h.session.first, h.session.others⟩
  obtain ⟨new, htiming, hsamples, hafter⟩ := run_flows clients h.feeds host hfeeding hspares
  cases hbehaviour : behaviour.run (call.surroundings clients) host
    { call.session with clocks := host.clocks, today := host.today } with
  | mk host₁ stopped =>
    obtain ⟨session, halt⟩ := stopped
    rw [hbehaviour] at htiming hsamples hafter
    have hflows (rest : Behaviour (Except Cause Json.Members)) (wake : Option Nat) :
        Flows host call new { host₁ with clocks := session.clocks }
          { call with session, rest, wake } :=
      ⟨htiming, hsamples, ⟨h.feeds, hafter⟩, rfl⟩
    cases halt with
    | returned result =>
      exact (returned_flows clients _ (hflows call.rest call.wake).feeding result).of_flows
        (hflows call.rest call.wake)
    | panicked message =>
      have hall := releaseAll_flows clients { host₁ with clocks := session.clocks }
        (hflows call.rest call.wake).feeding (some message)
      exact (panics_flows _ _ message).of_flows ((hflows call.rest call.wake).trans hall)
    | sleeping ms rest => exact .waits new (hflows rest _)
    | pending => exact .waits new (hflows .pend none)

/-- A call that is broken off records nothing more. -/
lemma breakOff_timing (clients : Clients E L) (host : Host E L) (h : call.Feeding) :
    (call.breakOff clients host).1.timing = host.timing :=
  (releaseAll_flows clients host h none).timing

/-- A call that has just been made has recorded nothing. -/
lemma prepare_feeding (r : ProcessorRunner) (host : Host E L) (number : Nat) (event : Event) :
    (r.prepare host number true event).Feeding ∧
      (r.prepare host number true event).recorded = [] := by
  refine ⟨⟨rfl, rfl, fun k hk => ?_⟩, rfl⟩
  cases k with
  | zero => exact absurd rfl hk
  | succ k =>
    change none ≠ some sink
    exact (Option.some_ne_none sink).symm

end Call

end ProcessorHost
