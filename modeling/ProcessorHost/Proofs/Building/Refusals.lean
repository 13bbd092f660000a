import ProcessorHost.Host.Executor
import ProcessorHost.Proofs.Building.Working
import ProcessorHost.Proofs.Net.Resolution
import ProcessorHost.Proofs.Serving.Undisturbed
import ProcessorHost.Proofs.Timing.GivenUp

/-!
# Builds that are refused

A build is refused exactly if something is wrong with the options and overrides, and reports what
is looked at first. The processor is bound all the same, unless there is none. The clients of a
host have no part in it, and a collector that was started for nothing ends by itself.
-/

namespace ProcessorHost

variable {E L : Type}

namespace Executor

/-- What a host with nothing to do but to run its collector's worker does first. -/
lemma wakeAll_idle (host : Host E L) (timers : List (Nat × Option Activity))
    (horphans : host.orphans = []) : (⟨host, [], timers, []⟩ : Executor E L).wakeAll =
      ⟨host, if (host.timing.worker.next? Ledger.runnable host.now).isSome then [.timing] else [],
        timers, []⟩ := by
  unfold wakeAll wake
  by_cases hnext : (host.timing.worker.next? Ledger.runnable host.now).isSome
  · simp [hnext, horphans]
  · simp [hnext, horphans]

/-- Where there are no requests and no leases to give back, nothing is asked of the clients. -/
lemma settle_untouched (clients : Clients E L) (server : Server) (fuel : Nat) (e : Executor E L)
    (hbackground : e.background = []) (horphans : e.host.orphans = []) :
    (e.settle clients server fuel).host.events = e.host.events ∧
      (e.settle clients server fuel).host.lifecycle = e.host.lifecycle ∧
      (e.settle clients server fuel).host.invocations = e.host.invocations := by
  -- Each round lets the collector's worker run, and any other task finds nothing to do.
  induction fuel generalizing e with
  | zero => exact ⟨rfl, rfl, rfl⟩
  | succ fuel ih =>
    obtain ⟨hhost, hwoken⟩ := Prod.mk.inj (content_wakeAll e)
    unfold settle
    dsimp only
    split
    · rw [hhost]
      exact ⟨rfl, rfl, rfl⟩
    · rename_i task rest _
      rw [← hhost] at horphans ⊢
      rw [← hwoken] at hbackground
      cases task with
      | timing => exact ih _ hbackground horphans
      | close =>
        have hnone : e.wakeAll.host.closeOrphan clients = e.wakeAll.host := by
          unfold Host.closeOrphan
          rw [horphans]
        have hafter := ih { e.wakeAll with ready := rest } hbackground horphans
        unfold run
        rwa [hnone]
      | job number =>
        have hnone :
            ({ e.wakeAll with ready := rest } : Executor E L).background? number = none := by
          unfold background?
          rw [hbackground]
          rfl
        have hafter := ih { e.wakeAll with ready := rest } hbackground horphans
        unfold run
        dsimp only
        rwa [hnone]

end Executor

namespace Collector

/-- A collector that needs nobody to end, once anything runs. -/
structure EndsAlone (c : Collector) : Prop where
  /-- Whatever moves the worker makes at whatever times: its hook is called once at most, in the
  end, when the queue is closed. -/
  once : ∀ moves : List (WorkerMove × Nat), ((WorkerHistory.of c.worker).after Ledger.runnable
    (moves.map fun m => .move m.1 m.2)).Leaves
  /-- It does not get stuck before. -/
  goes_on : ∀ moves : List (WorkerMove × Nat),
    let h := (WorkerHistory.of c.worker).after Ledger.runnable (moves.map fun m => .move m.1 m.2)
    h.worker.phase ≠ .ended → ∀ now, ∃ move, move ≠ .tick ∧
      (h.worker.move? Ledger.runnable now move).isSome
  /-- In a host that does nothing else it is gone at once, and reports so. -/
  at_once : ∀ (E L : Type) (clients : Clients E L) (server : Server) (host : Host E L),
    host.timing = c → host.orphans = [] → ∀ fuel, ∃ gone : Collector, gone.IsGone ∧
      (⟨host, [], [], []⟩ : Executor E L).settle clients server (fuel + 1) =
        ⟨{ host with timing := gone, log := host.log ++ [TimingAggregate.empty.farewell] },
          [], [], []⟩

lemma settle_gone (clients : Clients E L) (server : Server) (host : Host E L)
    (hgone : host.timing.IsGone) (horphans : host.orphans = []) (fuel : Nat) :
    (⟨host, [], [], []⟩ : Executor E L).settle clients server fuel = ⟨host, [], [], []⟩ := by
  cases fuel with
  | zero => rfl
  | succ fuel =>
    unfold Executor.settle
    rw [Executor.wakeAll_idle host [] horphans, Worker.next?_ended hgone.phase]
    rfl

lemma endsAlone_abandon {config : TimingConfig} {c : Collector} {record : LogRecord}
    (hstart : start config = .ok (c, record))
    (hinterval : config.reportInterval.map (·.nanos) ≠ some 0) : c.abandon.EndsAlone := by
  have hleaving := WorkerHistory.IsLeaving.of_start hstart hinterval
  refine ⟨fun moves => (hleaving.after moves).leaves,
    fun moves => (hleaving.after moves).goes_on, ?_⟩
  intro E L clients server host htiming horphans fuel
  obtain ⟨gone, hpoll, hgone⟩ := poll_abandon hstart hinterval host.now
  refine ⟨gone, hgone, ?_⟩
  obtain ⟨nextTick, -, hnext⟩ := next?_abandon hstart hinterval host.now
  have hpolled : host.pollTiming =
      { host with timing := gone, log := host.log ++ [TimingAggregate.empty.farewell] } := by
    unfold Host.pollTiming
    rw [htiming, hpoll]
    rfl
  have hwake : gone.worker.wake? = none := by
    unfold Worker.wake?
    rw [hgone.phase]
  unfold Executor.settle
  rw [Executor.wakeAll_idle host [] horphans, htiming,
    if_pos (Option.isSome_of_eq_some hnext)]
  dsimp only
  unfold Executor.run
  rw [hpolled]
  dsimp only
  rw [hwake]
  exact settle_gone clients server
    { host with timing := gone, log := host.log ++ [TimingAggregate.empty.farewell] } hgone
    horphans fuel

end Collector

namespace Builder

/-- The processor that is hosted. -/
def chosen (b : Builder) : Option Processor := b.overrides.processor.or b.options.processor

/-- What is wrong with the place where the server is to listen. -/
inductive Misplaced (b : Builder) (lookup : Net.HostLookup) : ConfigError → Prop
  | absent (hbuilder : b.overrides.serverBuilder = none) (haddress : b.options.address = none) :
      Misplaced b lookup .missingAddress
  | blank {host : String} (hbuilder : b.overrides.serverBuilder = none)
      (haddress : b.options.address = some host) (hblank : Text.IsBlank host) :
      Misplaced b lookup .missingAddress
  | unresolved {host reason : String} (hbuilder : b.overrides.serverBuilder = none)
      (haddress : b.options.address = some host) (hblank : ¬ Text.IsBlank host)
      (hreason : Net.Unresolved lookup (Text.trim host) reason) :
      Misplaced b lookup (.invalidAddress (Net.placeText host b.options.port) reason)

/-- Something that is wrong, by the error that tells of it. -/
inductive Wrong (b : Builder) (site : BuildSite) : ConfigError → Prop
  | processor (hoverride : b.overrides.processor = none) (hoption : b.options.processor = none) :
      Wrong b site .missingProcessor
  | queue (hservice : b.overrides.service = none) (hcapacity : b.options.timing.queueCapacity = 0) :
      Wrong b site .invalidTimingQueue
  | runtime (hservice : b.overrides.service = none) (hruntime : site.runtime = false) :
      Wrong b site .runtimeUnavailable
  | place {e : ConfigError} (hplace : b.Misplaced site.lookup e) : Wrong b site e

/-- The order in which things are looked at. -/
def rank : ConfigError → Nat
  | .missingProcessor => 0
  | .invalidTimingQueue => 1
  | .runtimeUnavailable => 2
  | .missingAddress => 3
  | .invalidAddress .. => 4
  | .missingService => 5

/-- What is wrong and looked at before everything else that is wrong. -/
structure FirstWrong (b : Builder) (site : BuildSite) (e : ConfigError) : Prop where
  wrong : b.Wrong site e
  first : ∀ e', b.Wrong site e' → rank e ≤ rank e'

variable {b : Builder} {site : BuildSite} {e e' : ConfigError}

lemma map_eq_error_iff {α β : Type} {x : Except ConfigError α} {f : α → β} :
    x.map f = .error e ↔ x = .error e := by
  cases x with
  | ok a => exact ⟨nofun, nofun⟩
  | error e' => simp [Except.map]

lemma listening_eq_error_iff (lookup : Net.HostLookup) :
    b.listening lookup = .error e ↔ b.Misplaced lookup e := by
  unfold listening
  split
  · rename_i builder hbuilder
    refine ⟨nofun, ?_⟩
    rintro (⟨hnone, -⟩ | ⟨hnone, -, -⟩ | ⟨hnone, -, -, -⟩)
    all_goals cases hbuilder.symm.trans hnone
  · rename_i hbuilder
    split
    · rename_i haddress
      constructor
      · intro herror
        cases herror
        exact .absent hbuilder haddress
      · rintro (⟨-, -⟩ | ⟨-, hsome, -⟩ | ⟨-, hsome, -, -⟩)
        · rfl
        · cases haddress.symm.trans hsome
        · cases haddress.symm.trans hsome
    · rename_i host haddress
      unfold Net.ServerBuilder.forAddress
      rw [map_eq_error_iff, map_eq_error_iff, Net.Endpoint.resolve_eq_error_iff]
      constructor
      · rintro (⟨hblank, rfl⟩ | ⟨hblank, reason, hreason, rfl⟩)
        · exact .blank hbuilder haddress hblank
        · exact .unresolved hbuilder haddress hblank hreason
      · rintro (⟨-, hnone⟩ | ⟨-, hsome, hblank⟩ | ⟨-, hsome, hblank, hreason⟩)
        · cases haddress.symm.trans hnone
        · cases haddress.symm.trans hsome
          exact .inl ⟨hblank, rfl⟩
        · cases haddress.symm.trans hsome
          exact .inr ⟨hblank, _, hreason, rfl⟩

lemma Misplaced.le_rank (h : b.Misplaced site.lookup e) : 3 ≤ rank e := by
  cases h with
  | absent => exact Nat.le_refl 3
  | blank => exact Nat.le_refl 3
  | unresolved => exact Nat.le_succ 3

lemma Misplaced.unique (h : b.Misplaced site.lookup e) (h' : b.Misplaced site.lookup e') :
    e = e' := by
  rw [← listening_eq_error_iff] at h h'
  exact Except.error.inj (h.symm.trans h')

/-- Two things that are wrong and looked at together are the same. -/
lemma Wrong.eq_of_rank (h : b.Wrong site e) (h' : b.Wrong site e') (hrank : rank e = rank e') :
    e = e' := by
  -- Ranks tell all errors apart but those of the place, and a place is wrong in one way only.
  cases h with
  | place hplace =>
    cases h' with
    | place hplace' => exact hplace.unique hplace'
    | _ =>
      have hle := hplace.le_rank
      rw [hrank] at hle
      exact absurd hle (by decide)
  | _ =>
    cases h' with
    | place hplace' =>
      have hle := hplace'.le_rank
      rw [← hrank] at hle
      exact absurd hle (by decide)
    | _ => first | rfl | cases hrank

lemma FirstWrong.unique (h : b.FirstWrong site e) (h' : b.FirstWrong site e') : e = e' :=
  h.wrong.eq_of_rank h'.wrong (Nat.le_antisymm (h.first e' h'.wrong) (h'.first e h.wrong))

/-- Everything that a build may come to, as long as its timing queue is not too long. -/
inductive Comes (b : Builder) (site : BuildSite) (made : Build) : Prop
  | unhosted (hchosen : b.chosen = none) (houtcome : made.outcome = .refused .missingProcessor)
      (hbinds : made.binds = []) (htiming : made.timing = none)
  | queueless (processor : Processor) (binding : ProcessorBinding)
      (hchosen : b.chosen = some processor) (hservice : b.overrides.service = none)
      (hcapacity : b.options.timing.queueCapacity = 0)
      (houtcome : made.outcome = .refused .invalidTimingQueue)
      (hbinds : made.binds = [(processor, binding)]) (htiming : made.timing = none)
  | offline (processor : Processor) (binding : ProcessorBinding)
      (hchosen : b.chosen = some processor) (hservice : b.overrides.service = none)
      (hcapacity : b.options.timing.queueCapacity ≠ 0) (hruntime : site.runtime = false)
      (houtcome : made.outcome = .refused .runtimeUnavailable)
      (hbinds : made.binds = [(processor, binding)]) (htiming : made.timing = none)
  | misplaced (processor : Processor) (binding : ProcessorBinding) (e : ConfigError)
      (hchosen : b.chosen = some processor)
      (hready : b.overrides.service = none →
        b.options.timing.queueCapacity ≠ 0 ∧ site.runtime = true)
      (hlistening : b.listening site.lookup = .error e) (houtcome : made.outcome = .refused e)
      (hbinds : made.binds = [(processor, binding)])
      (htiming : ∀ timing, made.timing = some timing →
        ∃ c record, Collector.start b.options.timing = .ok (c, record) ∧ timing = c.abandon)
  | built (processor : Processor) (binding : ProcessorBinding) (graph : Graph)
      (hchosen : b.chosen = some processor)
      (hready : b.overrides.service = none →
        b.options.timing.queueCapacity ≠ 0 ∧ site.runtime = true)
      (hlistening : ∀ e, b.listening site.lookup ≠ .error e)
      (houtcome : made.outcome = .built graph)
      (hbinds : made.binds = [(processor, binding)])

lemma build_of_service {processor : Processor} {service : ProcessorService}
    (hchosen : b.chosen = some processor) (hservice : b.overrides.service = some service) :
    b.Comes site (b.build site) := by
  have hready : b.overrides.service = none →
      b.options.timing.queueCapacity ≠ 0 ∧ site.runtime = true := by
    intro hnone
    cases hservice.symm.trans hnone
  unfold chosen at hchosen
  unfold build complete
  rw [hchosen, hservice]
  cases hlistening : b.listening site.lookup with
  | error e => exact .misplaced processor _ e hchosen hready hlistening rfl rfl nofun
  | ok place =>
    refine .built processor _ _ hchosen hready ?_ rfl rfl
    rw [hlistening]
    exact nofun

lemma build_of_own {processor : Processor} (hchosen : b.chosen = some processor)
    (hservice : b.overrides.service = none)
    (hcapacity : b.options.timing.queueCapacity ≤ Worker.capacityLimit) :
    b.Comes site (b.build site) := by
  unfold chosen at hchosen
  unfold build complete
  rw [hchosen, hservice]
  dsimp only
  split
  · rename_i hzero
    exact .queueless processor _ hchosen hservice hzero rfl rfl rfl
  · rename_i hzero
    split
    · rename_i hruntime
      exact .offline processor _ hchosen hservice hzero (by simpa using hruntime) rfl rfl rfl
    · rename_i hruntime
      have hready : b.overrides.service = none →
          b.options.timing.queueCapacity ≠ 0 ∧ site.runtime = true :=
        fun _ => ⟨hzero, by simpa using hruntime⟩
      obtain ⟨c, record, hstart⟩ := exists_start hzero hcapacity
      rw [hstart]
      dsimp only
      cases hlistening : b.listening site.lookup with
      | error e =>
        refine .misplaced processor _ e hchosen hready hlistening rfl rfl ?_
        intro timing htiming
        exact ⟨c, record, hstart, (Option.some.inj htiming).symm⟩
      | ok place =>
        refine .built processor _ _ hchosen hready ?_ rfl rfl
        rw [hlistening]
        exact nofun

theorem build_comes (hcapacity : b.options.timing.queueCapacity ≤ Worker.capacityLimit) :
    b.Comes site (b.build site) := by
  cases hchosen : b.chosen with
  | none =>
    have hnone : b.overrides.processor.or b.options.processor = none := hchosen
    unfold build
    rw [hnone]
    exact .unhosted hchosen rfl rfl rfl
  | some processor =>
    cases hservice : b.overrides.service with
    | none => exact build_of_own hchosen hservice hcapacity
    | some service => exact build_of_service hchosen hservice

lemma processor_ne_none {processor : Processor} (hchosen : b.chosen = some processor)
    (hoverride : b.overrides.processor = none) : b.options.processor ≠ none := by
  intro hoption
  cases hchosen.symm.trans (Option.or_eq_none_iff.mpr ⟨hoverride, hoption⟩)

lemma Wrong.one_le_rank {processor : Processor} (hchosen : b.chosen = some processor)
    (h : b.Wrong site e) : 1 ≤ rank e := by
  cases h with
  | processor hoverride hoption => exact absurd hoption (processor_ne_none hchosen hoverride)
  | queue => exact Nat.le_refl 1
  | runtime => exact Nat.le_succ 1
  | place hplace => exact Nat.le_trans (by decide) hplace.le_rank

/-- Once the processor and the service are there, only the place can be wrong. -/
lemma Wrong.misplaced {processor : Processor} (hchosen : b.chosen = some processor)
    (hready : b.overrides.service = none →
      b.options.timing.queueCapacity ≠ 0 ∧ site.runtime = true)
    (h : b.Wrong site e) : b.Misplaced site.lookup e := by
  cases h with
  | processor hoverride hoption => exact absurd hoption (processor_ne_none hchosen hoverride)
  | queue hservice hcapacity => exact absurd hcapacity (hready hservice).1
  | runtime hservice hruntime =>
    rw [(hready hservice).2] at hruntime
    cases hruntime
  | place hplace => exact hplace

lemma Comes.firstWrong {made : Build} (hcomes : b.Comes site made)
    (hrefused : made.outcome = .refused e) : b.FirstWrong site e := by
  cases hcomes with
  | unhosted hchosen houtcome =>
    cases hrefused.symm.trans houtcome
    obtain ⟨hoverride, hoption⟩ := Option.or_eq_none_iff.mp hchosen
    exact ⟨.processor hoverride hoption, fun e' _ => Nat.zero_le _⟩
  | queueless processor binding hchosen hservice hcapacity houtcome =>
    cases hrefused.symm.trans houtcome
    exact ⟨.queue hservice hcapacity, fun e' hwrong => hwrong.one_le_rank hchosen⟩
  | offline processor binding hchosen hservice hcapacity hruntime houtcome =>
    cases hrefused.symm.trans houtcome
    refine ⟨.runtime hservice hruntime, fun e' hwrong => ?_⟩
    cases hwrong with
    | processor hoverride hoption => exact absurd hoption (processor_ne_none hchosen hoverride)
    | queue _ hzero => exact absurd hzero hcapacity
    | runtime => exact Nat.le_refl _
    | place hplace => exact Nat.le_trans (by decide) hplace.le_rank
  | misplaced processor binding e₀ hchosen hready hlistening houtcome =>
    cases hrefused.symm.trans houtcome
    have hplace := (listening_eq_error_iff _).mp hlistening
    refine ⟨.place hplace, fun e' hwrong => ?_⟩
    rw [hplace.unique (hwrong.misplaced hchosen hready)]
  | built processor binding graph hchosen hready hlistening houtcome =>
    cases hrefused.symm.trans houtcome

lemma Comes.outcome_cases {made : Build} (hcomes : b.Comes site made) :
    (∃ e, made.outcome = .refused e) ∨
      (∃ graph, made.outcome = .built graph) ∧ ∀ e, ¬ b.Wrong site e := by
  cases hcomes with
  | unhosted hchosen houtcome => exact .inl ⟨_, houtcome⟩
  | queueless processor binding hchosen hservice hcapacity houtcome => exact .inl ⟨_, houtcome⟩
  | offline processor binding hchosen hservice hcapacity hruntime houtcome =>
    exact .inl ⟨_, houtcome⟩
  | misplaced processor binding e hchosen hready hlistening houtcome => exact .inl ⟨_, houtcome⟩
  | built processor binding graph hchosen hready hlistening houtcome =>
    refine .inr ⟨⟨graph, houtcome⟩, fun e hwrong => hlistening e ?_⟩
    exact (listening_eq_error_iff _).mpr (hwrong.misplaced hchosen hready)

/-- When a build is refused, and what it leaves behind. -/
structure RefusesFirst (b : Builder) (site : BuildSite) : Prop where
  refused_iff : ∀ e, (b.build site).outcome = .refused e ↔ b.FirstWrong site e
  built_iff : (∃ graph, (b.build site).outcome = .built graph) ↔ ∀ e, ¬ b.Wrong site e
  /-- The processor is bound once, unless there is none. -/
  bound : ∀ processor, b.chosen = some processor →
    ∃ binding, (b.build site).binds = [(processor, binding)]
  unbound : b.chosen = none → (b.build site).binds = []
  /-- What the clients keep is as it was, also when the collector that was started has run. -/
  untouched : ∀ timing, (b.build site).timing = some timing →
    ∀ (E L : Type) (clients : Clients E L) (server : Server) (events : E) (lifecycle : L) fuel,
      let host := ((⟨Host.fresh events lifecycle timing, [], [], []⟩ : Executor E L).settle
        clients server fuel).host
      host.events = events ∧ host.lifecycle = lifecycle ∧ host.invocations = 0
  /-- A collector that was started for nothing ends by itself. -/
  abandoned : ∀ e timing, (b.build site).outcome = .refused e →
    (b.build site).timing = some timing → timing.EndsAlone

/-- A build is refused exactly for what is wrong, and nothing of it goes on. -/
theorem refuses_first_wrong
    (hcapacity : b.options.timing.queueCapacity ≤ Worker.capacityLimit)
    (hinterval : b.options.timing.reportInterval.map (·.nanos) ≠ some 0) :
    b.RefusesFirst site := by
  have hcomes : b.Comes site (b.build site) := build_comes hcapacity
  refine ⟨fun e => ⟨hcomes.firstWrong, fun hfirst => ?_⟩, ⟨?_, fun hnone => ?_⟩, ?_, ?_, ?_, ?_⟩
  · rcases hcomes.outcome_cases with ⟨e', hrefused⟩ | ⟨-, hnone⟩
    · rw [hfirst.unique (hcomes.firstWrong hrefused), hrefused]
    · exact absurd hfirst.wrong (hnone e)
  · rintro ⟨graph, hbuilt⟩
    rcases hcomes.outcome_cases with ⟨e, hrefused⟩ | ⟨-, hnone⟩
    · cases hrefused.symm.trans hbuilt
    · exact hnone
  · rcases hcomes.outcome_cases with ⟨e, hrefused⟩ | ⟨hbuilt, -⟩
    · exact absurd (hcomes.firstWrong hrefused).wrong (hnone e)
    · exact hbuilt
  · intro processor hsome
    cases hcomes with
    | unhosted hchosen => cases hsome.symm.trans hchosen
    | queueless _ binding hchosen _ _ _ hbinds | offline _ binding hchosen _ _ _ _ hbinds
    | misplaced _ binding _ hchosen _ _ _ hbinds | built _ binding _ hchosen _ _ _ hbinds =>
      cases hsome.symm.trans hchosen
      exact ⟨binding, hbinds⟩
  · intro hnone
    cases hcomes with
    | unhosted _ _ hbinds => exact hbinds
    | queueless _ _ hchosen | offline _ _ hchosen | misplaced _ _ _ hchosen
    | built _ _ _ hchosen => cases hnone.symm.trans hchosen
  · intro timing _ E L clients server events lifecycle fuel
    exact Executor.settle_untouched clients server fuel _ rfl rfl
  · intro e timing hrefused htiming
    cases hcomes with
    | unhosted _ _ _ hnone | queueless _ _ _ _ _ _ _ hnone | offline _ _ _ _ _ _ _ _ hnone =>
      cases htiming.symm.trans hnone
    | misplaced _ _ _ _ _ _ _ _ hstarted =>
      obtain ⟨c, record, hstart, rfl⟩ := hstarted timing htiming
      exact Collector.endsAlone_abandon hstart hinterval
    | built _ _ _ _ _ _ houtcome => cases hrefused.symm.trans houtcome

/-- A processor for a server with a blank address. -/
def placeless : Builder where
  options := { (HostOptions.standard : HostOptions Processor) with
    processor := some WordCount.processor
    address := some " \t" }
  overrides := default

/-- The collector is started before the address is looked at. -/
theorem placeless_refuses_first : (placeless.build ⟨true, "one", fun _ => .ok []⟩).timing.isSome ∧
    placeless.FirstWrong ⟨true, "one", fun _ => .ok []⟩ .missingAddress ∧
    placeless.RefusesFirst ⟨true, "one", fun _ => .ok []⟩ := by
  have hrefuses : placeless.RefusesFirst ⟨true, "one", fun _ => .ok []⟩ :=
    refuses_first_wrong (by decide) (by decide)
  exact ⟨rfl, (hrefuses.refused_iff _).mp rfl, hrefuses⟩

end Builder

end ProcessorHost
