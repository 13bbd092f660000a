import ProcessorHost.Cli.ServerArgs
import ProcessorHost.Host.Builder
import ProcessorHost.Processor.WordCount
import ProcessorHost.Proofs.Timing.Alive

/-!
# Which configurations work

A configuration works if a build never panics and what it builds answers requests for summaries.
Two kinds of options are let through that do not work: a timing queue that is longer than queues
can be, for which the build panics, and the report interval zero, with which the collector breaks
down once it begins.
-/

namespace ProcessorHost

namespace Builder

/-- The build ends with a graph or a refusal, and the collector of the graph answers. -/
structure Works (b : Builder) (site : BuildSite) : Prop where
  calm : ∀ message, (b.build site).outcome ≠ .panicked message
  alive : ∀ graph, (b.build site).outcome = .built graph → b.overrides.service = none →
    ∃ timing, (b.build site).timing = some timing ∧ timing.Alive

variable {b : Builder} {freshId : String} {lookup : Net.HostLookup}

/-- With a service that is given no collector is started, and nothing can panic. -/
lemma works_of_service {service : ProcessorService} (hservice : b.overrides.service = some service)
    (site : BuildSite) : b.Works site := by
  refine ⟨fun message => ?_, fun graph _ hnone => ?_⟩
  · unfold build
    split
    · exact BuildOutcome.noConfusion
    · dsimp only
      rw [hservice]
      dsimp only
      cases b.complete _ _ _ _ _ _ _ with
      | ok graph => exact BuildOutcome.noConfusion
      | error e => exact BuildOutcome.noConfusion
  · rw [hservice] at hnone
    cases hnone

lemma works_of_missing (hprocessor : b.overrides.processor.or b.options.processor = none)
    (site : BuildSite) : b.Works site := by
  have hbuild : (b.build site).outcome = .refused .missingProcessor := by
    unfold build
    rw [hprocessor]
  refine ⟨fun message => ?_, fun graph hgraph _ => ?_⟩
  · rw [hbuild]
    exact BuildOutcome.noConfusion
  · rw [hbuild] at hgraph
    cases hgraph

lemma exists_start {config : TimingConfig} (hzero : config.queueCapacity ≠ 0)
    (hlimit : config.queueCapacity ≤ Worker.capacityLimit) :
    ∃ collector record, Collector.start config = .ok (collector, record) := by
  unfold Collector.start Worker.start
  rw [if_neg hzero, if_neg (Nat.not_lt.mpr hlimit)]
  exact ⟨_, _, rfl⟩

lemma start_cases (config : TimingConfig) :
    config.queueCapacity = 0 ∨
    (Worker.capacityLimit < config.queueCapacity ∧
      ∃ message, Collector.start config = .error message) ∨
    (config.queueCapacity ≠ 0 ∧ config.queueCapacity ≤ Worker.capacityLimit ∧
      ∃ collector record, Collector.start config = .ok (collector, record)) := by
  by_cases hzero : config.queueCapacity = 0
  · exact .inl hzero
  · refine .inr ?_
    by_cases hlimit : Worker.capacityLimit < config.queueCapacity
    · unfold Collector.start Worker.start
      rw [if_neg hzero, if_pos hlimit]
      exact .inl ⟨hlimit, _, rfl⟩
    · have hle := Nat.not_lt.mp hlimit
      exact .inr ⟨hzero, hle, exists_start hzero hle⟩

/-- What a build comes to that makes its own service. -/
lemma build_cases (freshId : String) (lookup : Net.HostLookup) {processor : Processor}
    (hservice : b.overrides.service = none)
    (hprocessor : b.overrides.processor.or b.options.processor = some processor) :
    (b.options.timing.queueCapacity = 0 ∧
      (b.build ⟨true, freshId, lookup⟩).outcome = .refused .invalidTimingQueue) ∨
    (Worker.capacityLimit < b.options.timing.queueCapacity ∧
      ∃ message, (b.build ⟨true, freshId, lookup⟩).outcome = .panicked message) ∨
    (b.options.timing.queueCapacity ≠ 0 ∧
      b.options.timing.queueCapacity ≤ Worker.capacityLimit ∧
      ∃ collector record, Collector.start b.options.timing = .ok (collector, record) ∧
        ((∃ graph, (b.listening lookup).isOk ∧
            (b.build ⟨true, freshId, lookup⟩).outcome = .built graph ∧
            (b.build ⟨true, freshId, lookup⟩).timing = some collector) ∨
          ∃ e, ¬ (b.listening lookup).isOk ∧
            (b.build ⟨true, freshId, lookup⟩).outcome = .refused e)) := by
  unfold build
  rw [hprocessor, hservice]
  rcases start_cases b.options.timing with hzero | ⟨hlimit, message, hstart⟩ |
    ⟨hzero, hlimit, collector, record, hstart⟩
  · exact .inl ⟨hzero, by simp only [if_pos hzero]⟩
  · have hzero : b.options.timing.queueCapacity ≠ 0 :=
      Nat.ne_of_gt (Nat.lt_of_le_of_lt (Nat.zero_le _) hlimit)
    refine .inr (.inl ⟨hlimit, message, ?_⟩)
    simp only [if_neg hzero, Bool.not_true, Bool.false_eq_true, if_false, hstart]
  · refine .inr (.inr ⟨hzero, hlimit, collector, record, hstart, ?_⟩)
    simp only [if_neg hzero, Bool.not_true, Bool.false_eq_true, if_false, hstart]
    unfold complete
    cases b.listening lookup with
    | ok listening => exact .inl ⟨_, rfl, rfl, rfl⟩
    | error e => exact .inr ⟨e, Bool.false_ne_true, rfl⟩

/-- The queue must not be too long, and what is built must not have the report interval zero. -/
lemma works_iff_of_processor {processor : Processor} (hservice : b.overrides.service = none)
    (hprocessor : b.overrides.processor.or b.options.processor = some processor) :
    b.Works ⟨true, freshId, lookup⟩ ↔
      b.options.timing.queueCapacity ≤ Worker.capacityLimit ∧
        (b.options.timing.queueCapacity ≠ 0 → (b.listening lookup).isOk →
          b.options.timing.reportInterval.map (·.nanos) ≠ some 0) := by
  -- A build that is refused works, whatever the reason.
  have hrefused {e : ConfigError}
      (hbuild : (b.build ⟨true, freshId, lookup⟩).outcome = .refused e) :
      b.Works ⟨true, freshId, lookup⟩ := by
    refine ⟨fun message => ?_, fun graph hgraph => ?_⟩
    · rw [hbuild]
      exact BuildOutcome.noConfusion
    · rw [hbuild] at hgraph
      cases hgraph
  rcases build_cases freshId lookup hservice hprocessor with
    ⟨hzero, hbuild⟩ | ⟨hlimit, message, hbuild⟩ |
    ⟨hzero, hlimit, collector, record, hstart, ⟨graph, hlistening, hbuild, htiming⟩ |
      ⟨e, hlistening, hbuild⟩⟩
  · exact iff_of_true (hrefused hbuild)
      ⟨hzero ▸ Nat.zero_le _, fun hne => absurd hzero hne⟩
  · exact iff_of_false (fun hworks => hworks.calm message hbuild)
      fun hcondition => Nat.not_le.mpr hlimit hcondition.1
  · have halive := Collector.alive_iff hstart
    constructor
    · intro hworks
      obtain ⟨timing, htiming', htimingAlive⟩ := hworks.alive graph hbuild hservice
      rw [htiming, Option.some.injEq] at htiming'
      exact ⟨hlimit, fun _ _ => halive.mp (htiming' ▸ htimingAlive)⟩
    · rintro ⟨-, hinterval⟩
      refine ⟨fun message => ?_, fun _ _ _ =>
        ⟨collector, htiming, halive.mpr (hinterval hzero hlistening)⟩⟩
      rw [hbuild]
      exact BuildOutcome.noConfusion
  · exact iff_of_true (hrefused hbuild)
      ⟨hlimit, fun _ hok => absurd hok hlistening⟩

/-- Of the command line only the length of the queue matters. -/
theorem works_iff_of_arguments (a : Cli.ServerArgs) (processor : Processor) :
    (⟨a.hostOptions processor, default⟩ : Builder).Works ⟨true, freshId, lookup⟩ ↔
      a.timingQueueCapacity ≤ Worker.capacityLimit := by
  rw [works_iff_of_processor rfl rfl]
  exact and_iff_left fun _ _ => Option.some_ne_none 0 ∘ Eq.symm

/-- A configuration works exactly if a service is given, no processor is, or the timing queue is
not too long and what is built does not have the report interval zero. -/
theorem works_iff (b : Builder) (freshId : String) (lookup : Net.HostLookup) :
    b.Works ⟨true, freshId, lookup⟩ ↔
      (b.overrides.service = none → (b.overrides.processor.or b.options.processor).isSome →
        b.options.timing.queueCapacity ≤ Worker.capacityLimit ∧
          (b.options.timing.queueCapacity ≠ 0 → (b.listening lookup).isOk →
            b.options.timing.reportInterval.map (·.nanos) ≠ some 0)) := by
  cases hservice : b.overrides.service with
  | some service =>
    exact iff_of_true (works_of_service hservice _) fun hnone =>
      absurd hnone (Option.some_ne_none _)
  | none =>
    cases hprocessor : b.overrides.processor.or b.options.processor with
    | none =>
      exact iff_of_true (works_of_missing hprocessor _) fun _ hsome => absurd hsome (by simp)
    | some processor =>
      rw [works_iff_of_processor hservice hprocessor]
      exact ⟨fun h _ _ => h, fun h => h rfl rfl⟩

/-- The program accepts the length of a queue for which a build panics, and a build accepts the
report interval zero. -/
theorem not_works_as_accepted :
    (∃ a, Cli.ServerArgs.parse ["--timing-queue-capacity", "2305843009213693952"] [] = .ok a ∧
      ¬ (⟨a.hostOptions WordCount.processor, default⟩ : Builder).Works
        ⟨true, "id", fun _ => .error "unknown"⟩) ∧
    ¬ (⟨{ (HostOptions.standard : HostOptions Processor) with
          processor := some WordCount.processor, timing := ⟨1024, some .zero⟩ }, default⟩ :
        Builder).Works ⟨true, "id", fun _ => .error "unknown"⟩ := by
  constructor
  · refine ⟨_, rfl, fun hworks => ?_⟩
    exact absurd (works_iff_of_arguments _ WordCount.processor |>.mp hworks) (by decide)
  · intro hworks
    obtain ⟨-, hinterval⟩ := (works_iff_of_processor rfl rfl).mp hworks
    exact hinterval (by decide) (by decide) rfl

end Builder

end ProcessorHost
