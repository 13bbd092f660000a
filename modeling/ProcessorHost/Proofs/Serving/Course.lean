import Mathlib.Data.List.Infix
import ProcessorHost.Proofs.Serving.Moments

/-!
# The course of serving

Whatever fails, what a server does apart from the operations of its services follows one of few
courses: all services start, the server is ready, it drains, the services stop in reverse order, and
it has stopped; or not all services start, and all are stopped at once. So the serving states and
the order in which services start and stop are known beforehand.
-/

namespace ProcessorHost

namespace ServeHistory

variable {mark : String → ServeDeed} {service : String} {services : List String}
  {before h : ServeHistory}

lemma marks_operates {marks : List ServeDeed} (op : ServiceOperation) (result : Except Cause Unit)
    (hmarks : h.marks = marks) : ServeHistory.marks (h ++ [(.operates op, result)]) = marks := by
  rw [marks_concat, hmarks]
  exact List.append_nil marks

/-- The first of some services have been marked since. -/
def MarksSome (mark : String → ServeDeed) (services : List String) (before h : ServeHistory) :
    Prop :=
  ∃ some, some <+: services ∧ h.marks = before.marks ++ some.map mark

/-- All of them have. -/
def MarksAll (mark : String → ServeDeed) (services : List String)
    (before h : ServeHistory) : Prop :=
  h.marks = before.marks ++ services.map mark

/-- The first of them have, but not all. -/
def MarksFew (mark : String → ServeDeed) (services : List String)
    (before h : ServeHistory) : Prop :=
  ∃ few, few <+: services ∧ few ≠ services ∧ h.marks = before.marks ++ few.map mark

lemma MarksAll.marksSome (hall : MarksAll mark services before h) :
    MarksSome mark services before h :=
  ⟨services, List.prefix_refl _, hall⟩

lemma MarksSome.of_eq (hmarks : h.marks = before.marks) : MarksSome mark services before h :=
  ⟨[], List.nil_prefix, hmarks.trans (List.append_nil _).symm⟩

lemma MarksFew.of_eq (hmarks : h.marks = before.marks) :
    MarksFew mark (service :: services) before h :=
  ⟨[], List.nil_prefix, (List.cons_ne_nil service services).symm,
    hmarks.trans (List.append_nil _).symm⟩

variable {next : ServeHistory}

lemma MarksSome.cons (hmarks : next.marks = before.marks ++ [mark service])
    (hsome : MarksSome mark services next h) : MarksSome mark (service :: services) before h := by
  obtain ⟨some, hinitial, hmarked⟩ := hsome
  refine ⟨service :: some, (List.prefix_cons_inj service).mpr hinitial, ?_⟩
  rw [hmarked, hmarks, List.append_assoc]
  rfl

lemma MarksFew.cons (hmarks : next.marks = before.marks ++ [mark service])
    (hfew : MarksFew mark services next h) : MarksFew mark (service :: services) before h := by
  obtain ⟨few, hinitial, hmissing, hmarked⟩ := hfew
  refine ⟨service :: few, (List.prefix_cons_inj service).mpr hinitial, ?_, ?_⟩
  · intro heq
    exact hmissing (List.cons.inj heq).2
  · rw [hmarked, hmarks, List.append_assoc]
    rfl

lemma MarksAll.cons (hmarks : next.marks = before.marks ++ [mark service])
    (hall : MarksAll mark services next h) : MarksAll mark (service :: services) before h := by
  unfold MarksAll at hall ⊢
  rw [hall, hmarks, List.append_assoc]
  rfl

end ServeHistory

namespace ServePlan

open ServeHistory

variable {h : ServeHistory}

/-- Services start in order, and all do unless one fails. -/
lemma startAll_marks (address : Net.Endpoint) (services : List (Hosted ServerService))
    (h : ServeHistory) :
    (startAll address services).Ensures (MarksSome .started (services.map (·.name)) h)
      (fun result after => match result with
        | .ok () => MarksAll .started (services.map (·.name)) h after
        | .error _ => MarksFew .started (services.map (·.name)) h after) h := by
  induction services generalizing h with
  | nil =>
    have hall : MarksAll .started [] h h := (List.append_nil _).symm
    exact ⟨hall.marksSome, hall⟩
  | cons s rest ih =>
    unfold startAll
    have hstarting : (untilFailure (s.service.starting address)).Ensures
        (fun after => after.marks = h.marks) (fun _ after => after.marks = h.marks) h :=
      untilFailure_keeps rfl fun op _ after result hmarks => marks_operates op result hmarks
    refine (hstarting.mono (fun _ => MarksSome.of_eq) fun _ _ hmarks => hmarks).andThen ?_
    intro result after hmarks
    cases result with
    | error e => exact ⟨.of_eq hmarks, .of_eq hmarks⟩
    | ok _ =>
      have hstarted : ServeHistory.marks (after ++ [(.started s.name, .ok ())]) =
          h.marks ++ [.started s.name] := by
        rw [marks_concat, hmarks]
        rfl
      refine .after (.of_eq hmarks) (fun _ hresult => hresult) ?_
      refine (ih (after ++ [(.started s.name, .ok ())])).mono
        (fun _ hsome => hsome.cons hstarted) ?_
      intro result last hlast
      cases result with
      | error e => exact MarksFew.cons hstarted hlast
      | ok _ => exact MarksAll.cons hstarted hlast

/-- Services stop in order, and all do. -/
lemma stopAll_marks (terminate : Bool) (services : List (Hosted ServerService))
    (failure : Option Cause) (h : ServeHistory) :
    (stopAll terminate failure services).Ensures (MarksSome .stops (services.map (·.name)) h)
      (fun _ after => MarksAll .stops (services.map (·.name)) h after) h := by
  induction services generalizing h failure with
  | nil =>
    have hall : MarksAll .stops [] h h := (List.append_nil _).symm
    cases failure with
    | none => exact ⟨hall.marksSome, hall⟩
    | some e => exact ⟨hall.marksSome, hall⟩
  | cons s rest ih =>
    unfold stopAll
    refine .after (.of_eq rfl) (fun _ hresult => hresult) ?_
    have hstops : ServeHistory.marks (h ++ [(.stops s.name, .ok ())]) =
        h.marks ++ [.stops s.name] := marks_concat h _ _
    have hstopping : (throughout none (s.service.stopping terminate)).Ensures
        (fun after => after.marks = h.marks ++ [.stops s.name])
        (fun _ after => after.marks = h.marks ++ [.stops s.name])
        (h ++ [(.stops s.name, .ok ())]) :=
      throughout_keeps none hstops fun op _ after result hmarks => marks_operates op result hmarks
    have hfirst : ∀ after : ServeHistory, after.marks = h.marks ++ [.stops s.name] →
        MarksSome .stops ((s :: rest).map (·.name)) h after :=
      fun after hmarks => .cons hmarks (.of_eq rfl)
    have hrest : ∀ failure (after : ServeHistory), after.marks = h.marks ++ [.stops s.name] →
        (stopAll terminate failure rest).Ensures (MarksSome .stops ((s :: rest).map (·.name)) h)
          (fun _ last => MarksAll .stops ((s :: rest).map (·.name)) h last) after :=
      fun failure after hmarks => (ih failure after).mono (fun _ hsome => hsome.cons hmarks)
        fun _ _ hall => hall.cons hmarks
    refine (hstopping.mono hfirst fun _ _ hmarks => hmarks).andThen ?_
    intro result after hmarks
    cases result with
    | ok _ => exact hrest failure after hmarks
    | error e =>
      exact .after (hfirst after hmarks) (fun _ hresult => hresult)
        (hrest _ _ (marks_operates _ _ hmarks))

end ServePlan

namespace Server

/-- The names of the services, in the order in which they start. -/
def serviceNames (server : Server) : List String := server.registry.inOrder.map (·.name)

end Server

namespace ServeDeed

/-- What a server does between the start of its services and their end. -/
def readiness : List ServeDeed :=
  [.changes .setReady, .attends, .changes .triggerShutdown, .changes .triggerShutdown]

/-- All services stop. -/
def ending (services : List String) : List ServeDeed :=
  services.reverse.map .stops ++ [.changes .setStopped]

/-- The course of a server whose services have all started. -/
def course (services : List String) : List ServeDeed :=
  services.map .started ++ (readiness ++ ending services)

/-- The course of a server of whose services only few have started. -/
def courseOfFailure (few services : List String) : List ServeDeed :=
  few.map .started ++ ending services

/-- Such a course, up to some moment. -/
inductive Follows (services : List String) (deeds : List ServeDeed) : Prop
  | serves (h : deeds <+: course services)
  | fails {few : List String} (started : few <+: services)
      (h : deeds <+: courseOfFailure few services)

/-- Such a course to its end. -/
inductive Completes (services : List String) (deeds : List ServeDeed) : Except Cause Unit → Prop
  | serves {result : Except Cause Unit} (h : deeds = course services) :
      Completes services deeds result
  | fails {few : List String} {e : Cause} (started : few <+: services) (missing : few ≠ services)
      (h : deeds = courseOfFailure few services) : Completes services deeds (.error e)

variable {services some : List String}

lemma Follows.of_started (h : some <+: services) : Follows services (some.map .started) :=
  .fails h (List.prefix_append _ _)

/-- Services have begun to stop, after whatever was done before. -/
lemma stopping_initial {deeds : List ServeDeed} (h : some <+: services.reverse) :
    deeds ++ some.map .stops <+: deeds ++ ending services := by
  rw [List.prefix_append_right_inj]
  exact (h.map _).trans (List.prefix_append _ _)

end ServeDeed

namespace Server

open ServePlan ServeHistory ServeDeed

variable {server : Server} {h : ServeHistory} {few : List String}

/-- The end of both plans: all services stop, and the server has stopped. -/
lemma ending_follows {α : Type} {deeds : List ServeDeed} {I : ServeHistory → Prop}
    {Q : α → ServeHistory → Prop} (terminate : Bool) {last : Except Cause Unit → ServePlan α}
    (hmarks : h.marks = deeds)
    (hI : ∀ after : ServeHistory, after.marks <+: deeds ++ ending server.serviceNames → I after)
    (hlast : ∀ result (after : ServeHistory), after.marks = deeds ++ ending server.serviceNames →
      (last result).Ensures I Q after) :
    ((stopAll terminate none server.registry.inOrder.reverse).andThen fun result =>
      after (.changes .setStopped) (last result)).Ensures I Q h := by
  have hstop := stopAll_marks terminate server.registry.inOrder.reverse none h
  have hnames : server.registry.inOrder.reverse.map (·.name) = server.serviceNames.reverse := by
    unfold serviceNames
    rw [List.map_reverse]
  rw [hnames] at hstop
  have hsome : ∀ after : ServeHistory, MarksSome .stops server.serviceNames.reverse h after →
      I after := by
    rintro after ⟨down, hdown, hstopped⟩
    apply hI
    rw [hstopped, hmarks]
    exact stopping_initial hdown
  refine (hstop.mono hsome fun _ _ hall => hall).andThen ?_
  intro result after hall
  refine .after (hsome after hall.marksSome) (fun _ hresult => hresult) (hlast result _ ?_)
  unfold MarksAll at hall
  rw [marks_concat, hall, hmarks, List.append_assoc]
  rfl

/-- A server whose services have not all started stops them all. -/
lemma planOfFailure_follows (failure : Cause) (hfew : few <+: server.serviceNames)
    (hmissing : few ≠ server.serviceNames) (hmarks : h.marks = few.map .started) :
    (server.planOfFailure failure).Ensures (fun h => Follows server.serviceNames h.marks)
      (fun result h => Completes server.serviceNames h.marks result) h := by
  unfold planOfFailure noting
  have hnow : Follows server.serviceNames h.marks := by
    rw [hmarks]
    exact .of_started hfew
  refine .after hnow (fun _ hresult => hresult) ?_
  refine ending_follows true (marks_operates _ _ hmarks) (fun _ => .fails hfew) ?_
  intro result after hafter
  refine ⟨.fails hfew ?_, .fails hfew hmissing hafter⟩
  rw [hafter]
  exact List.prefix_refl _

/-- All services have started, and so much of what follows has been done. -/
def HasReached (server : Server) (n : Nat) (h : ServeHistory) : Prop :=
  h.marks = server.serviceNames.map .started ++ readiness.take n

section HasReached

variable {α : Type} {n : Nat} {deed : ServeDeed} {rest : ServePlan α} {Q : α → ServeHistory → Prop}

lemma HasReached.follows (hnow : server.HasReached n h) : Follows server.serviceNames h.marks := by
  apply Follows.serves
  unfold HasReached at hnow
  unfold course
  rw [hnow, List.prefix_append_right_inj]
  exact (List.take_prefix n readiness).trans (List.prefix_append _ _)

lemma HasReached.after (hnow : server.HasReached n h) (hdeed : readiness[n]? = some deed)
    (hrest : ∀ next, server.HasReached (n + 1) next →
      rest.Ensures (fun h => Follows server.serviceNames h.marks) Q next) :
    (after deed rest).Ensures (fun h => Follows server.serviceNames h.marks) Q h := by
  have hkind : deed.isOperation = false ∧ ∀ result, deed.MayGive result → result = .ok () := by
    have hmem : deed ∈ readiness := List.mem_of_getElem? hdeed
    simp only [readiness, List.mem_cons, List.not_mem_nil, or_false] at hmem
    obtain rfl | rfl | rfl | rfl := hmem
    all_goals exact ⟨rfl, fun _ hresult => hresult⟩
  refine .after hnow.follows hkind.2 (hrest _ ?_)
  unfold HasReached at hnow ⊢
  rw [marks_concat, hnow, hkind.1, List.take_add_one, hdeed, List.append_assoc]
  rfl

lemma HasReached.noting {record : LogRecord} (hnow : server.HasReached n h)
    (hrest : ∀ next, server.HasReached n next →
      rest.Ensures (fun h => Follows server.serviceNames h.marks) Q next) :
    (noting record rest).Ensures (fun h => Follows server.serviceNames h.marks) Q h :=
  .after hnow.follows (fun _ hresult => hresult) (hrest _ (marks_operates _ _ hnow))

end HasReached

/-- A server whose services have all started is ready, drains and stops them. -/
lemma planOfServing_follows (address : Net.Endpoint)
    (hmarks : h.marks = server.serviceNames.map .started) :
    (server.planOfServing address).Ensures (fun h => Follows server.serviceNames h.marks)
      (fun result h => Completes server.serviceNames h.marks result) h := by
  have hstarted : server.HasReached 0 h := hmarks.trans (List.append_nil _).symm
  unfold planOfServing
  refine hstarted.after rfl fun ready hready => hready.noting fun _ hserving => ?_
  refine hserving.after rfl fun _ hattended => ?_
  refine hattended.after rfl fun _ hdraining => hdraining.noting fun _ hnoted => ?_
  refine hnoted.after rfl fun drained hdrained => ?_
  have hserves : ∀ after : ServeHistory, after.marks <+:
      server.serviceNames.map .started ++ readiness ++ ending server.serviceNames →
      Follows server.serviceNames after.marks := by
    intro after hafter
    rw [List.append_assoc] at hafter
    exact .serves hafter
  refine ending_follows false hdrained hserves ?_
  intro result after hafter
  have hstopped : ServeHistory.marks
      (after ++ [(.operates (.note ⟨.info, "server stopped", []⟩), .ok ())]) =
        course server.serviceNames :=
    marks_operates _ _ (hafter.trans (List.append_assoc _ _ _))
  have hnow : Follows server.serviceNames after.marks := by
    apply hserves
    rw [hafter]
    exact List.prefix_refl _
  refine .after hnow (fun _ hresult => hresult) ⟨?_, .serves hstopped⟩
  apply Follows.serves
  rw [hstopped]

/-- The marks of a server that listens follow a course, and complete it. -/
theorem plan_follows (server : Server) (address : Net.Endpoint) :
    (server.plan (.ok address)).Ensures (fun h => Follows server.serviceNames h.marks)
      (fun result h => Completes server.serviceNames h.marks result) [] := by
  unfold plan planAt noting
  refine .after (.of_started List.nil_prefix) (fun _ hresult => hresult) ?_
  have hbound :
      ServeHistory.marks ([] ++ [(.operates (.note (Executor.bound address)), .ok ())]) = [] :=
    rfl
  have hstart := startAll_marks address server.registry.inOrder
    ([] ++ [(.operates (.note (Executor.bound address)), .ok ())])
  refine (hstart.mono ?_ fun _ _ hdone => hdone).andThen ?_
  · rintro after ⟨up, hup, hmarks⟩
    rw [hmarks, hbound]
    exact .of_started hup
  · intro result after hafter
    cases result with
    | error failure =>
      obtain ⟨few, hfew, hmissing, hmarks⟩ := hafter
      exact planOfFailure_follows failure hfew hmissing hmarks
    | ok _ => exact planOfServing_follows address hafter

end Server

namespace ServeDeed

variable {services : List String} {deeds : List ServeDeed}

lemma filterMap_map_none {α β γ : Type} {f : α → β} {g : β → Option γ} (h : ∀ a, g (f a) = none)
    (as : List α) : (as.map f).filterMap g = [] := by
  rw [List.filterMap_map]
  exact List.filterMap_eq_nil_iff.mpr fun a _ => h a

lemma filterMap_map_some {α β : Type} {f : α → β} {g : β → Option α} (h : ∀ a, g (f a) = some a)
    (as : List α) : (as.map f).filterMap g = as := by
  rw [List.filterMap_map]
  have hsome : (g ∘ f) = some := funext h
  rw [hsome, List.filterMap_some]

lemma filterMap_state_ending (services : List String) :
    (ending services).filterMap state? = [.stopped] := by
  unfold ending
  rw [List.filterMap_append, filterMap_map_none fun _ => rfl]
  rfl

lemma filterMap_started_ending (services : List String) :
    (ending services).filterMap started? = [] := by
  unfold ending
  rw [List.filterMap_append, filterMap_map_none fun _ => rfl]
  rfl

lemma filterMap_stopped_ending (services : List String) :
    (ending services).filterMap stopped? = services.reverse := by
  unfold ending
  rw [List.filterMap_append, filterMap_map_some (g := stopped?) (f := stops) fun _ => rfl]
  exact List.append_nil services.reverse

lemma filterMap_state_course (services : List String) :
    (course services).filterMap state? = [.ready, .draining, .draining, .stopped] := by
  unfold course
  rw [List.filterMap_append, List.filterMap_append, filterMap_map_none fun _ => rfl,
    filterMap_state_ending]
  rfl

lemma filterMap_state_courseOfFailure (few services : List String) :
    (courseOfFailure few services).filterMap state? = [.stopped] := by
  unfold courseOfFailure
  rw [List.filterMap_append, filterMap_map_none fun _ => rfl, filterMap_state_ending]
  rfl

/-- The states never come in another order. -/
lemma Follows.states_initial (h : Follows services deeds) :
    states .starting deeds <+: [.starting, .ready, .draining, .stopped] ∨
      states .starting deeds <+: [.starting, .stopped] := by
  cases h with
  | serves h =>
    have hstates := h.filterMap state?
    rw [filterMap_state_course, ← List.mem_inits] at hstates
    have hall : ∀ sets ∈ [ServingState.ready, .draining, .draining, .stopped].inits,
        sets.foldl ServingState.visit [.starting] <+: [.starting, .ready, .draining, .stopped] := by
      decide
    exact .inl (hall _ hstates)
  | fails _ h =>
    have hstates := h.filterMap state?
    rw [filterMap_state_courseOfFailure, ← List.mem_inits] at hstates
    have hall : ∀ sets ∈ [ServingState.stopped].inits,
        sets.foldl ServingState.visit [.starting] <+: [.starting, .stopped] := by
      decide
    exact .inr (hall _ hstates)

lemma filterMap_started_course (services : List String) :
    (course services).filterMap started? = services := by
  unfold course
  rw [List.filterMap_append, List.filterMap_append,
    filterMap_map_some (g := started?) (f := started) fun _ => rfl, filterMap_started_ending]
  exact List.append_nil services

lemma filterMap_started_courseOfFailure (few services : List String) :
    (courseOfFailure few services).filterMap started? = few := by
  unfold courseOfFailure
  rw [List.filterMap_append, filterMap_map_some (g := started?) (f := started) fun _ => rfl,
    filterMap_started_ending]
  exact List.append_nil few

lemma filterMap_stopped_course (services : List String) :
    (course services).filterMap stopped? = services.reverse := by
  unfold course
  rw [List.filterMap_append, List.filterMap_append, filterMap_map_none fun _ => rfl,
    filterMap_stopped_ending]
  rfl

lemma filterMap_stopped_courseOfFailure (few services : List String) :
    (courseOfFailure few services).filterMap stopped? = services.reverse := by
  unfold courseOfFailure
  rw [List.filterMap_append, filterMap_map_none fun _ => rfl, filterMap_stopped_ending]
  rfl

/-- Services stop in the reverse of the order in which they start. -/
lemma Follows.stopped_initial (h : Follows services deeds) :
    deeds.filterMap stopped? <+: services.reverse := by
  cases h with
  | serves h =>
    have hstopped := h.filterMap stopped?
    rwa [filterMap_stopped_course] at hstopped
  | fails _ h =>
    have hstopped := h.filterMap stopped?
    rwa [filterMap_stopped_courseOfFailure] at hstopped

lemma initial_append {l a b : List ServeDeed} (h : l <+: a ++ b) :
    l <+: a ∨ ∃ c, c <+: b ∧ l = a ++ c := by
  obtain ⟨t, ht⟩ := h
  rcases List.append_eq_append_iff.mp ht with ⟨c, rfl, -⟩ | ⟨c, rfl, rfl⟩
  · exact .inl (List.prefix_append l c)
  · exact .inr ⟨c, List.prefix_append c t, rfl⟩

/-- A server is ready only when all its services have started and none has begun to stop. -/
lemma Follows.of_state_ready (h : Follows services deeds)
    (hready : (states .starting deeds).getLast? = some .ready) :
    deeds.filterMap started? = services ∧ deeds.filterMap stopped? = [] := by
  unfold states at hready
  cases h with
  | fails _ h =>
    have hstates := h.filterMap state?
    rw [filterMap_state_courseOfFailure, ← List.mem_inits] at hstates
    have hall : ∀ sets ∈ [ServingState.stopped].inits,
        (sets.foldl ServingState.visit [.starting]).getLast? ≠ some .ready := by
      decide
    exact (hall _ hstates hready).elim
  | serves h =>
    have hstarts : (services.map started).filterMap state? = [] :=
      filterMap_map_none (fun _ => rfl) _
    rcases initial_append h with h | ⟨since, hsince, rfl⟩
    · -- Services are still starting.
      have hstates := h.filterMap state?
      rw [hstarts] at hstates
      rw [List.prefix_nil.mp hstates] at hready
      cases hready
    · rw [List.filterMap_append, hstarts] at hready
      rw [List.filterMap_append, List.filterMap_append,
        filterMap_map_some (g := started?) (f := started) fun _ => rfl,
        filterMap_map_none (g := stopped?) (f := started) fun _ => rfl]
      rcases initial_append hsince with hsince | ⟨rest, hrest, rfl⟩
      · rw [← List.mem_inits] at hsince
        have hall : ∀ deeds ∈ readiness.inits,
            deeds.filterMap started? = [] ∧ deeds.filterMap stopped? = [] := by
          decide
        obtain ⟨hstarted, hstopped⟩ := hall since hsince
        rw [hstarted, hstopped]
        exact ⟨List.append_nil services, rfl⟩
      · -- The server drains already.
        have hstates := hrest.filterMap state?
        rw [filterMap_state_ending, ← List.mem_inits] at hstates
        rw [List.filterMap_append] at hready
        have hall : ∀ sets ∈ [ServingState.stopped].inits,
            ((readiness.filterMap state? ++ sets).foldl ServingState.visit [.starting]).getLast? ≠
              some .ready := by
          decide
        exact (hall _ hstates hready).elim

/-- At the end all services have stopped. Either all had started, and the server has been through
all states, or it was never ready. -/
lemma Completes.spec {result : Except Cause Unit} (h : Completes services deeds result) :
    deeds.filterMap stopped? = services.reverse ∧
      (deeds.filterMap started? = services ∧
          states .starting deeds = [.starting, .ready, .draining, .stopped] ∨
        deeds.filterMap started? ≠ services ∧ (∃ e, result = .error e) ∧
          states .starting deeds = [.starting, .stopped]) := by
  cases h with
  | serves h =>
    rw [h]
    refine ⟨filterMap_stopped_course services, .inl ⟨filterMap_started_course services, ?_⟩⟩
    unfold states
    rw [filterMap_state_course]
    decide
  | @fails few e _ hmissing h =>
    rw [h]
    refine ⟨filterMap_stopped_courseOfFailure few services, .inr ⟨?_, ⟨e, rfl⟩, ?_⟩⟩
    · rw [filterMap_started_courseOfFailure]
      exact hmissing
    · unfold states
      rw [filterMap_state_courseOfFailure]
      decide

end ServeDeed

end ProcessorHost
