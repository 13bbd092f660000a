import Mathlib.Tactic.Common
import ProcessorHost.Proofs.Serving.Moments

/-!
# The health that is announced

A processor is announced to be serving only when its instance has been registered, if it is to be,
and the server as a whole only when its processor is. That holds at every moment, whatever fails;
and in the end neither is announced any more. The two may share one name, if the identifier of the
processor is empty.
-/

namespace ProcessorHost

namespace ServeDeed

/-- It sets no health. -/
def IsSilent (deed : ServeDeed) : Prop := ∀ name, deed.health? name = none

end ServeDeed

namespace ServeHistory

variable {service : ProcessorService} {address : Net.Endpoint} {h : ServeHistory} {name : String}
  {deed : ServeDeed} {result : Except Cause Unit}

def Serves (name : String) (h : ServeHistory) : Prop := h.health? name = some .serving

/-- The instance has been registered, if it is to be. -/
def Registered (service : ProcessorService) (address : Net.Endpoint) (h : ServeHistory) : Prop :=
  service.register = true → (.operates (.register (service.registration address)), .ok ()) ∈ h

/-- Nothing is announced that is not so. -/
structure Truthful (service : ProcessorService) (address : Net.Endpoint) (h : ServeHistory) :
    Prop where
  server : Serves Lifecycle.serverName h → Serves service.identity.id h
  processor : Serves service.identity.id h → Registered service address h

/-- Nothing is announced. -/
structure Down (service : ProcessorService) (h : ServeHistory) : Prop where
  server : ¬ Serves Lifecycle.serverName h
  processor : ¬ Serves service.identity.id h

/-- The processor is announced, and the server only if it has the same name. -/
structure Up (service : ProcessorService) (address : Net.Endpoint) (h : ServeHistory) : Prop where
  server : Serves Lifecycle.serverName h → service.identity.id = Lifecycle.serverName
  processor : Serves service.identity.id h
  registered : Registered service address h

/-- Only what is so is announced, and the server only by a service of its own. -/
structure Upheld (service : ProcessorService) (address : Net.Endpoint) (withHealth : Bool)
    (h : ServeHistory) : Prop where
  truthful : Truthful service address h
  server : withHealth = false →
    Serves Lifecycle.serverName h → service.identity.id = Lifecycle.serverName

lemma Down.truthful (hdown : Down service h) : Truthful service address h :=
  ⟨fun hserves => (hdown.server hserves).elim, fun hserves => (hdown.processor hserves).elim⟩

lemma Up.truthful (hup : Up service address h) : Truthful service address h :=
  ⟨fun _ => hup.processor, fun _ => hup.registered⟩

lemma Down.upheld (hdown : Down service h) (withHealth : Bool) :
    Upheld service address withHealth h :=
  ⟨hdown.truthful, fun _ hserves => (hdown.server hserves).elim⟩

lemma Registered.concat (hregistered : Registered service address h)
    (entry : ServeDeed × Except Cause Unit) : Registered service address (h ++ [entry]) :=
  fun hflag => List.mem_append_left _ (hregistered hflag)

lemma serves_silent (hsilent : deed.IsSilent) :
    Serves name (h ++ [(deed, result)]) ↔ Serves name h := by
  unfold Serves
  rw [health?_concat, hsilent name]
  rfl

lemma serves_setHealth_self (status : Health) :
    Serves name (h ++ [(.operates (.setHealth name status), result)]) ↔ status = .serving := by
  unfold Serves
  rw [health?_concat, ServeDeed.health?_setHealth, if_pos rfl]
  exact Option.some_inj

lemma serves_setHealth_of_ne {other : String} (hne : name ≠ other) (status : Health) :
    Serves name (h ++ [(.operates (.setHealth other status), result)]) ↔ Serves name h := by
  unfold Serves
  rw [health?_concat, ServeDeed.health?_setHealth, if_neg hne]
  rfl

variable (result)

lemma Truthful.silent (htruth : Truthful service address h) (hsilent : deed.IsSilent) :
    Truthful service address (h ++ [(deed, result)]) := by
  refine ⟨?_, ?_⟩
  · rw [serves_silent hsilent, serves_silent hsilent]
    exact htruth.server
  · rw [serves_silent hsilent]
    exact fun hserves => (htruth.processor hserves).concat _

lemma Down.silent (hdown : Down service h) (hsilent : deed.IsSilent) :
    Down service (h ++ [(deed, result)]) := by
  refine ⟨?_, ?_⟩
  · rw [serves_silent hsilent]
    exact hdown.server
  · rw [serves_silent hsilent]
    exact hdown.processor

lemma Up.silent (hup : Up service address h) (hsilent : deed.IsSilent) :
    Up service address (h ++ [(deed, result)]) := by
  refine ⟨?_, ?_, hup.registered.concat _⟩
  · rw [serves_silent hsilent]
    exact hup.server
  · rw [serves_silent hsilent]
    exact hup.processor

lemma Upheld.silent {withHealth : Bool} (hupheld : Upheld service address withHealth h)
    (hsilent : deed.IsSilent) : Upheld service address withHealth (h ++ [(deed, result)]) := by
  refine ⟨hupheld.truthful.silent result hsilent, ?_⟩
  rw [serves_silent hsilent]
  exact hupheld.server

/-- The processor is announced. -/
lemma Down.announce (hdown : Down service h) (hregistered : Registered service address h) :
    Up service address (h ++ [(.operates (.setHealth service.identity.id .serving), result)]) := by
  refine ⟨?_, (serves_setHealth_self _).mpr rfl, hregistered.concat _⟩
  intro hserves
  by_contra hne
  rw [serves_setHealth_of_ne (Ne.symm hne)] at hserves
  exact hdown.server hserves

/-- The server is announced. -/
lemma Up.announce (hup : Up service address h) :
    Truthful service address
      (h ++ [(.operates (.setHealth Lifecycle.serverName .serving), result)]) := by
  refine ⟨?_, fun _ => hup.registered.concat _⟩
  intro _
  by_cases hname : service.identity.id = Lifecycle.serverName
  · rw [hname]
    exact (serves_setHealth_self _).mpr rfl
  · rw [serves_setHealth_of_ne hname]
    exact hup.processor

/-- The server is not announced any more. -/
lemma Truthful.withdraw (htruth : Truthful service address h) :
    Truthful service address
        (h ++ [(.operates (.setHealth Lifecycle.serverName .notServing), result)]) ∧
      ¬ Serves Lifecycle.serverName
        (h ++ [(.operates (.setHealth Lifecycle.serverName .notServing), result)]) := by
  have hserver : ¬ Serves Lifecycle.serverName
      (h ++ [(.operates (.setHealth Lifecycle.serverName .notServing), result)]) := by
    rw [serves_setHealth_self]
    exact Health.noConfusion
  refine ⟨⟨fun hserves => (hserver hserves).elim, ?_⟩, hserver⟩
  intro hserves
  by_cases hname : service.identity.id = Lifecycle.serverName
  · rw [hname] at hserves
    exact (hserver hserves).elim
  · rw [serves_setHealth_of_ne hname] at hserves
    exact (htruth.processor hserves).concat _

/-- The processor is not announced any more, and the server was not, unless it has the same name. -/
lemma down_of_withdraw
    (hserver : Serves Lifecycle.serverName h → service.identity.id = Lifecycle.serverName) :
    Down service (h ++ [(.operates (.setHealth service.identity.id .notServing), result)]) := by
  refine ⟨?_, ?_⟩
  · intro hserves
    by_cases hname : service.identity.id = Lifecycle.serverName
    · rw [hname, serves_setHealth_self] at hserves
      cases hserves
    · rw [serves_setHealth_of_ne (Ne.symm hname)] at hserves
      exact hname (hserver hserves)
  · rw [serves_setHealth_self]
    exact Health.noConfusion

lemma down_nil : Down service [] := ⟨nofun, nofun⟩

end ServeHistory

namespace ServePlan

open ServeHistory

variable {service : ProcessorService} {address : Net.Endpoint} {h : ServeHistory}

lemma isSilent_note (record : LogRecord) : (ServeDeed.operates (.note record)).IsSilent :=
  fun _ => rfl

/-- The processor is announced once its instance is registered. -/
lemma announcing_processor (record : LogRecord) (hdown : Down service h)
    (hregistered : Registered service address h) :
    (untilFailure [.setHealth service.identity.id .serving, .note record]).Ensures
      (Truthful service address)
      (fun result after => result = .ok () ∧ Up service address after) h := by
  refine ⟨hdown.truthful, ?_⟩
  rintro _ rfl
  have hup := hdown.announce (.ok ()) hregistered
  refine ⟨hup.truthful, ?_⟩
  rintro _ rfl
  have hnoted := hup.silent (.ok ()) (isSilent_note record)
  exact ⟨hnoted.truthful, rfl, hnoted⟩

/-- The processor is announced when it starts, unless its instance cannot be registered. -/
lemma starting_processor (address : Net.Endpoint) (hdown : Down service h) :
    (untilFailure (service.starting address)).Ensures (Truthful service address)
      (fun result after => match result with
        | .ok () => Up service address after
        | .error _ => Down service after) h := by
  unfold ProcessorService.starting
  cases hflag : service.register with
  | false =>
    have hregistered : Registered service address h := by
      intro hregister
      rw [hflag] at hregister
      cases hregister
    refine (announcing_processor _ hdown hregistered).mono (fun _ htruth => htruth) ?_
    rintro _ after ⟨rfl, hup⟩
    exact hup
  | true =>
    refine ⟨hdown.truthful, ?_⟩
    intro result _
    have hsilent : (ServeDeed.operates (.register (service.registration address))).IsSilent :=
      fun _ => rfl
    have hasked := hdown.silent result hsilent
    cases result with
    | error e => exact ⟨hasked.truthful, hasked⟩
    | ok _ =>
      have hregistered : Registered service address
          (h ++ [(.operates (.register (service.registration address)), .ok ())]) :=
        fun _ => List.mem_append_right _ (List.mem_singleton_self _)
      refine (announcing_processor _ hasked hregistered).mono (fun _ htruth => htruth) ?_
      rintro _ after ⟨rfl, hup⟩
      exact hup

lemma starting_health (hup : Up service address h) :
    (untilFailure (ServerService.health.starting address)).Ensures (Truthful service address)
      (fun result after => result = .ok () ∧ Truthful service address after) h := by
  refine ⟨hup.truthful, ?_⟩
  rintro _ rfl
  have htruth := hup.announce (.ok ())
  exact ⟨htruth, rfl, htruth⟩

/-- The server is not announced any more, whatever else there is to stop. -/
lemma stopping_health (terminate : Bool) (htruth : Truthful service address h) :
    (throughout none (ServerService.health.stopping terminate)).Ensures (Truthful service address)
      (fun _ after => Truthful service address after ∧ ¬ Serves Lifecycle.serverName after) h := by
  refine ⟨htruth, ?_⟩
  rintro _ rfl
  obtain ⟨hafter, hserver⟩ := htruth.withdraw (.ok ())
  exact ⟨hafter, hafter, hserver⟩

/-- When a processor stops, all it does after it is not announced any more sets no health. -/
lemma isSilent_of_stopping {terminate : Bool} {op : ServiceOperation}
    (hmem : op ∈ (if service.register then [.deregister service.uniqueServiceId] else []) ++
      (if terminate then [] else [.stopTiming]) ++
      [.note ⟨.info, "processor service stopped", [("processor", .text service.identity.id)]⟩]) :
    (ServeDeed.operates op).IsSilent := by
  intro name
  rcases List.mem_append.mp hmem with hmem | hmem
  · rcases List.mem_append.mp hmem with hmem | hmem
    · split at hmem
      · rw [List.mem_singleton.mp hmem]
        rfl
      · cases hmem
    · split at hmem
      · cases hmem
      · rw [List.mem_singleton.mp hmem]
        rfl
  · rw [List.mem_singleton.mp hmem]
    rfl

/-- The processor is not announced any more, whatever comes of the rest. -/
lemma stopping_processor (terminate : Bool) (htruth : Truthful service address h)
    (hserver : Serves Lifecycle.serverName h → service.identity.id = Lifecycle.serverName) :
    (throughout none (service.stopping terminate)).Ensures (Truthful service address)
      (fun _ after => Down service after) h := by
  refine ⟨htruth, ?_⟩
  rintro _ rfl
  have hdown := down_of_withdraw (.ok ()) hserver
  refine (throughout_keeps none hdown ?_).mono (fun _ hdown => hdown.truthful)
    fun _ _ hdown => hdown
  intro op hmem after result hafter
  exact hafter.silent result (isSilent_of_stopping hmem)

/-- The server is announced last, if at all. -/
lemma startAll_announces (address : Net.Endpoint) (withHealth : Bool) (hdown : Down service h) :
    (startAll address (ServerService.registry service withHealth).inOrder).Ensures
      (Truthful service address)
      (fun result after => match result with
        | .ok () => Upheld service address withHealth after
        | .error _ => Down service after) h := by
  rw [ServerService.inOrder_registry]
  refine (starting_processor address hdown).andThen ?_
  intro result after hafter
  cases result with
  | error e => exact ⟨hafter.truthful, hafter⟩
  | ok _ =>
    have hup : Up service address (after ++ [(.started ProcessorService.serviceName, .ok ())]) :=
      hafter.silent _ fun _ => rfl
    refine .after hafter.truthful (fun _ hresult => hresult) ?_
    cases withHealth with
    | false => exact ⟨hup.truthful, hup.truthful, fun _ => hup.server⟩
    | true =>
      refine (starting_health hup).andThen ?_
      rintro _ after ⟨rfl, htruth⟩
      refine .after htruth (fun _ hresult => hresult) ?_
      have hstarted : Truthful service address
          (after ++ [(.started HealthService.serviceName, .ok ())]) := htruth.silent _ fun _ => rfl
      exact ⟨hstarted, hstarted, nofun⟩

lemma stopAll_nil (terminate : Bool) (failure : Option Cause) (hdown : Down service h) :
    (stopAll terminate failure []).Ensures (Truthful service address)
      (fun _ after => Down service after) h := by
  cases failure with
  | none => exact ⟨hdown.truthful, hdown⟩
  | some e => exact ⟨hdown.truthful, hdown⟩

/-- In the end nothing is announced, if the processor is the last to stop. -/
lemma stopAll_processor (terminate : Bool) (failure : Option Cause)
    (htruth : Truthful service address h)
    (hserver : Serves Lifecycle.serverName h → service.identity.id = Lifecycle.serverName) :
    (stopAll terminate failure [(ServerService.processor service).hosted]).Ensures
      (Truthful service address) (fun _ after => Down service after) h := by
  have hsilent : (ServeDeed.stops ProcessorService.serviceName).IsSilent := fun _ => rfl
  refine .after htruth (fun _ hresult => hresult) ?_
  refine (stopping_processor terminate (htruth.silent (.ok ()) hsilent) ?_).andThen ?_
  · rw [serves_silent hsilent]
    exact hserver
  · intro result after hdown
    cases result with
    | ok _ => exact stopAll_nil terminate failure hdown
    | error e =>
      exact .after hdown.truthful (fun _ hresult => hresult)
        (stopAll_nil terminate _ (hdown.silent _ (isSilent_note _)))

/-- Whatever the services have come to, in the end nothing is announced. -/
lemma stopAll_withdraws (terminate : Bool) {withHealth : Bool}
    (hupheld : Upheld service address withHealth h) :
    (stopAll terminate none (ServerService.registry service withHealth).inOrder.reverse).Ensures
      (Truthful service address) (fun _ after => Down service after) h := by
  rw [ServerService.inOrder_registry]
  cases withHealth with
  | false => exact stopAll_processor terminate none hupheld.truthful (hupheld.server rfl)
  | true =>
    have hsilent : (ServeDeed.stops HealthService.serviceName).IsSilent := fun _ => rfl
    refine .after hupheld.truthful (fun _ hresult => hresult) ?_
    refine (stopping_health terminate (hupheld.truthful.silent (.ok ()) hsilent)).andThen ?_
    rintro result after ⟨hafter, hdown⟩
    have hprocessor : ∀ failure,
        (stopAll terminate failure [(ServerService.processor service).hosted]).Ensures
          (Truthful service address) (fun _ after => Down service after) after :=
      fun failure => stopAll_processor terminate failure hafter fun hserves => (hdown hserves).elim
    cases result with
    | ok _ => exact hprocessor none
    | error e =>
      have hnoted :=
        hafter.silent (.ok ()) (isSilent_note (Registry.stopFailure HealthService.serviceName e))
      refine .after hafter (fun _ hresult => hresult) (stopAll_processor terminate _ hnoted ?_)
      intro hserves
      rw [serves_silent (isSilent_note _)] at hserves
      exact (hdown hserves).elim

end ServePlan

namespace Server

open ServePlan ServeHistory

variable {service : ProcessorService} {address : Net.Endpoint} {h : ServeHistory}
  (bind : Net.Endpoint) (config : NetworkConfig)

/-- The end of both plans. -/
lemma ending_truthful {α : Type} {Q : α → ServeHistory → Prop} (terminate : Bool)
    {withHealth : Bool} {last : Except Cause Unit → ServePlan α}
    (hupheld : Upheld service address withHealth h)
    (hlast : ∀ result after, Down service after →
      (last result).Ensures (Truthful service address) Q after) :
    ((stopAll terminate none
        (build bind config service withHealth).registry.inOrder.reverse).andThen
      fun result => after (.changes .setStopped) (last result)).Ensures
        (Truthful service address) Q h := by
  refine (stopAll_withdraws terminate hupheld).andThen ?_
  intro result after hafter
  refine .after hafter.truthful (fun _ hresult => hresult) (hlast result _ ?_)
  exact hafter.silent _ fun _ => rfl

lemma planOfFailure_truthful (withHealth : Bool) (failure : Cause) (hdown : Down service h) :
    ((build bind config service withHealth).planOfFailure failure).Ensures
      (Truthful service address) (fun _ after => Down service after) h := by
  have hnoted := hdown.silent (.ok ()) (isSilent_note ⟨.warn, "service init failed; shutting down",
    [("error", .text failure.text)]⟩)
  refine .after hdown.truthful (fun _ hresult => hresult) ?_
  refine ending_truthful bind config true (hnoted.upheld withHealth) ?_
  intro result after hafter
  exact ⟨hafter.truthful, hafter⟩

/-- What is announced stays so until the services stop. -/
lemma planOfServing_truthful {withHealth : Bool} (hupheld : Upheld service address withHealth h) :
    ((build bind config service withHealth).planOfServing address).Ensures
      (Truthful service address) (fun _ after => Down service after) h := by
  have hafter : ∀ {deed : ServeDeed} {plan : ServePlan (Except Cause Unit)} {h : ServeHistory},
      deed.IsSilent → (∀ result, deed.MayGive result → result = .ok ()) →
      Upheld service address withHealth h →
      (∀ h, Upheld service address withHealth h →
        plan.Ensures (Truthful service address) (fun _ after => Down service after) h) →
      (after deed plan).Ensures (Truthful service address) (fun _ after => Down service after) h :=
    fun hsilent hdeed hupheld hplan =>
      .after hupheld.truthful hdeed (hplan _ (hupheld.silent _ hsilent))
  unfold planOfServing noting
  refine hafter (fun _ => rfl) (fun _ hresult => hresult) hupheld ?_
  intro h hready
  refine hafter (isSilent_note _) (fun _ hresult => hresult) hready ?_
  intro h hserving
  refine hafter (fun _ => rfl) (fun _ hresult => hresult) hserving ?_
  intro h hattended
  refine hafter (fun _ => rfl) (fun _ hresult => hresult) hattended ?_
  intro h hsignalled
  refine hafter (isSilent_note _) (fun _ hresult => hresult) hsignalled ?_
  intro h hnoted
  refine hafter (fun _ => rfl) (fun _ hresult => hresult) hnoted ?_
  intro h hdraining
  refine ending_truthful bind config false hdraining ?_
  intro result after hstopped
  refine .after hstopped.truthful (fun _ hresult => hresult) ?_
  have hnoted := hstopped.silent (.ok ()) (isSilent_note ⟨.info, "server stopped", []⟩)
  exact ⟨hnoted.truthful, hnoted⟩

/-- Whatever fails, only what is so is announced, and in the end nothing. -/
theorem plan_truthful (service : ProcessorService) (address : Net.Endpoint) (withHealth : Bool) :
    ((build bind config service withHealth).plan (.ok address)).Ensures
      (Truthful service address) (fun _ after => Down service after) [] := by
  have hdown : Down service [] := down_nil
  refine .after hdown.truthful (fun _ hresult => hresult) ?_
  refine
    (startAll_announces address withHealth (hdown.silent (.ok ()) (isSilent_note _))).andThen ?_
  intro result after hafter
  cases result with
  | error failure => exact planOfFailure_truthful bind config withHealth failure hafter
  | ok _ => exact planOfServing_truthful bind config hafter

end Server

end ProcessorHost
