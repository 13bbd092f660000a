import Mathlib.Data.List.Induction
import Mathlib.Data.List.Nodup
import Mathlib.Tactic.Common
import ProcessorHost.Proofs.Tables
import ProcessorHost.Registry

/-!
# Services in sequence

However often names are registered, a registry lists each of them once, in the order in which they
were first registered, with the service that was registered last. So services start in this order
until one fails, and all of them stop in the reverse order.
-/

namespace ProcessorHost

namespace Registry

variable {α σ : Type}

/-- The registry after some registrations. -/
def ofRegistrations (services : List (Hosted α)) : Registry α := services.foldl register empty

def names (services : List (Hosted α)) : List String := services.map (·.name)

/-- The service that was last registered under a name. -/
def latest? (services : List (Hosted α)) (name : String) : Option (Hosted α) :=
  services.reverse.find? fun h => h.name = name

/-- A registry keeps some registrations. -/
structure Keeps (r : Registry α) (services : List (Hosted α)) : Prop where
  latest : ∀ name, r.getByName? name = latest? services name
  mem_order : ∀ name, name ∈ r.order ↔ name ∈ names services
  /-- A name stands before those that were first registered after it. -/
  firsts : r.order.Pairwise fun name name' =>
    (names services).idxOf name < (names services).idxOf name'
  filed : (r.byName.map Prod.fst).Perm r.order

variable {r : Registry α} {services : List (Hosted α)} {h : Hosted α} {name : String}

lemma names_append (services : List (Hosted α)) (h : Hosted α) :
    names (services ++ [h]) = names services ++ [h.name] := List.map_append

lemma find?_reverse_append (p : Hosted α → Bool) (services : List (Hosted α)) (h : Hosted α) :
    (services ++ [h]).reverse.find? p = if p h then some h else services.reverse.find? p := by
  rw [List.reverse_append, List.reverse_singleton, List.singleton_append, List.find?_cons]
  cases p h with
  | true => rfl
  | false => rfl

lemma latest?_append (services : List (Hosted α)) (h : Hosted α) (name : String) :
    latest? (services ++ [h]) name = if h.name = name then some h else latest? services name := by
  unfold latest?
  rw [find?_reverse_append]
  simp only [decide_eq_true_eq]

lemma name_of_latest (hlatest : latest? services name = some h) : h.name = name := by
  simpa using List.find?_some hlatest

lemma isSome_latest_iff : (latest? services name).isSome ↔ name ∈ names services := by
  simp [latest?, names, List.find?_isSome]

lemma getByName?_register (r : Registry α) (h : Hosted α) (name : String) :
    (r.register h).getByName? name = if h.name = name then some h else r.getByName? name :=
  Keyed.find?_cons_erase _ _ _ _

lemma keeps_empty : (empty : Registry α).Keeps [] :=
  ⟨fun _ => rfl, fun _ => Iff.rfl, List.Pairwise.nil, List.Perm.refl _⟩

namespace Keeps

lemma nodup (hk : r.Keeps services) : r.order.Nodup := by
  apply hk.firsts.imp
  intro name name' hlt heq
  subst heq
  exact Nat.lt_irrefl _ hlt

/-- A name that is registered again keeps its place, and a new one comes last. -/
lemma order_register (hk : r.Keeps services) (h : Hosted α) : (r.register h).order =
    if h.name ∈ names services then r.order else r.order ++ [h.name] := by
  have hsome : (r.getByName? h.name).isSome ↔ h.name ∈ names services := by
    rw [hk.latest]
    exact isSome_latest_iff
  change (if (r.getByName? h.name).isSome then r.order else r.order ++ [h.name]) = _
  simp only [hsome]

lemma firsts_register (hk : r.Keeps services) (h : Hosted α) :
    (r.register h).order.Pairwise fun name name' =>
      (names (services ++ [h])).idxOf name < (names (services ++ [h])).idxOf name' := by
  have hearlier {name : String} (hmem : name ∈ r.order) :
      (names (services ++ [h])).idxOf name = (names services).idxOf name := by
    rw [names_append]
    exact List.idxOf_append_of_mem ((hk.mem_order name).mp hmem)
  have hold : r.order.Pairwise fun name name' =>
      (names (services ++ [h])).idxOf name < (names (services ++ [h])).idxOf name' := by
    apply hk.firsts.imp_of_mem
    intro name name' hmem hmem' hlt
    rwa [hearlier hmem, hearlier hmem']
  rw [hk.order_register]
  split
  · exact hold
  · rename_i hnew
    refine List.pairwise_append.mpr ⟨hold, List.pairwise_singleton _ _, ?_⟩
    intro name hmem name' hlast
    obtain rfl := List.mem_singleton.mp hlast
    rw [hearlier hmem, names_append, List.idxOf_append_of_notMem hnew]
    exact Nat.lt_of_lt_of_le (List.idxOf_lt_length_of_mem ((hk.mem_order name).mp hmem))
      (Nat.le_add_right _ _)

lemma filed_register (hk : r.Keeps services) (h : Hosted α) :
    ((r.register h).byName.map Prod.fst).Perm (r.register h).order := by
  have hkeys : (r.register h).byName.map Prod.fst =
      h.name :: (r.byName.map Prod.fst).filter (· ≠ h.name) := by
    rw [List.filter_map]
    rfl
  have hothers := hk.filed.filter (· ≠ h.name)
  rw [hkeys, hk.order_register]
  split
  · rename_i hold
    have herase : r.order.erase h.name = r.order.filter (· ≠ h.name) := by
      rw [hk.nodup.erase_eq_filter]
      refine List.filter_congr fun name _ => ?_
      by_cases heq : name = h.name <;> simp [heq]
    have hself := List.perm_cons_erase ((hk.mem_order h.name).mpr hold)
    rw [herase] at hself
    exact (hothers.cons h.name).trans hself.symm
  · rename_i hnew
    have hall : r.order.filter (· ≠ h.name) = r.order := by
      rw [List.filter_eq_self]
      intro name hmem
      have hne : name ≠ h.name := fun heq => hnew (heq ▸ (hk.mem_order name).mp hmem)
      simpa using hne
    rw [hall] at hothers
    exact (hothers.cons h.name).trans (List.perm_append_singleton _ _).symm

lemma register (hk : r.Keeps services) (h : Hosted α) : (r.register h).Keeps (services ++ [h]) where
  latest name := by rw [getByName?_register, latest?_append, hk.latest]
  mem_order name := by
    rw [hk.order_register, names_append, List.mem_append, List.mem_singleton]
    split
    · rename_i hold
      rw [hk.mem_order]
      exact ⟨.inl, fun hmem => hmem.elim id fun heq => heq ▸ hold⟩
    · rw [List.mem_append, List.mem_singleton, hk.mem_order]
  firsts := hk.firsts_register h
  filed := hk.filed_register h

end Keeps

/-- A registry keeps what was registered. -/
theorem keeps_ofRegistrations (services : List (Hosted α)) :
    (ofRegistrations services).Keeps services := by
  induction services using List.reverseRecOn with
  | nil => exact keeps_empty
  | append_singleton rest h ih =>
    unfold ofRegistrations at ih ⊢
    rw [List.foldl_append]
    exact ih.register h

namespace Keeps

lemma size_eq (hk : r.Keeps services) : r.size = r.order.length := by
  have hlength := hk.filed.length_eq
  rwa [List.length_map] at hlength

lemma map_name_inOrder (hk : r.Keeps services) : r.inOrder.map (·.name) = r.order := by
  have hfound : ∀ name ∈ r.order, (r.getByName? name).map (·.name) = some name := by
    intro name hmem
    rw [hk.latest]
    obtain ⟨h, hlatest⟩ := Option.isSome_iff_exists.mp
      (isSome_latest_iff.mpr ((hk.mem_order name).mp hmem))
    rw [hlatest, Option.map_some, name_of_latest hlatest]
  unfold inOrder
  rw [List.map_filterMap, List.filterMap_congr hfound, List.filterMap_some]

lemma latest_of_mem_inOrder (hk : r.Keeps services) (hmem : h ∈ r.inOrder) :
    latest? services h.name = some h := by
  obtain ⟨name, -, hfound⟩ := List.mem_filterMap.mp hmem
  rw [hk.latest] at hfound
  rwa [name_of_latest hfound]

end Keeps

/-- Calls on services one after the other, each with what it answered. -/
inductive Calls (call : σ → Hosted α → σ × Except Cause Unit) :
    σ → List (Hosted α × Except Cause Unit) → σ → Prop
  | nil (s : σ) : Calls call s [] s
  | cons {s s₁ s₂ : σ} {h : Hosted α} {result : Except Cause Unit}
      {rest : List (Hosted α × Except Cause Unit)} :
      call s h = (s₁, result) → Calls call s₁ rest s₂ → Calls call s ((h, result) :: rest) s₂

/-- One call to start a service. -/
def starting (start : σ → α → σ × Except Cause Unit) (s : σ) (h : Hosted α) :
    σ × Except Cause Unit :=
  start s h.service

/-- One call to stop a service, whose failure is reported. -/
def stopping (stop : σ → α → σ × Except Cause Unit) (report : σ → LogRecord → σ) (s : σ)
    (h : Hosted α) : σ × Except Cause Unit :=
  match stop s h.service with
  | (s, .ok ()) => (s, .ok ())
  | (s, .error e) => (report s (stopFailure h.name e), .error e)

variable {calls : List (Hosted α × Except Cause Unit)} {result : Except Cause Unit} {e : Cause}

/-- The calls are on the services in turn, up to the first that fails. -/
structure InTurn (services : List (Hosted α)) (calls : List (Hosted α × Except Cause Unit))
    (result : Except Cause Unit) : Prop where
  called : calls.map Prod.fst <+: services
  all_of_ok : result = .ok () → calls.map Prod.fst = services ∧ ∀ c ∈ calls, c.2 = .ok ()
  last_of_error : ∀ e, result = .error e →
    ∃ before h, calls = before ++ [(h, .error e)] ∧ ∀ c ∈ before, c.2 = .ok ()

/-- The result is the first failure of the calls. -/
structure FirstFailure (calls : List (Hosted α × Except Cause Unit))
    (result : Except Cause Unit) : Prop where
  ok_iff : result = .ok () ↔ ∀ c ∈ calls, c.2 = .ok ()
  error_iff : ∀ e, result = .error e ↔
    ∃ before h after, calls = before ++ (h, .error e) :: after ∧ ∀ c ∈ before, c.2 = .ok ()

namespace InTurn

lemma cons_ok (ht : InTurn services calls result) (h : Hosted α) :
    InTurn (h :: services) ((h, .ok ()) :: calls) result where
  called := List.prefix_cons_inj h |>.mpr ht.called
  all_of_ok hok := by
    obtain ⟨hall, hoks⟩ := ht.all_of_ok hok
    refine ⟨congrArg (h :: ·) hall, ?_⟩
    simpa using hoks
  last_of_error e herror := by
    obtain ⟨before, last, rfl, hbefore⟩ := ht.last_of_error e herror
    refine ⟨(h, .ok ()) :: before, last, rfl, ?_⟩
    simpa using hbefore

lemma of_error (services : List (Hosted α)) (h : Hosted α) (e : Cause) :
    InTurn (h :: services) [(h, .error e)] (.error e) where
  called := List.prefix_cons_inj h |>.mpr List.nil_prefix
  all_of_ok hok := nomatch hok
  last_of_error e' herror := by
    obtain rfl := Except.error.inj herror
    exact ⟨[], h, rfl, fun _ hmem => absurd hmem List.not_mem_nil⟩

end InTurn

/-- By induction on the services that are still to start. -/
lemma startAll_inTurn (start : σ → α → σ × Except Cause Unit) (services : List (Hosted α))
    (s : σ) : ∃ calls, Calls (starting start) s calls (startAll start s services).1 ∧
      InTurn services calls (startAll start s services).2 := by
  induction services generalizing s with
  | nil =>
    refine ⟨[], .nil s, List.nil_prefix, fun _ => ⟨rfl, ?_⟩, fun _ herror => nomatch herror⟩
    exact fun _ hmem => absurd hmem List.not_mem_nil
  | cons h rest ih =>
    unfold startAll
    match hstart : start s h.service with
    | (s', .ok ()) =>
      obtain ⟨calls, hcalls, hturn⟩ := ih s'
      exact ⟨(h, .ok ()) :: calls, .cons hstart hcalls, hturn.cons_ok h⟩
    | (s', .error e) => exact ⟨[(h, .error e)], .cons hstart (.nil s'), .of_error rest h e⟩

/-- How a call failed. -/
def failure? : Except Cause Unit → Option Cause
  | .ok () => none
  | .error e => some e

/-- The result of calls of which the first failure is known. -/
def concluded : Option Cause → Except Cause Unit
  | none => .ok ()
  | some e => .error e

lemma failure?_eq_none_iff : failure? result = none ↔ result = .ok () := by
  rcases result with e | ⟨⟨⟩⟩ <;> simp [failure?]

lemma failure?_eq_some_iff : failure? result = some e ↔ result = .error e := by
  rcases result with e' | ⟨⟨⟩⟩ <;> simp [failure?]

lemma concluded_eq_ok_iff (failure : Option Cause) :
    concluded failure = .ok () ↔ failure = none := by
  cases failure <;> simp [concluded]

lemma concluded_eq_error_iff (failure : Option Cause) (e : Cause) :
    concluded failure = .error e ↔ failure = some e := by
  cases failure <;> simp [concluded]

lemma firstFailure_concluded (calls : List (Hosted α × Except Cause Unit)) :
    FirstFailure calls (concluded (calls.findSome? fun c => failure? c.2)) where
  ok_iff := by
    rw [concluded_eq_ok_iff, List.findSome?_eq_none_iff]
    simp only [failure?_eq_none_iff]
  error_iff e := by
    rw [concluded_eq_error_iff, List.findSome?_eq_some_iff]
    simp only [failure?_eq_none_iff, failure?_eq_some_iff]
    constructor
    · rintro ⟨before, ⟨h, -⟩, after, rfl, rfl, hbefore⟩
      exact ⟨before, h, after, rfl, hbefore⟩
    · rintro ⟨before, h, after, rfl, hbefore⟩
      exact ⟨before, (h, .error e), after, rfl, rfl, hbefore⟩

/-- By induction on the services that are still to stop; what failed before them comes first. -/
lemma stopAll_calls (stop : σ → α → σ × Except Cause Unit) (report : σ → LogRecord → σ)
    (services : List (Hosted α)) (s : σ) (failure : Option Cause) :
    ∃ calls, Calls (stopping stop report) s calls (stopAll stop report s failure services).1 ∧
      calls.map Prod.fst = services ∧ (stopAll stop report s failure services).2 =
        concluded (failure.or (calls.findSome? fun c => failure? c.2)) := by
  induction services generalizing s failure with
  | nil =>
    refine ⟨[], ?_, rfl, ?_⟩ <;> cases failure
    · exact .nil s
    · exact .nil s
    · rfl
    · rfl
  | cons h rest ih =>
    unfold stopAll
    match hstop : stop s h.service with
    | (s', .ok ()) =>
      obtain ⟨calls, hcalls, hall, hresult⟩ := ih s' failure
      have hcall : stopping stop report s h = (s', .ok ()) := by
        unfold stopping
        rw [hstop]
      exact ⟨(h, .ok ()) :: calls, .cons hcall hcalls, congrArg (h :: ·) hall, hresult⟩
    | (s', .error e) =>
      obtain ⟨calls, hcalls, hall, hresult⟩ :=
        ih (report s' (stopFailure h.name e)) (failure.or (some e))
      have hcall : stopping stop report s h = (report s' (stopFailure h.name e), .error e) := by
        unfold stopping
        rw [hstop]
      refine ⟨(h, .error e) :: calls, .cons hcall hcalls, congrArg (h :: ·) hall, ?_⟩
      rw [hresult, Option.or_assoc]
      rfl

/-- What a registry says of some registrations and does with them. -/
structure Sequenced (r : Registry α) (services : List (Hosted α)) : Prop where
  nodup : r.order.Nodup
  mem_order : ∀ name, name ∈ r.order ↔ name ∈ names services
  /-- A name stands before those that were first registered after it. -/
  firsts : r.order.Pairwise fun name name' =>
    (names services).idxOf name < (names services).idxOf name'
  size : r.size = r.order.length
  inOrder : r.inOrder.map (·.name) = r.order
  latest : ∀ h ∈ r.inOrder, latest? services h.name = some h
  starts : ∀ (σ : Type) (start : σ → α → σ × Except Cause Unit) (s : σ),
    ∃ calls, Calls (starting start) s calls (r.initAll start s).1 ∧
      InTurn r.inOrder calls (r.initAll start s).2
  stops : ∀ (σ : Type) (stop : Bool → σ → α → σ × Except Cause Unit)
      (report : σ → LogRecord → σ) (terminate : Bool) (s : σ),
    ∃ calls, Calls (stopping (stop terminate) report) s calls
        (r.shutdownAll (stop terminate) report s).1 ∧
      calls.map Prod.fst = r.inOrder.reverse ∧
      FirstFailure calls (r.shutdownAll (stop terminate) report s).2

/-- Services start in the order of their first registration, up to the first that fails, and all
of them stop in the reverse order. -/
theorem registrations_sequenced (services : List (Hosted α)) :
    (ofRegistrations services).Sequenced services where
  nodup := (keeps_ofRegistrations services).nodup
  mem_order := (keeps_ofRegistrations services).mem_order
  firsts := (keeps_ofRegistrations services).firsts
  size := (keeps_ofRegistrations services).size_eq
  inOrder := (keeps_ofRegistrations services).map_name_inOrder
  latest _ := (keeps_ofRegistrations services).latest_of_mem_inOrder
  starts _ start s := startAll_inTurn start _ s
  stops _ stop report terminate s := by
    obtain ⟨calls, hcalls, hall, hresult⟩ :=
      stopAll_calls (stop terminate) report (ofRegistrations services).inOrder.reverse s none
    refine ⟨calls, hcalls, hall, ?_⟩
    unfold shutdownAll
    rw [hresult, Option.none_or]
    exact firstFailure_concluded calls

end Registry

end ProcessorHost
