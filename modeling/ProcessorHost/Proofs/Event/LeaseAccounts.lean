import Mathlib.Data.List.Infix
import Mathlib.Tactic.Common
import ProcessorHost.Proofs.Event.LeaseCounts

/-!
# The accounts of an event store

A history keeps, beside a store, the events on which leases were taken and given back. The count
of an event is what was taken on it and not given back, a lease is given back exactly if that is
positive, and an event goes only when nothing is outstanding on it. This is so exactly as long
as no event is stored in the place of one on which there are leases: storing forgets them.
-/

namespace ProcessorHost

inductive EventCall
  | insert (event : Event)
  | openEvent (id : String)
  | closeEvent (id : String)
deriving DecidableEq, Repr

/-- A store with the events that were opened and those that were closed, in order. -/
structure LeaseHistory where
  store : EventStore
  opened : List String
  closed : List String

namespace LeaseHistory

def begin : LeaseHistory := ⟨.empty, [], []⟩

/-- The history after a call. One that fails neither opens nor closes an event. -/
def next (h : LeaseHistory) : EventCall → LeaseHistory
  | .insert event => { h with store := h.store.insert event }
  | .openEvent id =>
    match EventStore.client.openEvent h.store id with
    | (store, .ok _) => { h with store, opened := h.opened ++ [id] }
    | (store, .error _) => { h with store }
  | .closeEvent id =>
    match EventStore.client.closeEvent h.store id with
    | (store, .ok ()) => { h with store, closed := h.closed ++ [id] }
    | (store, .error _) => { h with store }

def after (h : LeaseHistory) (calls : List EventCall) : LeaseHistory := calls.foldl next h

/-- The successful opens of an event less the successful closes. -/
def outstanding (h : LeaseHistory) (id : String) : Int := h.opened.count id - h.closed.count id

/-- The store counts what is outstanding. -/
def Balanced (h : LeaseHistory) : Prop := ∀ id, (h.store.leases id : Int) = h.outstanding id

structure Accounted (h : LeaseHistory) : Prop where
  balanced : h.Balanced
  closes : ∀ id, (EventStore.client.closeEvent h.store id).2 = .ok () ↔ 0 < h.outstanding id
  refuses : ∀ id, ¬ 0 < h.outstanding id →
    EventStore.client.closeEvent h.store id = (h.store, .error (EventStore.notOpen id))
  removes : ∀ call id, h.store.find? id ≠ none → (h.next call).store.find? id = none →
    (h.next call).outstanding id = 0

/-- Whether a call leaves the events alone on which there are leases. -/
def Spares (h : LeaseHistory) : EventCall → Prop
  | .insert event => h.store.leases event.id = 0
  | _ => True

/-- Whether each of some calls does. -/
def SparesAll (h : LeaseHistory) : List EventCall → Prop
  | [] => True
  | call :: rest => h.Spares call ∧ (h.next call).SparesAll rest

variable {h : LeaseHistory}

lemma next_openEvent (h : LeaseHistory) (id : String) :
    h.next (.openEvent id) =
      ⟨(h.store.lease id).2, h.opened ++ [id], h.closed⟩ := rfl

/-- A lease is given back, or there is none and nothing changes. -/
lemma closeEvent_cases (h : LeaseHistory) (id : String) :
    (∃ store, h.store.close id = .ok store ∧ 0 < h.store.leases id ∧
      EventStore.client.closeEvent h.store id = (store, .ok ()) ∧
      h.next (.closeEvent id) = ⟨store, h.opened, h.closed ++ [id]⟩) ∨
    (h.store.leases id = 0 ∧
      EventStore.client.closeEvent h.store id = (h.store, .error (EventStore.notOpen id)) ∧
      h.next (.closeEvent id) = h) := by
  by_cases hpos : 0 < h.store.leases id
  · obtain ⟨store, hclose⟩ := EventStore.exists_close hpos
    have hclient := EventStore.client_closeEvent hclose
    have hnext : h.next (.closeEvent id) = ⟨store, h.opened, h.closed ++ [id]⟩ := by
      simp only [next, hclient]
    exact .inl ⟨store, hclose, hpos, hclient, hnext⟩
  · have hzero : h.store.leases id = 0 := by omega
    have hclient := EventStore.client_closeEvent_of_none hzero
    have hnext : h.next (.closeEvent id) = h := by
      simp only [next, hclient]
    exact .inr ⟨hzero, hclient, hnext⟩

lemma outstanding_open (h : LeaseHistory) (store : EventStore) (key id : String) :
    outstanding ⟨store, h.opened ++ [key], h.closed⟩ id =
      h.outstanding id + if id = key then 1 else 0 := by
  unfold outstanding
  rw [List.count_append, List.count_singleton]
  by_cases hid : id = key
  · simp [hid]
    omega
  · simp [hid, Ne.symm hid]

lemma outstanding_close (h : LeaseHistory) (store : EventStore) (key id : String) :
    outstanding ⟨store, h.opened, h.closed ++ [key]⟩ id =
      h.outstanding id - if id = key then 1 else 0 := by
  unfold outstanding
  rw [List.count_append, List.count_singleton]
  by_cases hid : id = key
  · simp [hid]
    omega
  · simp [hid, Ne.symm hid]

lemma Balanced.next (hb : h.Balanced) {call : EventCall} (hspares : h.Spares call) :
    (h.next call).Balanced := by
  intro id
  have hid := hb id
  cases call with
  | insert event =>
    have hleases := EventStore.leases_insert hspares id
    change ((h.store.insert event).leases id : Int) = h.outstanding id
    rw [hleases, hid]
  | openEvent key =>
    have hleases := EventStore.leases_lease h.store key id
    rw [next_openEvent, outstanding_open, hleases, ← hid]
    split
    · simp
    · simp
  | closeEvent key =>
    rcases h.closeEvent_cases key with ⟨store, hclose, -, -, hnext⟩ | ⟨-, -, hnext⟩
    · have hleases := EventStore.leases_close hclose id
      rw [hnext, outstanding_close, ← hid, hleases]
      split
      · simp
      · simp
    · rw [hnext]
      exact hid

lemma Balanced.removes (hb : h.Balanced) (call : EventCall) (id : String)
    (hheld : h.store.find? id ≠ none) (hgone : (h.next call).store.find? id = none) :
    (h.next call).outstanding id = 0 := by
  have hspares : h.Spares call := by
    cases call with
    | insert event =>
      -- An event that is stored is held, so this call removes nothing.
      have hfind := EventStore.find?_insert h.store event id
      change (h.store.insert event).find? id = none at hgone
      rw [hgone] at hfind
      split at hfind
      · cases hfind
      · exact absurd hfind.symm hheld
    | _ => trivial
  have hbalance := hb.next hspares id
  unfold EventStore.leases at hbalance
  rw [hgone] at hbalance
  exact hbalance.symm

lemma Balanced.accounted (hb : h.Balanced) : h.Accounted where
  balanced := hb
  closes id := by
    have hid := hb id
    rcases h.closeEvent_cases id with ⟨store, -, hpos, hclient, -⟩ | ⟨hzero, hclient, -⟩
    · simp [hclient]
      omega
    · simp [hclient]
      omega
  refuses id hnone := by
    have hid := hb id
    rcases h.closeEvent_cases id with ⟨store, -, hpos, -, -⟩ | ⟨-, hclient, -⟩
    · omega
    · exact hclient
  removes := hb.removes

lemma balanced_begin : begin.Balanced := by
  intro id
  rfl

/-- Storing an event forgets the leases on the one that it replaces. -/
lemma not_balanced_of_insert {event : Event} (hb : h.Balanced)
    (hleased : h.store.leases event.id ≠ 0) : ¬ (h.next (.insert event)).Balanced := by
  intro hnext
  have hbefore := hb event.id
  have hafter := hnext event.id
  have hforgotten : (h.next (.insert event)).store.leases event.id = 0 := by
    change (h.store.insert event).leases event.id = 0
    unfold EventStore.leases
    rw [EventStore.find?_insert, if_pos rfl]
    rfl
  have hsame : (h.next (.insert event)).outstanding event.id = h.outstanding event.id := rfl
  omega

lemma Balanced.spares (hb : h.Balanced) {call : EventCall} (hnext : (h.next call).Balanced) :
    h.Spares call := by
  cases call with
  | insert event =>
    by_contra hleased
    exact not_balanced_of_insert hb hleased hnext
  | openEvent id => trivial
  | closeEvent id => trivial

lemma Balanced.accounted_iff (hb : h.Balanced) (calls : List EventCall) :
    (∀ before, before <+: calls → (h.after before).Accounted) ↔ h.SparesAll calls := by
  induction calls generalizing h with
  | nil =>
    constructor
    · intro _
      trivial
    · intro _ before hinitial
      rw [List.prefix_nil.mp hinitial]
      exact hb.accounted
  | cons call rest ih =>
    constructor
    · intro haccounted
      have hnext : (h.next call).Accounted := haccounted [call] ⟨rest, rfl⟩
      refine ⟨hb.spares hnext.balanced, (ih hnext.balanced).mp ?_⟩
      intro before hinitial
      exact haccounted (call :: before) ((List.prefix_cons_inj call).mpr hinitial)
    · rintro ⟨hspares, hrest⟩ before hinitial
      cases before with
      | nil => exact hb.accounted
      | cons first before =>
        obtain ⟨rfl, hbefore⟩ := List.cons_prefix_cons.mp hinitial
        exact (ih (hb.next hspares)).mpr hrest before hbefore

/-- The accounts are right at every moment exactly if no call stores an event in the place of
one on which there are leases. -/
theorem accounted_iff_spares (calls : List EventCall) :
    (∀ before, before <+: calls → (begin.after before).Accounted) ↔ begin.SparesAll calls :=
  balanced_begin.accounted_iff calls

/-- Two calls share an event that was stored first; a third close is one too many. -/
theorem accounted_shared : ∀ before, before <+: [.insert ⟨"e", []⟩, .openEvent "e", .openEvent "f",
    .openEvent "e", .closeEvent "e", .closeEvent "e", .closeEvent "e", .insert ⟨"e", []⟩] →
      (begin.after before).Accounted :=
  (accounted_iff_spares _).mpr
    ⟨rfl, trivial, trivial, trivial, trivial, trivial, trivial, rfl, trivial⟩

/-- An event is stored while it is leased: the lease is still outstanding, but is not counted
and cannot be given back. -/
theorem not_accounted_stored_leased :
    ¬ ∀ before, before <+: [.openEvent "e", .insert ⟨"e", []⟩] →
      (begin.after before).Accounted := by
  intro haccounted
  have hbalance := (haccounted _ (List.prefix_refl _)).balanced "e"
  exact absurd hbalance (by decide)

end LeaseHistory

end ProcessorHost
