import Mathlib.Tactic.Common
import ProcessorHost.Host.Clients

/-!
# Counting leases

Taking a lease adds one to the count of its event, and giving one back takes one away; no other
count changes. Every event that a store holds is held under its own identifier, so the event
that a lease is taken on is the one that was asked for.
-/

namespace ProcessorHost

namespace EventStore

variable {store : EventStore}

lemma find?_insert (store : EventStore) (event : Event) (id : String) :
    (store.insert event).find? id =
      if id = event.id then some ⟨event, 0⟩ else store.find? id := by
  unfold insert find?
  by_cases h : id = event.id
  · rw [if_pos h, h, Keyed.find?_insert_self]
  · rw [if_neg h, Keyed.find?_insert_of_ne h]

lemma find?_lease (store : EventStore) (key id : String) :
    (store.lease key).2.find? id =
      if id = key then some ⟨(store.lease key).1, store.leases key + 1⟩ else store.find? id := by
  by_cases h : id = key
  · rw [if_pos h, h]
    unfold lease leases
    rw [find?, Keyed.find?_insert_self]
    cases store.find? key with
    | none => rfl
    | some entry => rfl
  · rw [if_neg h]
    exact Keyed.find?_insert_of_ne h _ _

lemma leases_insert {event : Event} (h : store.leases event.id = 0) (id : String) :
    (store.insert event).leases id = store.leases id := by
  unfold leases at h ⊢
  rw [find?_insert]
  by_cases hid : id = event.id
  · rw [if_pos hid, hid, h]
    rfl
  · rw [if_neg hid]

lemma leases_lease (store : EventStore) (key id : String) :
    (store.lease key).2.leases id = store.leases id + if id = key then 1 else 0 := by
  by_cases h : id = key
  · rw [leases, find?_lease, if_pos h, if_pos h, h]
    rfl
  · rw [leases, find?_lease, if_neg h, if_neg h]
    rfl

/-- Giving a lease back takes one away from its event, which stays the same as long as it is
held, and leaves the others alone. -/
lemma close_spec {key : String} {after : EventStore} (hclose : store.close key = .ok after) :
    after.leases key + 1 = store.leases key ∧
      (∀ entry, after.find? key = some entry → ∃ old, store.find? key = some old ∧
        entry.event = old.event) ∧
      ∀ id, id ≠ key → after.find? id = store.find? id := by
  unfold close at hclose
  unfold leases
  cases hfind : store.find? key with
  | none =>
    rw [hfind] at hclose
    cases hclose
  | some entry =>
    obtain ⟨event, count⟩ := entry
    rw [hfind] at hclose
    match count, hclose with
    | 1, hclose =>
      obtain rfl := Except.ok.inj hclose
      have hgone := Keyed.find?_erase_self key store.held
      refine ⟨?_, fun entry hentry => ?_, fun id hid => ?_⟩
      · rw [find?, hgone]
        rfl
      · rw [find?, hgone] at hentry
        cases hentry
      · exact Keyed.find?_erase_of_ne hid _
    | n + 2, hclose =>
      obtain rfl := Except.ok.inj hclose
      have hself := Keyed.find?_insert_self key ⟨event, n + 1⟩ store.held
      refine ⟨?_, fun entry hentry => ?_, fun id hid => ?_⟩
      · rw [find?, hself]
        rfl
      · rw [find?, hself] at hentry
        exact ⟨_, rfl, by rw [← Option.some.inj hentry]⟩
      · exact Keyed.find?_insert_of_ne hid _ _

lemma exists_close {key : String} (h : 0 < store.leases key) :
    ∃ after, store.close key = .ok after := by
  unfold leases at h
  unfold close
  cases hfind : store.find? key with
  | none =>
    rw [hfind] at h
    exact absurd h (Nat.lt_irrefl 0)
  | some entry =>
    obtain ⟨event, count⟩ := entry
    rw [hfind] at h
    match count, h with
    | 1, _ => exact ⟨_, rfl⟩
    | n + 2, _ => exact ⟨_, rfl⟩

lemma leases_close {key : String} {after : EventStore} (hclose : store.close key = .ok after)
    (id : String) : store.leases id = after.leases id + if id = key then 1 else 0 := by
  obtain ⟨hcount, -, hother⟩ := close_spec hclose
  by_cases hid : id = key
  · rw [if_pos hid, hid, hcount]
  · rw [if_neg hid, leases, leases, hother id hid]
    rfl

/-- Every event is held under its own identifier. -/
def IsConsistent (store : EventStore) : Prop :=
  ∀ id entry, store.find? id = some entry → entry.event.id = id

lemma isConsistent_empty : empty.IsConsistent := by
  intro id entry h
  cases h

lemma IsConsistent.insert (h : store.IsConsistent) (event : Event) :
    (store.insert event).IsConsistent := by
  intro id entry hentry
  rw [find?_insert] at hentry
  by_cases hid : id = event.id
  · rw [if_pos hid] at hentry
    rw [← Option.some.inj hentry, hid]
  · rw [if_neg hid] at hentry
    exact h id entry hentry

lemma IsConsistent.id_lease (h : store.IsConsistent) (key : String) :
    (store.lease key).1.id = key := by
  unfold lease
  cases hfind : store.find? key with
  | none => rfl
  | some entry => exact h key entry hfind

lemma IsConsistent.lease (h : store.IsConsistent) (key : String) :
    (store.lease key).2.IsConsistent := by
  intro id entry hentry
  rw [find?_lease] at hentry
  by_cases hid : id = key
  · rw [if_pos hid] at hentry
    rw [← Option.some.inj hentry, hid]
    exact h.id_lease key
  · rw [if_neg hid] at hentry
    exact h id entry hentry

lemma IsConsistent.close (h : store.IsConsistent) {key : String} {after : EventStore}
    (hclose : store.close key = .ok after) : after.IsConsistent := by
  obtain ⟨-, hsame, hother⟩ := close_spec hclose
  intro id entry hentry
  by_cases hid : id = key
  · rw [hid] at hentry ⊢
    obtain ⟨old, hold, heq⟩ := hsame entry hentry
    rw [heq]
    exact h key old hold
  · rw [hother id hid] at hentry
    exact h id entry hentry

/-- The stores that come about by storing events and by taking and giving back leases. -/
inductive Reachable : EventStore → Prop
  | empty : Reachable empty
  | insert {store : EventStore} (h : Reachable store) (event : Event) :
      Reachable (store.insert event)
  | lease {store : EventStore} (h : Reachable store) (id : String) : Reachable (store.lease id).2
  | close {store after : EventStore} (h : Reachable store) {id : String}
      (hclose : store.close id = .ok after) : Reachable after

lemma Reachable.isConsistent (h : store.Reachable) : store.IsConsistent := by
  induction h with
  | empty => exact isConsistent_empty
  | insert _ event ih => exact ih.insert event
  | lease _ id ih => exact ih.lease id
  | close _ hclose ih => exact ih.close hclose

lemma client_openEvent (store : EventStore) (id : String) :
    client.openEvent store id = ((store.lease id).2, .ok (store.lease id).1) := rfl

lemma client_closeEvent {store after : EventStore} {id : String}
    (hclose : store.close id = .ok after) : client.closeEvent store id = (after, .ok ()) := by
  unfold client
  dsimp only
  rw [hclose]

lemma client_closeEvent_of_none {store : EventStore} {id : String} (h : store.leases id = 0) :
    client.closeEvent store id = (store, .error (notOpen id)) := by
  have hclose : store.close id = .error (notOpen id) := by
    unfold leases at h
    unfold close
    cases hfind : store.find? id with
    | none => rfl
    | some entry =>
      obtain ⟨event, count⟩ := entry
      rw [hfind] at h
      obtain rfl : count = 0 := h
      rfl
  unfold client
  dsimp only
  rw [hclose]

end EventStore

end ProcessorHost
