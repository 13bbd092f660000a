import Mathlib.Data.List.Nodup
import Mathlib.Tactic.Common
import ProcessorHost.Session.Session

/-!
# Histories of contexts

Every action of a session either enters one context, gives one up, or leaves the contexts as
they are. A history lists the contexts that were entered, with the guards handed out for them,
and the guards that were given up by an exit or a release. Guards that were forgotten do not
appear in it. This file says how one action changes the stacks of a session and its history.
-/

namespace ProcessorHost

inductive ContextEvent
  | entered (guard : Guard) (context : Context)
  | released (guard : Guard)
deriving DecidableEq, Repr

/-- What happened to the contexts of a session, in order. -/
abbrev ContextHistory := List ContextEvent

namespace ContextHistory

/-- The contexts entered on a scope, in order, with their guards. -/
def entered (h : ContextHistory) (scope : Nat) : List (Guard × Context) :=
  h.filterMap fun
    | .entered guard context => if guard.scope = scope then some (guard, context) else none
    | .released _ => none

/-- The guards of a scope that were given up, in order. -/
def released (h : ContextHistory) (scope : Nat) : List Guard :=
  h.filterMap fun
    | .entered .. => none
    | .released guard => if guard.scope = scope then some guard else none

/-- The contexts entered on a scope and not given up, in the order of entering. -/
def active (h : ContextHistory) (scope : Nat) : List (Guard × Context) :=
  (h.entered scope).filter fun e => e.1 ∉ h.released scope

/-- No scope has handed out every number. -/
def LeavesNumbers (h : ContextHistory) : Prop := ∀ k, (h.entered k).length < UInt64.size

lemma entered_append (h h' : ContextHistory) (k : Nat) :
    entered (h ++ h') k = h.entered k ++ h'.entered k := List.filterMap_append

lemma released_append (h h' : ContextHistory) (k : Nat) :
    released (h ++ h') k = h.released k ++ h'.released k := List.filterMap_append

lemma entered_enter (h : ContextHistory) (guard : Guard) (context : Context) (k : Nat) :
    entered (h ++ [.entered guard context]) k =
      h.entered k ++ if k = guard.scope then [(guard, context)] else [] := by
  rw [entered_append]
  by_cases hk : k = guard.scope
  · simp [entered, hk]
  · simp [entered, hk, Ne.symm hk]

lemma released_enter (h : ContextHistory) (guard : Guard) (context : Context) (k : Nat) :
    released (h ++ [.entered guard context]) k = h.released k := by
  rw [released_append]
  simp [released]

lemma entered_release (h : ContextHistory) (guard : Guard) (k : Nat) :
    entered (h ++ [.released guard]) k = h.entered k := by
  rw [entered_append]
  simp [entered]

lemma released_release (h : ContextHistory) (guard : Guard) (k : Nat) :
    released (h ++ [.released guard]) k =
      h.released k ++ if k = guard.scope then [guard] else [] := by
  rw [released_append]
  by_cases hk : k = guard.scope
  · simp [released, hk]
  · simp [released, hk, Ne.symm hk]

lemma entered_length_le (h : ContextHistory) (k : Nat) : (h.entered k).length ≤ h.length :=
  List.length_filterMap_le _ _

end ContextHistory

/-- The frame that a context and its guard share. -/
def frameOf (e : Guard × Context) : Frame := ⟨e.1.id, e.2⟩

namespace Session

/-- What an action does to the contexts, as far as its reply tells. -/
def contextEvent? (s : Session) (action : Action) : Option ContextEvent :=
  match action, (s.perform action).2 with
  | .enter id label, .entered guard =>
    (s.scope? id).map fun scope => .entered guard ⟨label, s.clocks.read scope.clock⟩
  | .exit _ guard, .exited _ => some (.released guard)
  | .release guard, .done => some (.released guard)
  | .release guard, .panicked _ => some (.released guard)
  | .releaseUnwinding guard, .done => some (.released guard)
  | _, _ => none

def performAll (s : Session) : List Action → Session
  | [] => s
  | action :: rest => (s.perform action).1.performAll rest

def contextHistory (s : Session) : List Action → ContextHistory
  | [] => []
  | action :: rest => (s.contextEvent? action).toList ++ (s.perform action).1.contextHistory rest

/-- The stack of a scope, the innermost frame first; empty if there is no such scope. -/
def frames (s : Session) (k : Nat) : List Frame := ((s.scope? k).map (·.frames)).getD []

/-- The number that the next context of a scope gets. -/
def nextNumber (s : Session) (k : Nat) : Nat := ((s.scope? k).map (·.nextId.toNat)).getD 0

lemma frames_of_scope {s : Session} {k : Nat} {scope : Scope} (h : s.scope? k = some scope) :
    s.frames k = scope.frames := by simp [frames, h]

lemma nextNumber_of_scope {s : Session} {k : Nat} {scope : Scope} (h : s.scope? k = some scope) :
    s.nextNumber k = scope.nextId.toNat := by simp [nextNumber, h]

lemma scope?_of_set {s s' : Session} {id : Nat} {old scope : Scope}
    (hold : s.scope? id = some old) (hset : s'.scopes = s.scopes.set id scope) (k : Nat) :
    s'.scope? k = if k = id then some scope else s.scope? k := by
  obtain ⟨hlt, -⟩ := List.getElem?_eq_some_iff.mp hold
  unfold scope?
  rw [hset, List.getElem?_set]
  by_cases hk : id = k
  · simp [hk, hk ▸ hlt]
  · simp [hk, Ne.symm hk]

lemma frames_of_set {s s' : Session} {id : Nat} {old scope : Scope}
    (hold : s.scope? id = some old) (hset : s'.scopes = s.scopes.set id scope) (k : Nat) :
    s'.frames k = if k = id then scope.frames else s.frames k := by
  unfold frames
  rw [scope?_of_set hold hset]
  by_cases hk : k = id
  · simp [hk]
  · simp [hk]

lemma nextNumber_of_set {s s' : Session} {id : Nat} {old scope : Scope}
    (hold : s.scope? id = some old) (hset : s'.scopes = s.scopes.set id scope) (k : Nat) :
    s'.nextNumber k = if k = id then scope.nextId.toNat else s.nextNumber k := by
  unfold nextNumber
  rw [scope?_of_set hold hset]
  by_cases hk : k = id
  · simp [hk]
  · simp [hk]

/-- How one action may change the contexts of a session. -/
inductive ContextStep (s s' : Session) : Option ContextEvent → Prop
  | keeps (frames : ∀ k, s'.frames k = s.frames k)
      (next : ∀ k, s'.nextNumber k = s.nextNumber k)
      (held : s'.held.Sublist s.held) : ContextStep s s' none
  | enters (guard : Guard) (context : Context)
      (number : guard.id.toNat = s.nextNumber guard.scope)
      (label : context.label = guard.label)
      (frames : ∀ k, s'.frames k =
        if k = guard.scope then frameOf (guard, context) :: s.frames k else s.frames k)
      (next : ∀ k, s'.nextNumber k =
        if k = guard.scope then (s.nextNumber k + 1) % UInt64.size else s.nextNumber k)
      (held : s'.held = guard :: s.held) : ContextStep s s' (some (.entered guard context))
  | releases (guard : Guard) (mem : guard ∈ s.held)
      (frames : ∀ k, s'.frames k =
        if k = guard.scope then (s.frames k).filter (fun f => f.id != guard.id) else s.frames k)
      (next : ∀ k, s'.nextNumber k = s.nextNumber k)
      (held : s'.held = s.held.erase guard) : ContextStep s s' (some (.released guard))

lemma keeps_of_scopes {s s' : Session} (hscopes : s'.scopes = s.scopes)
    (hheld : s'.held.Sublist s.held) : ContextStep s s' none := by
  refine .keeps (fun k => ?_) (fun k => ?_) hheld
  · simp only [frames, scope?, hscopes]
  · simp only [nextNumber, scope?, hscopes]

lemma keeps_of_set {s s' : Session} {id : Nat} {old scope : Scope}
    (hold : s.scope? id = some old) (hset : s'.scopes = s.scopes.set id scope)
    (hframes : scope.frames = old.frames) (hnext : scope.nextId = old.nextId)
    (hheld : s'.held = s.held) : ContextStep s s' none := by
  refine .keeps (fun k => ?_) (fun k => ?_) (hheld ▸ List.Sublist.refl _)
  · rw [frames_of_set hold hset]
    by_cases hk : k = id
    · rw [if_pos hk, hframes, hk, frames_of_scope hold]
    · rw [if_neg hk]
  · rw [nextNumber_of_set hold hset]
    by_cases hk : k = id
    · rw [if_pos hk, hnext, hk, nextNumber_of_scope hold]
    · rw [if_neg hk]

lemma record_step (s : Session) (id : Nat) (stopwatch : String) (interval : Span) :
    ContextStep s (s.record id stopwatch interval) none := by
  unfold record
  split
  · exact keeps_of_scopes rfl (List.Sublist.refl _)
  · rename_i scope hscope
    split
    · exact keeps_of_scopes rfl (List.Sublist.refl _)
    · rename_i context hcontext
      dsimp only
      split
      · exact keeps_of_set hscope rfl rfl rfl rfl
      · exact keeps_of_set hscope rfl rfl rfl rfl

/-- Removing a frame by its number, when no two frames share one. -/
lemma remove_eq_filter {scope : Scope} (hn : (scope.frames.map (·.id)).Nodup) (id : UInt64) :
    scope.remove id = { scope with frames := scope.frames.filter fun f => f.id != id } := by
  unfold Scope.remove Scope.isInnermost
  cases hframes : scope.frames with
  | nil => simp
  | cons top rest =>
    rw [hframes, List.map_cons, List.nodup_cons] at hn
    by_cases htop : top.id = id
    · -- The innermost frame is dropped, and no other has its number.
      have hrest : rest.filter (fun f => f.id != id) = rest := by
        rw [List.filter_eq_self]
        intro f hf
        have : f.id ≠ top.id := fun h => hn.1 (h ▸ List.mem_map_of_mem hf)
        simpa [htop] using this
      simp [htop, hrest]
    · simp [htop]

def HasDistinctFrames (s : Session) : Prop := ∀ k, ((s.frames k).map (·.id)).Nodup

lemma enter_step {s : Session} {id : Nat} {scope : Scope} (hscope : s.scope? id = some scope)
    (label : String) :
    ContextStep s (s.enter id label).1 (some (.entered ⟨id, scope.nextId, label⟩
      ⟨label, s.clocks.read scope.clock⟩)) := by
  unfold enter
  rw [hscope]
  refine .enters _ _ (nextNumber_of_scope hscope).symm rfl (fun k => ?_) (fun k => ?_) rfl
  · rw [frames_of_set hscope rfl]
    by_cases hk : k = id
    · rw [if_pos hk, if_pos hk, hk, frames_of_scope hscope]
      rfl
    · rw [if_neg hk, if_neg hk]
  · rw [nextNumber_of_set hscope rfl]
    by_cases hk : k = id
    · rw [if_pos hk, if_pos hk, hk, nextNumber_of_scope hscope]
      exact UInt64.toNat_add _ _
    · rw [if_neg hk, if_neg hk]

lemma releases_of_set {s s' : Session} {guard : Guard} {old : Scope}
    (hold : s.scope? guard.scope = some old) (hmem : guard ∈ s.held) (scope : Scope)
    (hset : s'.scopes = s.scopes.set guard.scope scope)
    (hframes : scope.frames = old.frames.filter (fun f => f.id != guard.id))
    (hnext : scope.nextId = old.nextId) (hheld : s'.held = s.held.erase guard) :
    ContextStep s s' (some (.released guard)) := by
  refine .releases guard hmem (fun k => ?_) (fun k => ?_) hheld
  · rw [frames_of_set hold hset]
    by_cases hk : k = guard.scope
    · rw [if_pos hk, if_pos hk, hframes, hk, frames_of_scope hold]
    · rw [if_neg hk, if_neg hk]
  · rw [nextNumber_of_set hold hset]
    by_cases hk : k = guard.scope
    · rw [if_pos hk, hnext, hk, nextNumber_of_scope hold]
    · rw [if_neg hk]

/-- An exit gives the guard up, or it changes nothing. -/
lemma exit_step {s : Session} (hd : s.HasDistinctFrames) (id : Nat) (guard : Guard) :
    (∃ context, (s.exit id guard).2 = .exited context ∧ guard.scope = id ∧
      (s.frames id).head? = some ⟨guard.id, context⟩ ∧
      ContextStep s (s.exit id guard).1 (some (.released guard))) ∨
    ((∀ context, (s.exit id guard).2 ≠ .exited context) ∧ (s.exit id guard).1 = s) := by
  unfold exit
  split
  · exact .inr ⟨fun _ => by simp, rfl⟩
  · rename_i scope hscope
    split
    · rename_i hmem
      split
      · rename_i top rest hframes
        split
        · rename_i htop
          obtain ⟨rfl, htop⟩ := htop
          refine .inl ⟨top.context, rfl, rfl, ?_, ?_⟩
          · rw [frames_of_scope hscope, hframes, ← htop]
            rfl
          · have hn := hd guard.scope
            rw [frames_of_scope hscope, hframes, List.map_cons, List.nodup_cons] at hn
            refine releases_of_set hscope hmem { scope with frames := rest } rfl ?_ rfl rfl
            rw [hframes, List.filter_cons_of_neg (by simp [htop]), eq_comm, List.filter_eq_self]
            intro f hf
            have hne : f.id ≠ top.id := fun h => hn.1 (h ▸ List.mem_map_of_mem hf)
            simpa [htop] using hne
        · exact .inr ⟨fun _ => by simp, rfl⟩
      · exact .inr ⟨fun _ => by simp, rfl⟩
    · exact .inr ⟨fun _ => by simp, rfl⟩

/-- A release gives a guard that is held up, whether or not it is a fault. -/
lemma release_step {s : Session} (hd : s.HasDistinctFrames) {guard : Guard} {scope : Scope}
    (hscope : s.scope? guard.scope = some scope) (hmem : guard ∈ s.held) (unwinding : Bool) :
    ContextStep s (s.release guard unwinding).1 (some (.released guard)) ∧
      ((s.release guard unwinding).2 = .done ∨
        (unwinding = false ∧ ∃ message, (s.release guard unwinding).2 = .panicked message)) := by
  have hn := hd guard.scope
  rw [frames_of_scope hscope] at hn
  unfold release
  simp only [hscope, hmem, if_true, remove_eq_filter hn]
  split
  · exact ⟨releases_of_set hscope hmem _ rfl rfl rfl rfl, .inl rfl⟩
  · rename_i hfault
    refine ⟨releases_of_set hscope hmem _ rfl rfl rfl rfl, .inr ⟨?_, _, rfl⟩⟩
    simp only [Bool.or_eq_true, not_or, Bool.not_eq_true] at hfault
    exact hfault.2

lemma release_missing {s : Session} {guard : Guard}
    (h : s.scope? guard.scope = none ∨ guard ∉ s.held) (unwinding : Bool) :
    s.release guard unwinding = (s, .missing) := by
  unfold release
  split
  · rfl
  · rename_i scope hscope
    rw [hscope] at h
    simp at h
    simp [h]

lemma openScope_step (s : Session) (clock : ClockSource) (sink : Option Nat) :
    ContextStep s (s.perform (.openScope clock sink)).1 none := by
  have hscope (k : Nat) : (s.perform (.openScope clock sink)).1.scope? k =
      if k = s.scopes.length then some (.fresh clock sink) else s.scope? k := by
    unfold perform scope?
    dsimp only
    rw [List.getElem?_append]
    by_cases hk : k = s.scopes.length
    · simp [hk]
    · by_cases hlt : k < s.scopes.length
      · simp [hk, hlt]
      · have hgt : s.scopes.length < k := by omega
        simp [hk, hlt, Nat.sub_eq_zero_iff_le, hgt]
  have hnew : s.scope? s.scopes.length = none := by simp [scope?]
  refine .keeps (fun k => ?_) (fun k => ?_) (List.Sublist.refl _)
  · unfold frames
    rw [hscope]
    by_cases hk : k = s.scopes.length
    · simp [hk, hnew, Scope.fresh]
    · rw [if_neg hk]
  · unfold nextNumber
    rw [hscope]
    by_cases hk : k = s.scopes.length
    · simp [hk, hnew, Scope.fresh]
    · rw [if_neg hk]

lemma perform_release_step {s : Session} (hd : s.HasDistinctFrames) (guard : Guard)
    (unwinding : Bool) :
    let action := if unwinding then Action.releaseUnwinding guard else .release guard
    ContextStep s (s.perform action).1 (s.contextEvent? action) := by
  dsimp only
  by_cases h : s.scope? guard.scope = none ∨ guard ∉ s.held
  · have hmissing := release_missing h unwinding
    have hsame : ContextStep s s none := keeps_of_scopes rfl (List.Sublist.refl _)
    cases unwinding
    · simpa [contextEvent?, perform, hmissing] using hsame
    · simpa [contextEvent?, perform, hmissing] using hsame
  · rw [not_or, not_not] at h
    obtain ⟨scope, hscope⟩ := Option.ne_none_iff_exists'.mp h.1
    obtain ⟨hstep, hreply⟩ := release_step hd hscope h.2 unwinding
    rcases hreply with hreply | ⟨rfl, message, hreply⟩
    · cases unwinding
      · simpa [contextEvent?, perform, hreply] using hstep
      · simpa [contextEvent?, perform, hreply] using hstep
    · simpa [contextEvent?, perform, hreply] using hstep

lemma newWatch_step (s : Session) (label : String) (source : WatchSource) (started : Bool) :
    ContextStep s (s.newWatch label source started).1 none := by
  cases source with
  | free clock => exact keeps_of_scopes rfl (List.Sublist.refl _)
  | attached id =>
    cases hscope : s.scope? id with
    | none =>
      simp only [newWatch, hscope]
      exact keeps_of_scopes rfl (List.Sublist.refl _)
    | some scope =>
      simp only [newWatch, hscope]
      exact keeps_of_scopes rfl (List.Sublist.refl _)

lemma start_step (s : Session) (id : Nat) : ContextStep s (s.start id).1 none := by
  unfold start
  split
  · exact keeps_of_scopes rfl (List.Sublist.refl _)
  · split
    · exact keeps_of_scopes rfl (List.Sublist.refl _)
    · exact keeps_of_scopes rfl (List.Sublist.refl _)

lemma stop_step (s : Session) (id : Nat) : ContextStep s (s.stop id).1 none := by
  unfold stop
  split
  · exact keeps_of_scopes rfl (List.Sublist.refl _)
  · split
    · exact keeps_of_scopes rfl (List.Sublist.refl _)
    · exact keeps_of_scopes rfl (List.Sublist.refl _)
    · rename_i watch _ _ stopped interval _
      dsimp only
      split
      · exact keeps_of_scopes rfl (List.Sublist.refl _)
      · rename_i scope hscope
        cases record_step (s.setWatch id (some stopped)) scope watch.label interval with
        | keeps frames next held => exact .keeps frames next held

/-- Every action changes the contexts as its event says. -/
theorem perform_step {s : Session} (hd : s.HasDistinctFrames) (action : Action) :
    ContextStep s (s.perform action).1 (s.contextEvent? action) := by
  have hsame : ContextStep s s none := keeps_of_scopes rfl (List.Sublist.refl _)
  cases action with
  | openScope clock sink => exact openScope_step s clock sink
  | advance amount => exact keeps_of_scopes rfl (List.Sublist.refl _)
  | enter id label =>
    cases hscope : s.scope? id with
    | none => simpa [contextEvent?, perform, enter, hscope] using hsame
    | some scope =>
      have hevent : s.contextEvent? (.enter id label) = some (.entered ⟨id, scope.nextId, label⟩
          ⟨label, s.clocks.read scope.clock⟩) := by
        simp [contextEvent?, perform, enter, hscope, Scope.enter]
      rw [hevent]
      exact enter_step hscope label
  | exit id guard =>
    rcases exit_step hd id guard with ⟨context, hreply, -, -, hstep⟩ | ⟨hreply, hs⟩
    · have hevent : s.contextEvent? (.exit id guard) = some (.released guard) := by
        simp [contextEvent?, perform, hreply]
      rw [hevent]
      exact hstep
    · have hevent : s.contextEvent? (.exit id guard) = none := by
        unfold contextEvent? perform
        dsimp only
        cases hreply' : (s.exit id guard).2 with
        | exited context => exact absurd hreply' (hreply context)
        | _ => rfl
      rw [hevent]
      change ContextStep s (s.exit id guard).1 none
      rw [hs]
      exact hsame
  | release guard => exact perform_release_step hd guard false
  | releaseUnwinding guard => exact perform_release_step hd guard true
  | forget guard =>
    unfold contextEvent? perform
    dsimp only
    split
    · exact keeps_of_scopes rfl List.erase_sublist
    · exact hsame
  | newWatch label source started => exact newWatch_step s label source started
  | start watch => exact start_step s watch
  | stop watch => exact stop_step s watch
  | reset watch =>
    unfold contextEvent? perform
    dsimp only
    split
    · exact hsame
    · exact keeps_of_scopes rfl (List.Sublist.refl _)
  | dropWatch watch =>
    unfold contextEvent? perform
    dsimp only
    split
    · exact hsame
    · exact keeps_of_scopes rfl (List.Sublist.refl _)

end Session

end ProcessorHost
