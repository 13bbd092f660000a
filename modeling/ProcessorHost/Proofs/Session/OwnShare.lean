import ProcessorHost.Proofs.Session.Attribution

/-!
# What one scope has of a session

Of everything that happens in a session one scope has a share: all that is not done to another
scope, to a guard of another scope or to a stopwatch of another scope. The share can be run on its
own, in a session without the other scopes, where the things of the scope have other names. Such a
session mirrors the one that it was taken from. What is not in the share leaves alone all that is
mirrored.
-/

namespace ProcessorHost

/-- How the things of a scope are called where it is the only scope. -/
structure Naming where
  scope : Nat
  /-- The stopwatches that were made in the scope or without one, in order. -/
  watches : List Nat
deriving DecidableEq, Repr

namespace Naming

/-- The scope itself is the first; no two scopes have the same name. -/
def scopeName (n : Naming) (id : Nat) : Nat := if id = n.scope then 0 else id + 1

def watchName (n : Naming) (id : Nat) : Nat := n.watches.idxOf id

def guard (n : Naming) (g : Guard) : Guard := { g with scope := n.scopeName g.scope }

def watch (n : Naming) (w : Stopwatch) : Stopwatch := { w with scope := w.scope.map n.scopeName }

def outcome (n : Naming) : StopOutcome → StopOutcome
  | .refused e => .refused e
  | .overflow w => .overflow (n.watch w)
  | .stopped w interval => .stopped (n.watch w) interval

def delivery (n : Naming) (d : Delivery) : Delivery := { d with scope := n.scopeName d.scope }

def source (n : Naming) : WatchSource → WatchSource
  | .free clock => .free clock
  | .attached id => .attached (n.scopeName id)

/-- A stopwatch of another scope has no name. -/
def takes (n : Naming) : WatchSource → Bool
  | .free _ => true
  | .attached id => id = n.scope

def reply (n : Naming) : Reply → Reply
  | .scope id => .scope (n.scopeName id)
  | .entered g => .entered (n.guard g)
  | .watch id => .watch (n.watchName id)
  | r => r

/-- An action as it is in the share of the scope, if it is in it. An exit with the guard of
another scope is in the share of neither. -/
def action? (n : Naming) (s : Session) : Action → Option Action
  | .openScope clock sink =>
    if s.scopes.length = n.scope then some (.openScope clock sink) else none
  | .advance amount => some (.advance amount)
  | .enter id label => if id = n.scope then some (.enter 0 label) else none
  | .exit id g => if id = n.scope ∧ g.scope = n.scope then some (.exit 0 (n.guard g)) else none
  | .release g => if g.scope = n.scope then some (.release (n.guard g)) else none
  | .releaseUnwinding g =>
    if g.scope = n.scope then some (.releaseUnwinding (n.guard g)) else none
  | .forget g => if g.scope = n.scope then some (.forget (n.guard g)) else none
  | .newWatch label source started =>
    if n.takes source then some (.newWatch label (n.source source) started) else none
  | .start id => if id ∈ n.watches then some (.start (n.watchName id)) else none
  | .stop id => if id ∈ n.watches then some (.stop (n.watchName id)) else none
  | .reset id => if id ∈ n.watches then some (.reset (n.watchName id)) else none
  | .dropWatch id => if id ∈ n.watches then some (.dropWatch (n.watchName id)) else none

def own? (n : Naming) (s : Session) : Occurrence → Option Occurrence
  | .act action => (n.action? s action).map .act
  | .pass clocks today => some (.pass clocks today)

/-- A new stopwatch gets the next name, unless it is that of another scope. -/
def extend (n : Naming) (s : Session) (o : Occurrence) : Naming :=
  match o, (s.undergo o).2 with
  | .act (.newWatch _ source _), .watch watch =>
    if n.takes source then { n with watches := n.watches ++ [watch] } else n
  | _, _ => n

/-- The stopwatches that have a name are those that no other scope has. -/
structure Fits (n : Naming) (s : Session) : Prop where
  nodup : n.watches.Nodup
  known : ∀ id ∈ n.watches, id < s.watches.length
  own : ∀ id watch, s.watch? id = some watch →
    (watch.scope = none ∨ watch.scope = some n.scope ↔ id ∈ n.watches)

variable {n : Naming}

@[simp] lemma scopeName_self : n.scopeName n.scope = 0 := if_pos rfl

@[simp] lemma guard_scope (g : Guard) : (n.guard g).scope = n.scopeName g.scope := rfl

@[simp] lemma guard_id (g : Guard) : (n.guard g).id = g.id := rfl

@[simp] lemma guard_label (g : Guard) : (n.guard g).label = g.label := rfl

lemma scopeName_injective : Function.Injective n.scopeName := by
  intro a b h
  unfold scopeName at h
  split at h
  · split at h
    · simp [*]
    · omega
  · split at h
    · omega
    · omega

lemma watch_isRunning (w : Stopwatch) : (n.watch w).isRunning = w.isRunning := rfl

lemma watch_start (w : Stopwatch) (now : UInt64) :
    (n.watch w).start now = (w.start now).map n.watch := by
  unfold Stopwatch.start
  rw [watch_isRunning]
  split
  · rfl
  · rfl

lemma watch_stop (w : Stopwatch) (now : UInt64) :
    (n.watch w).stop now = n.outcome (w.stop now) := by
  unfold Stopwatch.stop
  rw [watch_isRunning]
  split
  · dsimp only [watch]
    cases w.accumulated.add? (.between (w.runningSince.getD now) now) with
    | none => rfl
    | some accumulated => rfl
  · rfl

lemma guard_injective : Function.Injective n.guard := by
  rintro ⟨scope, id, label⟩ ⟨scope', id', label'⟩ h
  obtain ⟨hscope, rfl, rfl⟩ := Guard.mk.inj h
  obtain rfl : scope = scope' := scopeName_injective hscope
  rfl

end Naming

namespace Session

/-- What happens to a scope, in the names that it has where it is the only one. -/
def share (s : Session) (n : Naming) : List Occurrence → List Occurrence
  | [] => []
  | o :: rest => (n.own? s o).toList ++ (s.undergo o).1.share (n.extend s o) rest

/-- What is answered to the share of a scope, in the same names. -/
def repliesTo (s : Session) (n : Naming) : List Occurrence → List Reply
  | [] => []
  | o :: rest =>
    (if (n.own? s o).isSome then [(n.extend s o).reply (s.undergo o).2] else []) ++
      (s.undergo o).1.repliesTo (n.extend s o) rest

def replies (s : Session) : List Occurrence → List Reply
  | [] => []
  | o :: rest => (s.undergo o).2 :: (s.undergo o).1.replies rest

def extendAll (s : Session) (n : Naming) : List Occurrence → Naming
  | [] => n
  | o :: rest => (s.undergo o).1.extendAll (n.extend s o) rest

/-- One session holds what another has of one scope, and nothing else. -/
structure Mirrors (n : Naming) (s t : Session) : Prop where
  clocks : t.clocks = s.clocks
  today : t.today = s.today
  /-- Contexts, samples and what else makes the scope are the same. -/
  scopes : t.scopes = (s.scope? n.scope).toList
  held : t.held = (s.held.filter fun g => g.scope = n.scope).map n.guard
  watches : t.watches = n.watches.map fun id => (s.watch? id).map n.watch
  deliveries : t.deliveries = (s.deliveries.filter fun d => d.scope = n.scope).map n.delivery

/-- Nothing that is mirrored changes. -/
structure SparesShare (n : Naming) (s s' : Session) : Prop where
  clocks : s'.clocks = s.clocks
  today : s'.today = s.today
  scope : s'.scope? n.scope = s.scope? n.scope
  held : s'.held.filter (fun g => g.scope = n.scope) = s.held.filter fun g => g.scope = n.scope
  watches : ∀ id ∈ n.watches, s'.watch? id = s.watch? id
  deliveries : s'.deliveries.filter (fun d => d.scope = n.scope) =
    s.deliveries.filter fun d => d.scope = n.scope

variable {n : Naming} {s s' s'' t : Session}

lemma Mirrors.spares (m : Mirrors n s t) (h : SparesShare n s s') : Mirrors n s' t where
  clocks := m.clocks.trans h.clocks.symm
  today := m.today.trans h.today.symm
  scopes := by rw [m.scopes, h.scope]
  held := by rw [m.held, h.held]
  watches := by
    rw [m.watches]
    exact List.map_congr_left fun id hid => by rw [h.watches id hid]
  deliveries := by rw [m.deliveries, h.deliveries]

lemma SparesShare.refl (n : Naming) (s : Session) : SparesShare n s s :=
  ⟨rfl, rfl, rfl, rfl, fun _ _ => rfl, rfl⟩

lemma SparesShare.trans (h : SparesShare n s s') (h' : SparesShare n s' s'') :
    SparesShare n s s'' where
  clocks := h'.clocks.trans h.clocks
  today := h'.today.trans h.today
  scope := h'.scope.trans h.scope
  held := h'.held.trans h.held
  watches id hid := (h'.watches id hid).trans (h.watches id hid)
  deliveries := h'.deliveries.trans h.deliveries

lemma filter_erase_of_ne {g : Guard} (hg : g.scope ≠ n.scope) (held : List Guard) :
    (held.erase g).filter (fun g => g.scope = n.scope) =
      held.filter fun g => g.scope = n.scope := by
  rw [← List.erase_filter, List.erase_of_not_mem]
  intro hmem
  exact hg (of_decide_eq_true (List.mem_filter.mp hmem).2)

/-- Another scope changes, and what is held of its guards. -/
lemma spares_of_set {id : Nat} {old scope : Scope} (hne : id ≠ n.scope)
    (hold : s.scope? id = some old) (hscopes : s'.scopes = s.scopes.set id scope)
    (hclocks : s'.clocks = s.clocks) (htoday : s'.today = s.today)
    (hheld : s'.held.filter (fun g => g.scope = n.scope) =
      s.held.filter fun g => g.scope = n.scope)
    (hwatches : s'.watches = s.watches) (hdeliveries : s'.deliveries = s.deliveries) :
    SparesShare n s s' where
  clocks := hclocks
  today := htoday
  scope := by rw [scope?_of_set hold hscopes, if_neg hne.symm]
  held := hheld
  watches id _ := by rw [watch?, hwatches, watch?]
  deliveries := by rw [hdeliveries]

lemma enter_spares {id : Nat} (hne : id ≠ n.scope) (label : String) :
    SparesShare n s (s.enter id label).1 := by
  unfold enter
  split
  · exact .refl n s
  · rename_i scope hscope
    exact spares_of_set hne hscope rfl rfl rfl (by simp [Scope.enter, hne]) rfl rfl

/-- An exit with the guard of another scope is refused, and nothing changes. -/
lemma exit_foreign {id : Nat} {guard : Guard} (hne : guard.scope ≠ id) :
    (s.exit id guard).1 = s ∧ ∀ scope, s.scope? id = some scope → guard ∈ s.held →
      (s.exit id guard).2 = .refused (.outOfOrderExit guard.label scope.activeLabel) := by
  unfold exit
  split
  · exact ⟨rfl, by simp [*]⟩
  · rename_i scope hscope
    split
    · split
      · rw [if_neg fun h => hne h.1]
        refine ⟨rfl, fun scope' hscope' _ => ?_⟩
        rw [hscope, Option.some.injEq] at hscope'
        rw [hscope']
      · refine ⟨rfl, fun scope' hscope' _ => ?_⟩
        rw [hscope, Option.some.injEq] at hscope'
        rw [hscope']
    · rename_i hnot
      exact ⟨rfl, fun _ _ hmem => absurd hmem hnot⟩

lemma exit_spares {id : Nat} {guard : Guard} (hne : ¬(id = n.scope ∧ guard.scope = n.scope)) :
    SparesShare n s (s.exit id guard).1 := by
  by_cases hown : guard.scope = id
  · have hid : id ≠ n.scope := fun h => hne ⟨h, hown.trans h⟩
    unfold exit
    split
    · exact .refl n s
    · rename_i scope hscope
      split
      · split
        · split
          · exact spares_of_set hid hscope rfl rfl rfl (filter_erase_of_ne (hown ▸ hid) _) rfl rfl
          · exact .refl n s
        · exact .refl n s
      · exact .refl n s
  · rw [(exit_foreign hown).1]
    exact .refl n s

lemma release_spares {guard : Guard} (hne : guard.scope ≠ n.scope) (unwinding : Bool) :
    SparesShare n s (s.release guard unwinding).1 := by
  unfold release
  split
  · exact .refl n s
  · rename_i scope hscope
    split
    · dsimp only
      split
      · exact spares_of_set hne hscope rfl rfl rfl (filter_erase_of_ne hne _) rfl rfl
      · exact spares_of_set hne hscope rfl rfl rfl (filter_erase_of_ne hne _) rfl rfl
    · exact .refl n s

lemma openScope_spares (hne : s.scopes.length ≠ n.scope) (clock : ClockSource)
    (sink : Option Nat) : SparesShare n s (s.perform (.openScope clock sink)).1 where
  clocks := rfl
  today := rfl
  scope := by
    unfold perform scope?
    dsimp only
    rw [List.getElem?_append]
    split
    · rfl
    · rename_i hlt
      rw [List.getElem?_eq_none (Nat.not_lt.mp hlt), List.getElem?_eq_none]
      rw [List.length_singleton]
      omega
  held := rfl
  watches _ _ := rfl
  deliveries := rfl

/-- A stopwatch changes that has no name. -/
lemma spares_of_watch {id : Nat} {old : Stopwatch} (hold : s.watch? id = some old)
    (hid : id ∉ n.watches) (after : Option Stopwatch) :
    SparesShare n s (s.setWatch id after) where
  clocks := rfl
  today := rfl
  scope := rfl
  held := rfl
  watches k hk := by
    rw [watch?_of_set hold rfl, if_neg]
    rintro rfl
    exact hid hk
  deliveries := rfl

lemma newWatch_spares (hfits : n.Fits s) (label : String) (source : WatchSource)
    (started : Bool) : SparesShare n s (s.newWatch label source started).1 := by
  have hadd (watch : Stopwatch) :
      SparesShare n s { s with watches := s.watches ++ [some watch] } :=
    ⟨rfl, rfl, rfl, rfl, fun id hid => by
      unfold watch?
      rw [List.getElem?_append_left (hfits.known id hid)], rfl⟩
  unfold newWatch
  dsimp only
  split
  · exact hadd _
  · split
    · exact .refl n s
    · exact hadd _

lemma start_spares {id : Nat} (hid : id ∉ n.watches) : SparesShare n s (s.start id).1 := by
  unfold start
  split
  · exact .refl n s
  · rename_i watch hwatch
    split
    · exact spares_of_watch hwatch hid _
    · exact .refl n s

lemma record_spares {k : Nat} (hne : k ≠ n.scope) (stopwatch : String) (interval : Span) :
    SparesShare n s (s.record k stopwatch interval) := by
  unfold record
  split
  · exact .refl n s
  · rename_i scope hscope
    split
    · exact .refl n s
    · rename_i context _
      have hset : SparesShare n s (s.setScope k { scope with
          samples := scope.samples ++ [⟨⟨context.label, stopwatch⟩, interval, s.today⟩] }) :=
        spares_of_set hne hscope rfl rfl rfl rfl rfl rfl
      dsimp only
      split
      · exact hset
      · exact ⟨hset.clocks, hset.today, hset.scope, hset.held, hset.watches, by
          simp [setScope, hne]⟩

lemma stop_spares (hfits : n.Fits s) {id : Nat} (hid : id ∉ n.watches) :
    SparesShare n s (s.stop id).1 := by
  unfold stop
  split
  · exact .refl n s
  · rename_i watch hwatch
    split
    · exact .refl n s
    · exact spares_of_watch hwatch hid _
    · dsimp only
      split
      · exact spares_of_watch hwatch hid _
      · rename_i k hscope
        refine (spares_of_watch hwatch hid _).trans (record_spares ?_ _ _)
        rintro rfl
        exact hid ((hfits.own id watch hwatch).mp (.inr hscope))

/-- What is not in the share of a scope leaves alone all that is mirrored of it. -/
theorem undergo_spares (hfits : n.Fits s) {o : Occurrence} (hnone : n.own? s o = none) :
    SparesShare n s (s.undergo o).1 := by
  cases o with
  | pass clocks today => cases hnone
  | act action =>
    have hnone : n.action? s action = none := Option.map_eq_none_iff.mp hnone
    unfold Naming.action? at hnone
    cases action with
    | openScope clock sink => exact openScope_spares (by simpa using hnone) clock sink
    | advance amount => cases hnone
    | enter id label => exact enter_spares (by simpa using hnone) label
    | exit id guard => exact exit_spares (by simpa using hnone)
    | release guard => exact release_spares (by simpa using hnone) false
    | releaseUnwinding guard => exact release_spares (by simpa using hnone) true
    | forget guard =>
      have hne : guard.scope ≠ n.scope := by simpa using hnone
      unfold undergo perform
      dsimp only
      split
      · exact ⟨rfl, rfl, rfl, filter_erase_of_ne hne _, fun _ _ => rfl, rfl⟩
      · exact .refl n s
    | newWatch label source started => exact newWatch_spares hfits label source started
    | start id => exact start_spares (by simpa using hnone)
    | stop id => exact stop_spares hfits (by simpa using hnone)
    | reset id =>
      have hid : id ∉ n.watches := by simpa using hnone
      unfold undergo perform
      dsimp only
      split
      · exact .refl n s
      · rename_i watch hwatch
        exact spares_of_watch hwatch hid _
    | dropWatch id =>
      have hid : id ∉ n.watches := by simpa using hnone
      unfold undergo perform
      dsimp only
      split
      · exact .refl n s
      · rename_i watch hwatch
        exact spares_of_watch hwatch hid _

end Session

end ProcessorHost
