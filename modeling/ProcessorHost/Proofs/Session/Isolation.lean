import ProcessorHost.Proofs.Session.OwnShare

/-!
# Isolation of scopes

The share of a scope, run without the other scopes, gives the same answers, contexts, samples and
deliveries as in the full session: one thing that happens takes mirroring sessions to mirroring
sessions, whether the scope has a share in it or not, and so does a run.
-/

namespace ProcessorHost

namespace Naming

variable {n : Naming} {s s' : Session}

lemma Fits.of_watches (h : n.Fits s) (hwatches : s'.watches = s.watches) : n.Fits s' where
  nodup := h.nodup
  known id hid := by rw [hwatches]; exact h.known id hid
  own id watch hwatch := h.own id watch (by rwa [Session.watch?, hwatches] at hwatch)

/-- A stopwatch stays in its scope. -/
lemma Fits.of_set (h : n.Fits s) {id : Nat} {old : Stopwatch} {after : Option Stopwatch}
    (hold : s.watch? id = some old) (hset : s'.watches = s.watches.set id after)
    (hscope : ∀ watch, after = some watch → watch.scope = old.scope) : n.Fits s' where
  nodup := h.nodup
  known k hk := by
    rw [hset, List.length_set]
    exact h.known k hk
  own k watch hwatch := by
    rw [Session.watch?_of_set hold hset] at hwatch
    split at hwatch
    · rename_i hk
      rw [hscope watch hwatch, hk]
      exact h.own id old hold
    · exact h.own k watch hwatch

lemma watch?_of_append {watch : Stopwatch} (hwatches : s'.watches = s.watches ++ [some watch])
    (k : Nat) :
    s'.watch? k = if k = s.watches.length then some watch else s.watch? k := by
  unfold Session.watch?
  rw [hwatches, List.getElem?_append]
  by_cases hlt : k < s.watches.length
  · rw [if_pos hlt, if_neg (Nat.ne_of_lt hlt)]
  · rw [if_neg hlt, List.getElem?_eq_none (Nat.not_lt.mp hlt)]
    split
    · simp [*]
    · rw [List.getElem?_eq_none]
      rw [List.length_singleton]
      omega

lemma Fits.of_own (h : n.Fits s) {watch : Stopwatch}
    (hwatches : s'.watches = s.watches ++ [some watch])
    (hscope : watch.scope = none ∨ watch.scope = some n.scope) :
    Fits { n with watches := n.watches ++ [s.watches.length] } s' where
  nodup := List.nodup_append.mpr ⟨h.nodup, List.nodup_singleton _, fun id hid k hk => by
    rw [List.mem_singleton.mp hk]
    exact Nat.ne_of_lt (h.known id hid)⟩
  known id hid := by
    rw [hwatches, List.length_append, List.length_singleton]
    rcases List.mem_append.mp hid with hid | hid
    · exact Nat.lt_succ_of_lt (h.known id hid)
    · rw [List.mem_singleton.mp hid]
      exact Nat.lt_succ_self _
  own k watch' hwatch' := by
    rw [watch?_of_append hwatches] at hwatch'
    rw [List.mem_append, List.mem_singleton]
    split at hwatch'
    · rename_i hk
      obtain rfl := Option.some.inj hwatch'
      exact ⟨fun _ => .inr hk, fun _ => hscope⟩
    · rename_i hk
      rw [h.own k watch' hwatch', or_iff_left hk]

lemma Fits.of_foreign (h : n.Fits s) {watch : Stopwatch}
    (hwatches : s'.watches = s.watches ++ [some watch])
    (hscope : ¬(watch.scope = none ∨ watch.scope = some n.scope)) : n.Fits s' where
  nodup := h.nodup
  known id hid := by
    rw [hwatches, List.length_append]
    exact Nat.lt_add_right _ (h.known id hid)
  own k watch' hwatch' := by
    rw [watch?_of_append hwatches] at hwatch'
    split at hwatch'
    · rename_i hk
      obtain rfl := Option.some.inj hwatch'
      exact ⟨fun hown => absurd hown hscope,
        fun hmem => absurd (h.known k hmem) (hk ▸ Nat.lt_irrefl _)⟩
    · exact h.own k watch' hwatch'

/-- Either there is no such scope, or a stopwatch with its clock is added. -/
lemma newWatch_cases (s : Session) (label : String) (source : WatchSource) (started : Bool) :
    s.newWatch label source started = (s, .missing) ∨
    ∃ watch : Stopwatch, (watch.scope = none ∨ watch.scope = some n.scope ↔ n.takes source) ∧
      s.newWatch label source started =
        ({ s with watches := s.watches ++ [some watch] }, .watch s.watches.length) := by
  have hscope (clock : ClockSource) (scope : Option Nat) :
      (if started then (Stopwatch.unstarted label clock scope).restart (s.clocks.read clock)
        else Stopwatch.unstarted label clock scope).scope = scope := by
    split
    · rfl
    · rfl
  cases source with
  | free clock => exact .inr ⟨_, by rw [hscope]; simp [takes], rfl⟩
  | attached id =>
    unfold Session.newWatch
    dsimp only
    split
    · exact .inl rfl
    · exact .inr ⟨_, by rw [hscope]; simp [takes], rfl⟩

lemma Fits.newWatch (h : n.Fits s) (label : String) (source : WatchSource) (started : Bool) :
    (n.extend s (.act (.newWatch label source started))).Fits
      (s.newWatch label source started).1 := by
  unfold extend Session.undergo Session.perform
  dsimp only
  rcases newWatch_cases (n := n) s label source started with heq | ⟨watch, hscope, heq⟩
  · rw [heq]
    exact h
  · rw [heq]
    dsimp only
    split
    · rename_i htakes
      exact h.of_own rfl (hscope.mpr htakes)
    · rename_i htakes
      exact h.of_foreign rfl fun hown => htakes (hscope.mp hown)

theorem Fits.undergo (h : n.Fits s) (o : Occurrence) : (n.extend s o).Fits (s.undergo o).1 := by
  cases o with
  | pass clocks today => exact h.of_watches rfl
  | act action =>
    cases action with
    | openScope clock sink => exact h.of_watches rfl
    | advance amount => exact h.of_watches rfl
    | enter id label => exact h.of_watches (s.watches_enter id label)
    | exit id guard => exact h.of_watches (s.watches_exit id guard)
    | release guard => exact h.of_watches (s.watches_release guard false)
    | releaseUnwinding guard => exact h.of_watches (s.watches_release guard true)
    | forget guard =>
      refine h.of_watches ?_
      unfold Session.undergo Session.perform
      dsimp only
      split
      · rfl
      · rfl
    | newWatch label source started => exact h.newWatch label source started
    | start id =>
      change n.Fits (s.start id).1
      unfold Session.start
      split
      · exact h
      · rename_i watch hwatch
        split
        · rename_i after hafter
          refine h.of_set hwatch rfl fun watch' heq => ?_
          unfold Stopwatch.start at hafter
          split at hafter
          · cases hafter
          · cases heq
            cases hafter
            rfl
        · exact h
    | stop id =>
      change n.Fits (s.stop id).1
      rcases s.stop_cases id with ⟨-, hs⟩ | ⟨watch, after, hwatch, hafter, hset, -⟩
      · rwa [hs]
      · refine h.of_set hwatch hset fun watch' heq => ?_
        cases heq
        exact (congrArg WatchCourse.scope hafter).symm
    | reset id =>
      unfold Session.undergo Session.perform
      dsimp only
      split
      · exact h
      · rename_i watch hwatch
        exact h.of_set hwatch rfl fun watch' heq => by cases heq; rfl
    | dropWatch id =>
      unfold Session.undergo Session.perform
      dsimp only
      split
      · exact h
      · rename_i watch hwatch
        exact h.of_set hwatch rfl fun watch' heq => by cases heq

/-- What is not in the share gives no names. -/
lemma extend_of_none {o : Occurrence} (hnone : n.own? s o = none) : n.extend s o = n := by
  unfold extend
  split
  · rename_i label source started watch _
    rw [if_neg]
    intro htakes
    simp [own?, action?, htakes] at hnone
  · rfl

end Naming

namespace Session

/-- What one session does and answers is what the other does and answers for one scope. -/
structure Follows (n : Naming) (full alone : Session × Reply) : Prop where
  mirrors : Mirrors n full.1 alone.1
  reply : alone.2 = n.reply full.2

variable {n : Naming} {s s' t t' : Session}

namespace Mirrors

lemma scope (m : Mirrors n s t) : t.scope? 0 = s.scope? n.scope := by
  unfold scope?
  rw [m.scopes]
  unfold scope?
  cases s.scopes[n.scope]? with
  | none => rfl
  | some scope => rfl

lemma mem_held (m : Mirrors n s t) {g : Guard} (hg : g.scope = n.scope) :
    n.guard g ∈ t.held ↔ g ∈ s.held := by
  rw [m.held, List.mem_map_of_injective Naming.guard_injective, List.mem_filter]
  exact and_iff_left (decide_eq_true hg)

lemma held_erase (m : Mirrors n s t) (g : Guard) :
    t.held.erase (n.guard g) =
      ((s.held.erase g).filter fun g => g.scope = n.scope).map n.guard := by
  rw [m.held, ← List.erase_filter, List.map_erase Naming.guard_injective]

lemma read (m : Mirrors n s t) (clock : ClockSource) :
    t.clocks.read clock = s.clocks.read clock := by rw [m.clocks]

lemma watch (m : Mirrors n s t) {id : Nat} (hid : id ∈ n.watches) :
    t.watch? (n.watchName id) = (s.watch? id).map n.watch := by
  have hlt : n.watches.idxOf id < n.watches.length := List.idxOf_lt_length_iff.mpr hid
  change (t.watches[n.watches.idxOf id]?).join = _
  rw [m.watches, List.getElem?_map, List.getElem?_eq_getElem hlt, List.getElem_idxOf]
  rfl

/-- The scope changes in both in the same way. -/
lemma of_set (m : Mirrors n s t) {old scope : Scope} (hold : s.scope? n.scope = some old)
    (hs : s'.scopes = s.scopes.set n.scope scope) (ht : t'.scopes = t.scopes.set 0 scope)
    (hclocks : t'.clocks = s'.clocks) (htoday : t'.today = s'.today)
    (hheld : t'.held = (s'.held.filter fun g => g.scope = n.scope).map n.guard)
    (hsw : s'.watches = s.watches) (htw : t'.watches = t.watches)
    (hdeliveries : t'.deliveries =
      (s'.deliveries.filter fun d => d.scope = n.scope).map n.delivery) : Mirrors n s' t' where
  clocks := hclocks
  today := htoday
  scopes := by
    rw [scope?_of_set hold hs, if_pos rfl, ht, m.scopes, hold]
    rfl
  held := hheld
  watches := by
    rw [htw, m.watches]
    unfold watch?
    rw [hsw]
  deliveries := hdeliveries

/-- A stopwatch changes in both in the same way. -/
lemma setWatch (m : Mirrors n s t) (hnodup : n.watches.Nodup) {id : Nat} {old : Stopwatch}
    (hold : s.watch? id = some old) (hid : id ∈ n.watches) (after : Option Stopwatch) :
    Mirrors n (s.setWatch id after) (t.setWatch (n.watchName id) (after.map n.watch)) where
  clocks := m.clocks
  today := m.today
  scopes := m.scopes
  held := m.held
  watches := by
    have hset (k : Nat) : (s.setWatch id after).watch? k = if k = id then after else s.watch? k :=
      watch?_of_set hold rfl k
    change t.watches.set (n.watchName id) (after.map n.watch) = _
    rw [m.watches]
    refine List.ext_getElem (by simp) fun k hk _ => ?_
    have hlt : k < n.watches.length := by simpa using hk
    rw [List.getElem_set, List.getElem_map, List.getElem_map, hset]
    -- No two places have the same stopwatch.
    have hplace : n.watchName id = k ↔ n.watches[k] = id := by
      constructor
      · rintro rfl
        exact List.getElem_idxOf _
      · rintro rfl
        exact hnodup.idxOf_getElem k hlt
    by_cases h : n.watches[k] = id
    · rw [if_pos (hplace.mpr h), if_pos h]
    · rw [if_neg (fun heq => h (hplace.mp heq)), if_neg h]
  deliveries := m.deliveries

lemma openScope (m : Mirrors n s t) (hlength : s.scopes.length = n.scope) (clock : ClockSource)
    (sink : Option Nat) :
    Follows n (s.perform (.openScope clock sink)) (t.perform (.openScope clock sink)) := by
  have hnone : t.scopes = [] := by
    rw [m.scopes, scope?, List.getElem?_eq_none (Nat.le_of_eq hlength)]
    rfl
  have hnew : (s.perform (.openScope clock sink)).1.scope? n.scope = some (.fresh clock sink) := by
    rw [← hlength]
    exact List.getElem?_concat_length
  refine ⟨⟨m.clocks, m.today, ?_, m.held, m.watches, m.deliveries⟩, ?_⟩
  · rw [hnew]
    change t.scopes ++ [Scope.fresh clock sink] = [Scope.fresh clock sink]
    rw [hnone, List.nil_append]
  · change Reply.scope t.scopes.length = .scope (n.scopeName s.scopes.length)
    rw [hlength, Naming.scopeName_self, hnone, List.length_nil]

lemma enter (m : Mirrors n s t) (label : String) :
    Follows n (s.enter n.scope label) (t.enter 0 label) := by
  unfold Session.enter
  rw [m.scope]
  split
  · exact ⟨m, rfl⟩
  · rename_i scope hscope
    dsimp only
    rw [m.read]
    refine ⟨m.of_set hscope rfl rfl m.clocks m.today ?_ rfl rfl m.deliveries, ?_⟩
    · rw [List.filter_cons_of_pos (by simp), List.map_cons, ← m.held]
      simp [Naming.guard]
    · simp [Naming.reply, Naming.guard]

lemma exit (m : Mirrors n s t) {g : Guard} (hg : g.scope = n.scope) :
    Follows n (s.exit n.scope g) (t.exit 0 (n.guard g)) := by
  unfold Session.exit
  rw [m.scope]
  split
  · exact ⟨m, rfl⟩
  · rename_i scope hscope
    simp only [m.mem_held hg, Naming.guard_scope, Naming.guard_id, Naming.guard_label, hg,
      Naming.scopeName_self, true_and]
    split
    · split
      · split
        · exact ⟨m.of_set hscope rfl rfl m.clocks m.today (m.held_erase g) rfl rfl m.deliveries,
            rfl⟩
        · exact ⟨m, rfl⟩
      · exact ⟨m, rfl⟩
    · exact ⟨m, rfl⟩

lemma release (m : Mirrors n s t) {g : Guard} (hg : g.scope = n.scope) (unwinding : Bool) :
    Follows n (s.release g unwinding) (t.release (n.guard g) unwinding) := by
  unfold Session.release
  rw [Naming.guard_scope, hg, Naming.scopeName_self, m.scope]
  split
  · exact ⟨m, rfl⟩
  · rename_i scope hscope
    simp only [m.mem_held hg, Naming.guard_id, Naming.guard_label]
    split
    · have hset (log log' : List LogRecord) : Mirrors n
          { s.setScope n.scope (scope.remove g.id) with held := s.held.erase g, log := log }
          { t.setScope 0 (scope.remove g.id) with
            held := t.held.erase (n.guard g), log := log' } :=
        m.of_set hscope rfl rfl m.clocks m.today (m.held_erase g) rfl rfl m.deliveries
      by_cases hin : scope.isInnermost g.id || unwinding
      · simp only [hin, ite_true]
        exact ⟨hset _ _, rfl⟩
      · simp only [hin]
        exact ⟨hset _ _, rfl⟩
    · exact ⟨m, rfl⟩

lemma forget (m : Mirrors n s t) {g : Guard} (hg : g.scope = n.scope) :
    Follows n (s.perform (.forget g)) (t.perform (.forget (n.guard g))) := by
  unfold perform
  simp only [m.mem_held hg]
  split
  · exact ⟨⟨m.clocks, m.today, m.scopes, m.held_erase g, m.watches, m.deliveries⟩, rfl⟩
  · exact ⟨m, rfl⟩

lemma newWatch (m : Mirrors n s t) (hfits : n.Fits s) (label : String) {source : WatchSource}
    (htakes : n.takes source = true) (started : Bool) :
    Follows (n.extend s (.act (.newWatch label source started)))
      (s.newWatch label source started) (t.newWatch label (n.source source) started) := by
  have hnew : s.watches.length ∉ n.watches := fun h => Nat.lt_irrefl _ (hfits.known _ h)
  have hlength : t.watches.length = n.watches.length := by rw [m.watches, List.length_map]
  have hadd (watch : Stopwatch) : Follows { n with watches := n.watches ++ [s.watches.length] }
      ({ s with watches := s.watches ++ [some watch] }, .watch s.watches.length)
      ({ t with watches := t.watches ++ [some (n.watch watch)] }, .watch t.watches.length) := by
    refine ⟨⟨m.clocks, m.today, m.scopes, m.held, ?_, m.deliveries⟩, ?_⟩
    · have hwatch (k : Nat) :
          ({ s with watches := s.watches ++ [some watch] } : Session).watch? k =
            if k = s.watches.length then some watch else s.watch? k :=
        Naming.watch?_of_append rfl k
      rw [List.map_append, m.watches]
      refine congrArg₂ _ (List.map_congr_left fun id hid => ?_) ?_
      · rw [hwatch, if_neg (Nat.ne_of_lt (hfits.known id hid))]
        rfl
      · rw [List.map_singleton, hwatch, if_pos rfl]
        rfl
    · change Reply.watch _ = .watch ((n.watches ++ [s.watches.length]).idxOf s.watches.length)
      rw [List.idxOf_append_of_notMem hnew, List.idxOf_cons_self, hlength, Nat.add_zero]
  have hnamed (clock : ClockSource) (scope : Option Nat) :
      (if started then (Stopwatch.unstarted label clock (scope.map n.scopeName)).restart
          (t.clocks.read clock) else .unstarted label clock (scope.map n.scopeName)) =
        n.watch (if started then (Stopwatch.unstarted label clock scope).restart
          (s.clocks.read clock) else .unstarted label clock scope) := by
    rw [m.read]
    cases started with
    | false => rfl
    | true => rfl
  cases source with
  | free clock =>
    have h := hadd (if started then (Stopwatch.unstarted label clock none).restart
      (s.clocks.read clock) else .unstarted label clock none)
    rw [← hnamed] at h
    exact h
  | attached id =>
    obtain rfl : id = n.scope := by simpa [Naming.takes] using htakes
    unfold Naming.extend undergo perform Session.newWatch
    dsimp only [Naming.source]
    rw [Naming.scopeName_self, m.scope]
    cases hscope : s.scope? n.scope with
    | none => exact ⟨m, rfl⟩
    | some scope =>
      have h := hadd (if started then (Stopwatch.unstarted label scope.clock (some n.scope)).restart
        (s.clocks.read scope.clock) else .unstarted label scope.clock (some n.scope))
      rw [← hnamed, Option.map_some, Naming.scopeName_self] at h
      dsimp only
      rw [if_pos htakes]
      exact h

lemma start (m : Mirrors n s t) (hfits : n.Fits s) {id : Nat} (hid : id ∈ n.watches) :
    Follows n (s.start id) (t.start (n.watchName id)) := by
  unfold Session.start
  rw [m.watch hid]
  cases hwatch : s.watch? id with
  | none => exact ⟨m, rfl⟩
  | some watch =>
    rw [Option.map_some]
    dsimp only
    have hstart : (n.watch watch).start (t.clocks.read (n.watch watch).clock) =
        (watch.start (s.clocks.read watch.clock)).map n.watch := by
      change (n.watch watch).start (t.clocks.read watch.clock) = _
      rw [m.read, Naming.watch_start]
    rw [hstart]
    cases watch.start (s.clocks.read watch.clock) with
    | ok after => exact ⟨m.setWatch hfits.nodup hwatch hid (some after), rfl⟩
    | error e => exact ⟨m, rfl⟩

lemma record (m : Mirrors n s t) (stopwatch : String) (interval : Span) :
    Mirrors n (s.record n.scope stopwatch interval) (t.record 0 stopwatch interval) := by
  unfold Session.record
  rw [m.scope]
  split
  · exact m
  · rename_i scope hscope
    split
    · exact m
    · rename_i context _
      dsimp only
      rw [m.today]
      let after : Scope := { scope with
        samples := scope.samples ++ [⟨⟨context.label, stopwatch⟩, interval, s.today⟩] }
      have hset : Mirrors n (s.setScope n.scope after) (t.setScope 0 after) :=
        m.of_set hscope rfl rfl m.clocks m.today m.held rfl rfl m.deliveries
      split
      · exact hset
      · refine ⟨hset.clocks, hset.today, hset.scopes, hset.held, hset.watches, ?_⟩
        dsimp only
        rw [List.filter_append, List.map_append]
        refine congrArg₂ _ hset.deliveries ?_
        simp [Naming.delivery]

lemma stop (m : Mirrors n s t) (hfits : n.Fits s) {id : Nat} (hid : id ∈ n.watches) :
    Follows n (s.stop id) (t.stop (n.watchName id)) := by
  unfold Session.stop
  rw [m.watch hid]
  cases hwatch : s.watch? id with
  | none => exact ⟨m, rfl⟩
  | some watch =>
    rw [Option.map_some]
    dsimp only
    have hstop : (n.watch watch).stop (t.clocks.read (n.watch watch).clock) =
        n.outcome (watch.stop (s.clocks.read watch.clock)) := by
      change (n.watch watch).stop (t.clocks.read watch.clock) = _
      rw [m.read, Naming.watch_stop]
    rw [hstop]
    cases watch.stop (s.clocks.read watch.clock) with
    | refused e => exact ⟨m, rfl⟩
    | overflow after => exact ⟨m.setWatch hfits.nodup hwatch hid (some after), rfl⟩
    | stopped after interval =>
      have hset := m.setWatch hfits.nodup hwatch hid (some after)
      have hscope' : (n.watch watch).scope = watch.scope.map n.scopeName := rfl
      dsimp only [Naming.outcome]
      rw [hscope']
      rcases (hfits.own id watch hwatch).mpr hid with hscope | hscope
      · rw [hscope]
        exact ⟨hset, rfl⟩
      · rw [hscope, Option.map_some, Naming.scopeName_self]
        exact ⟨hset.record watch.label interval, rfl⟩

lemma setWatch_done (m : Mirrors n s t) (hfits : n.Fits s) {id : Nat} (hid : id ∈ n.watches)
    (f : Stopwatch → Option Stopwatch)
    (hf : ∀ watch, f (n.watch watch) = (f watch).map n.watch) :
    Follows n
      (match s.watch? id with
        | none => (s, .missing)
        | some watch => (s.setWatch id (f watch), .done))
      (match t.watch? (n.watchName id) with
        | none => (t, .missing)
        | some watch => (t.setWatch (n.watchName id) (f watch), .done)) := by
  rw [m.watch hid]
  cases hwatch : s.watch? id with
  | none => exact ⟨m, rfl⟩
  | some watch =>
    rw [Option.map_some]
    dsimp only
    rw [hf]
    exact ⟨m.setWatch hfits.nodup hwatch hid (f watch), rfl⟩

lemma named {p : Prop} [Decidable p] {action action' : Action}
    (h : (if p then some action else none) = some action') : p ∧ action = action' := by
  simpa using h

/-- What is in the share of the scope is done in both sessions in the same way. -/
theorem undergo (m : Mirrors n s t) (hfits : n.Fits s) {o o' : Occurrence}
    (hown : n.own? s o = some o') : Follows (n.extend s o) (s.undergo o) (t.undergo o') := by
  cases o with
  | pass clocks today =>
    obtain rfl := Option.some.inj hown
    exact ⟨⟨rfl, rfl, m.scopes, m.held, m.watches, m.deliveries⟩, rfl⟩
  | act action =>
    obtain ⟨action', haction, rfl⟩ := Option.map_eq_some_iff.mp hown
    unfold Naming.action? at haction
    cases action with
    | openScope clock sink =>
      obtain ⟨hlength, rfl⟩ := named haction
      exact m.openScope hlength clock sink
    | advance amount =>
      obtain rfl := Option.some.inj haction
      refine ⟨⟨?_, m.today, m.scopes, m.held, m.watches, m.deliveries⟩, rfl⟩
      exact congrArg (·.advance amount) m.clocks
    | enter id label =>
      obtain ⟨rfl, rfl⟩ := named haction
      exact m.enter label
    | exit id guard =>
      obtain ⟨⟨rfl, hguard⟩, rfl⟩ := named haction
      exact m.exit hguard
    | release guard =>
      obtain ⟨hguard, rfl⟩ := named haction
      exact m.release hguard false
    | releaseUnwinding guard =>
      obtain ⟨hguard, rfl⟩ := named haction
      exact m.release hguard true
    | forget guard =>
      obtain ⟨hguard, rfl⟩ := named haction
      exact m.forget hguard
    | newWatch label source started =>
      obtain ⟨htakes, rfl⟩ := named haction
      exact m.newWatch hfits label htakes started
    | start id =>
      obtain ⟨hid, rfl⟩ := named haction
      exact m.start hfits hid
    | stop id =>
      obtain ⟨hid, rfl⟩ := named haction
      exact m.stop hfits hid
    | reset id =>
      obtain ⟨hid, rfl⟩ := named haction
      exact m.setWatch_done hfits hid (fun watch => some watch.reset) fun _ => rfl
    | dropWatch id =>
      obtain ⟨hid, rfl⟩ := named haction
      exact m.setWatch_done hfits hid (fun _ => none) fun _ => rfl

/-- A run takes mirroring sessions to mirroring sessions, with the same answers on the way. -/
theorem undergoAll (m : Mirrors n s t) (hfits : n.Fits s) (os : List Occurrence) :
    Mirrors (s.extendAll n os) (s.undergoAll os) (t.undergoAll (s.share n os)) ∧
      s.repliesTo n os = t.replies (s.share n os) := by
  induction os generalizing n s t with
  | nil => exact ⟨m, rfl⟩
  | cons o rest ih =>
    change Mirrors ((s.undergo o).1.extendAll (n.extend s o) rest) ((s.undergo o).1.undergoAll rest)
      _ ∧ _
    cases hown : n.own? s o with
    | none =>
      have hshare : s.share n (o :: rest) = (s.undergo o).1.share (n.extend s o) rest := by
        rw [share, hown]
        rfl
      have hasked : s.repliesTo n (o :: rest) = (s.undergo o).1.repliesTo (n.extend s o) rest := by
        rw [repliesTo, hown]
        rfl
      have hextend : n.extend s o = n := Naming.extend_of_none hown
      have hrest := ih (m.spares (undergo_spares hfits hown)) (hextend ▸ hfits.undergo o)
      rw [hshare, hasked, hextend]
      exact hrest
    | some o' =>
      have hshare : s.share n (o :: rest) =
          o' :: (s.undergo o).1.share (n.extend s o) rest := by
        rw [share, hown]
        rfl
      have hasked : s.repliesTo n (o :: rest) = (n.extend s o).reply (s.undergo o).2 ::
          (s.undergo o).1.repliesTo (n.extend s o) rest := by
        rw [repliesTo, hown]
        rfl
      have hstep := m.undergo hfits hown
      obtain ⟨hmirrors, hreplies⟩ := ih hstep.mirrors (hfits.undergo o)
      rw [hshare, hasked]
      refine ⟨hmirrors, ?_⟩
      rw [replies, hstep.reply, hreplies]

end Mirrors

/-- What a scope has of a run is what it has of its own share of the run. -/
structure RunsAlone (k : Nat) (os : List Occurrence) : Prop where
  /-- Contexts, samples, guards, stopwatches and deliveries are the same at the end. -/
  state : Mirrors (fresh.extendAll ⟨k, []⟩ os) (fresh.undergoAll os)
    (fresh.undergoAll (fresh.share ⟨k, []⟩ os))
  /-- Every answer on the way is the same. -/
  replies : fresh.repliesTo ⟨k, []⟩ os = fresh.replies (fresh.share ⟨k, []⟩ os)
  /-- After the run, an exit with the guard of another scope changes nothing; it is refused with
  the label that is active when the scope runs alone. -/
  foreign : ∀ guard : Guard, guard.scope ≠ k →
    ((fresh.undergoAll os).exit k guard).1 = fresh.undergoAll os ∧
    ∀ scope, (fresh.undergoAll (fresh.share ⟨k, []⟩ os)).scope? 0 = some scope →
      guard ∈ (fresh.undergoAll os).held →
        ((fresh.undergoAll os).exit k guard).2 =
          .refused (.outOfOrderExit guard.label scope.activeLabel)

lemma scope_extendAll (s : Session) (n : Naming) (os : List Occurrence) :
    (s.extendAll n os).scope = n.scope := by
  induction os generalizing s n with
  | nil => rfl
  | cons o rest ih =>
    unfold extendAll
    rw [ih]
    unfold Naming.extend
    split
    · split
      · rfl
      · rfl
    · rfl

/-- Scopes do not interfere. -/
theorem scopes_run_alone (k : Nat) (os : List Occurrence) : RunsAlone k os := by
  have hmirrors : Mirrors ⟨k, []⟩ fresh fresh := ⟨rfl, rfl, rfl, rfl, rfl, rfl⟩
  have hfits : Naming.Fits ⟨k, []⟩ fresh := ⟨List.nodup_nil, by simp, by simp [fresh, watch?]⟩
  obtain ⟨hstate, hreplies⟩ := hmirrors.undergoAll hfits os
  refine ⟨hstate, hreplies, fun guard hne => ?_⟩
  obtain ⟨hsame, hrefused⟩ := exit_foreign (s := fresh.undergoAll os) hne
  refine ⟨hsame, fun scope hscope => hrefused scope ?_⟩
  rwa [hstate.scope, scope_extendAll] at hscope

/-- Two contexts with the same number in two scopes. -/
example : fresh.share ⟨1, []⟩
    [.act (.openScope .system none), .act (.openScope .manual none), .act (.enter 0 "read"),
      .act (.enter 1 "write"), .act (.exit 1 ⟨0, 0, "read"⟩), .act (.exit 1 ⟨1, 0, "write"⟩)] =
    [.act (.openScope .manual none), .act (.enter 0 "write"), .act (.exit 0 ⟨0, 0, "write"⟩)] := rfl

end Session

end ProcessorHost
