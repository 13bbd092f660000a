import ProcessorHost.Proofs.Session.ContextHistory

/-!
# Stacks of contexts

As long as no scope has handed out every number of 64 bits, the stack of each scope is what
the history of the session says: the contexts entered on it and not given up, the latest first.
The numbers of the frames differ, each guard that is held has one frame, and whichever way it
is given up that frame goes and no other. So the order in which guards are given up does not
matter for what remains.
-/

namespace ProcessorHost

namespace Session

/-- A session in whose scopes nothing was entered yet. -/
structure IsUnused (s : Session) : Prop where
  scopes : ∀ scope ∈ s.scopes, ∃ clock sink, scope = .fresh clock sink
  held : s.held = []

/-- What a session keeps of the history of its contexts. -/
structure Records (s : Session) (h : ContextHistory) : Prop where
  frames : ∀ k, s.frames k = ((h.active k).map frameOf).reverse
  next : ∀ k, s.nextNumber k = (h.entered k).length
  numbers : ∀ k, (h.entered k).map (fun e => e.1.id.toNat) = List.range (h.entered k).length
  labels : ∀ k, ∀ e ∈ h.entered k, e.2.label = e.1.label
  released : ∀ k, ∀ guard ∈ h.released k, guard ∈ (h.entered k).map Prod.fst
  releasedOnce : ∀ k, (h.released k).Nodup
  held : ∀ guard ∈ s.held, guard ∈ (h.active guard.scope).map Prod.fst
  heldOnce : s.held.Nodup

namespace Records

variable {s s' : Session} {h : ContextHistory}

lemma ids_nodup (hr : s.Records h) (k : Nat) : ((h.entered k).map fun e => e.1.id).Nodup := by
  apply List.Nodup.of_map UInt64.toNat
  rw [List.map_map]
  change ((h.entered k).map fun e => e.1.id.toNat).Nodup
  rw [hr.numbers]
  exact List.nodup_range

lemma eq_of_id (hr : s.Records h) {k : Nat} {e e' : Guard × Context} (he : e ∈ h.entered k)
    (he' : e' ∈ h.entered k) (hid : e.1.id = e'.1.id) : e = e' :=
  List.inj_on_of_nodup_map (hr.ids_nodup k) he he' hid

lemma mem_entered_of_active {k : Nat} {e : Guard × Context} (he : e ∈ h.active k) :
    e ∈ h.entered k := List.mem_of_mem_filter he

lemma hasDistinctFrames (hr : s.Records h) : s.HasDistinctFrames := by
  intro k
  rw [hr.frames, List.map_reverse, List.nodup_reverse, List.map_map]
  exact (List.filter_sublist.map _).nodup (hr.ids_nodup k)

/-- A guard that is held belongs to a context that is active, under the guard's label. -/
lemma active_of_held (hr : s.Records h) {guard : Guard} (hg : guard ∈ s.held) :
    ∃ context, (guard, context) ∈ h.active guard.scope ∧ context.label = guard.label := by
  obtain ⟨e, he, rfl⟩ := List.mem_map.mp (hr.held guard hg)
  exact ⟨e.2, he, hr.labels _ e (mem_entered_of_active he)⟩

/-- Giving up, counted: what was entered on a scope is active or was given up. -/
lemma active_add_released (hr : s.Records h) (k : Nat) :
    (h.active k).length + (h.released k).length = (h.entered k).length := by
  have hguards : ((h.entered k).map Prod.fst).Nodup := by
    apply List.Nodup.of_map (fun guard : Guard => guard.id)
    rw [List.map_map]
    exact hr.ids_nodup k
  have hperm : (((h.entered k).map Prod.fst).filter fun g => g ∈ h.released k).Perm
      (h.released k) := by
    rw [List.perm_ext_iff_of_nodup (hguards.filter _) (hr.releasedOnce k)]
    intro guard
    rw [List.mem_filter, decide_eq_true_iff]
    exact ⟨fun hg => hg.2, fun hg => ⟨hr.released k guard hg, hg⟩⟩
  have hsplit := List.length_eq_length_filter_add (l := h.entered k)
    fun e => decide (e.1 ∈ h.released k)
  have hlength : ((h.entered k).filter fun e => decide (e.1 ∈ h.released k)).length =
      (h.released k).length := by
    rw [← hperm.length_eq, List.filter_map, List.length_map]
    rfl
  have hactive : (h.entered k).filter (fun e => !decide (e.1 ∈ h.released k)) = h.active k := by
    unfold ContextHistory.active
    congr 1
    funext e
    simp
  rw [hactive, hlength] at hsplit
  omega

lemma keeps (hr : s.Records h) (hs : ContextStep s s' none) : s'.Records h := by
  cases hs with
  | keeps frames next held =>
    exact {
      frames := fun k => (frames k).trans (hr.frames k)
      next := fun k => (next k).trans (hr.next k)
      numbers := hr.numbers
      labels := hr.labels
      released := hr.released
      releasedOnce := hr.releasedOnce
      held := fun guard hg => hr.held guard (held.subset hg)
      heldOnce := held.nodup hr.heldOnce }

lemma ne_of_next (hr : s.Records h) {guard : Guard}
    (number : guard.id.toNat = s.nextNumber guard.scope) :
    ∀ e ∈ h.entered guard.scope, e.1 ≠ guard := by
  intro e he heq
  have hmem : e.1.id.toNat ∈ (h.entered guard.scope).map fun e => e.1.id.toNat :=
    List.mem_map_of_mem he
  rw [hr.numbers, List.mem_range, heq, number, hr.next] at hmem
  exact Nat.lt_irrefl _ hmem

lemma active_enter (hr : s.Records h) {guard : Guard} (context : Context)
    (number : guard.id.toNat = s.nextNumber guard.scope) (k : Nat) :
    ContextHistory.active (h ++ [.entered guard context]) k =
      h.active k ++ if k = guard.scope then [(guard, context)] else [] := by
  have hfresh : guard ∉ h.released guard.scope := by
    intro hg
    obtain ⟨e, he, heq⟩ := List.mem_map.mp (hr.released _ _ hg)
    exact hr.ne_of_next number e he heq
  unfold ContextHistory.active
  rw [ContextHistory.entered_enter, ContextHistory.released_enter, List.filter_append]
  by_cases hk : k = guard.scope
  · simp [hk, hfresh]
  · simp [hk]

/-- A context is entered. Its number is new because not all numbers were handed out. -/
lemma enters (hr : s.Records h) {guard : Guard} {context : Context}
    (hs : ContextStep s s' (some (.entered guard context)))
    (hfew : (h.entered guard.scope).length + 1 < UInt64.size) :
    s'.Records (h ++ [.entered guard context]) := by
  cases hs with
  | enters _ _ number label frames next held =>
    constructor
    case frames =>
      intro k
      rw [frames, hr.active_enter context number, hr.frames]
      by_cases hk : k = guard.scope
      · simp [hk]
      · simp [hk]
    case next =>
      intro k
      rw [next, ContextHistory.entered_enter, hr.next]
      by_cases hk : k = guard.scope
      · subst hk
        rw [if_pos rfl, if_pos rfl, List.length_append, Nat.mod_eq_of_lt hfew]
        rfl
      · simp [hk]
    case numbers =>
      intro k
      rw [ContextHistory.entered_enter]
      by_cases hk : k = guard.scope
      · subst hk
        rw [if_pos rfl, List.map_append, List.length_append, hr.numbers, List.length_singleton,
          List.range_succ, ← hr.next, ← number]
        rfl
      · simpa [hk] using hr.numbers k
    case labels =>
      intro k e he
      rw [ContextHistory.entered_enter, List.mem_append] at he
      rcases he with he | he
      · exact hr.labels k e he
      · by_cases hk : k = guard.scope
        · rw [if_pos hk, List.mem_singleton] at he
          rw [he]
          exact label
        · simp [hk] at he
    case released =>
      intro k g hg
      rw [ContextHistory.released_enter] at hg
      rw [ContextHistory.entered_enter, List.map_append, List.mem_append]
      exact .inl (hr.released k g hg)
    case releasedOnce =>
      intro k
      rw [ContextHistory.released_enter]
      exact hr.releasedOnce k
    case held =>
      intro g hg
      rw [hr.active_enter context number, List.map_append, List.mem_append]
      rw [held, List.mem_cons] at hg
      rcases hg with rfl | hg
      · simp
      · exact .inl (hr.held g hg)
    case heldOnce =>
      rw [held, List.nodup_cons]
      refine ⟨fun hg => ?_, hr.heldOnce⟩
      obtain ⟨e, he, heq⟩ := List.mem_map.mp (hr.held guard hg)
      exact hr.ne_of_next number e (mem_entered_of_active he) heq

lemma active_release (hr : s.Records h) {guard : Guard} (hg : guard ∈ s.held) (k : Nat) :
    ContextHistory.active (h ++ [.released guard]) k =
      if k = guard.scope then (h.active k).filter (fun e => e.1.id != guard.id)
      else h.active k := by
  obtain ⟨context, hmem, -⟩ := hr.active_of_held hg
  unfold ContextHistory.active
  rw [ContextHistory.entered_release, ContextHistory.released_release]
  by_cases hk : k = guard.scope
  · subst hk
    rw [if_pos rfl, if_pos rfl, List.filter_filter]
    apply List.filter_congr
    intro e he
    -- The guards of one scope are told apart by their numbers.
    have hid : e.1 = guard ↔ e.1.id = guard.id := by
      constructor
      · intro heq
        rw [heq]
      · intro heq
        exact congrArg Prod.fst (hr.eq_of_id he (mem_entered_of_active hmem) heq)
    by_cases hne : e.1.id = guard.id
    · simp [hid.mpr hne]
    · simp [hne, mt hid.mp hne]
  · simp [hk]

lemma releases (hr : s.Records h) {guard : Guard}
    (hs : ContextStep s s' (some (.released guard))) : s'.Records (h ++ [.released guard]) := by
  cases hs with
  | releases _ mem frames next held =>
    obtain ⟨context, hmem, -⟩ := hr.active_of_held mem
    constructor
    case frames =>
      intro k
      rw [frames, hr.active_release mem, hr.frames]
      by_cases hk : k = guard.scope
      · rw [if_pos hk, if_pos hk, List.filter_reverse, List.filter_map]
        rfl
      · rw [if_neg hk, if_neg hk]
    case next =>
      intro k
      rw [next, ContextHistory.entered_release, hr.next]
    case numbers =>
      intro k
      rw [ContextHistory.entered_release]
      exact hr.numbers k
    case labels =>
      intro k e he
      rw [ContextHistory.entered_release] at he
      exact hr.labels k e he
    case released =>
      intro k g hg
      rw [ContextHistory.entered_release]
      rw [ContextHistory.released_release, List.mem_append] at hg
      rcases hg with hg | hg
      · exact hr.released k g hg
      · by_cases hk : k = guard.scope
        · rw [if_pos hk, List.mem_singleton] at hg
          rw [hg, hk]
          exact List.mem_map_of_mem (mem_entered_of_active hmem)
        · simp [hk] at hg
    case releasedOnce =>
      intro k
      rw [ContextHistory.released_release]
      by_cases hk : k = guard.scope
      · subst hk
        have hnot := (List.mem_filter.mp hmem).2
        rw [decide_eq_true_iff] at hnot
        rw [if_pos rfl, List.nodup_append]
        refine ⟨hr.releasedOnce _, List.nodup_singleton _, fun g hg g' hg' heq => ?_⟩
        rw [List.mem_singleton] at hg'
        rw [heq, hg'] at hg
        exact hnot hg
      · simpa [hk] using hr.releasedOnce k
    case held =>
      intro g hg
      rw [held, hr.heldOnce.mem_erase_iff] at hg
      obtain ⟨e, he, rfl⟩ := List.mem_map.mp (hr.held g hg.2)
      rw [hr.active_release mem]
      apply List.mem_map_of_mem
      by_cases hk : e.1.scope = guard.scope
      · rw [if_pos hk, List.mem_filter, bne_iff_ne]
        refine ⟨he, fun hid => ?_⟩
        rw [hk] at he
        exact hg.1 (congrArg Prod.fst
          (hr.eq_of_id (mem_entered_of_active he) (mem_entered_of_active hmem) hid))
      · rw [if_neg hk]
        exact he
    case heldOnce =>
      rw [held]
      exact hr.heldOnce.erase _

theorem perform (hr : s.Records h) (action : Action)
    (hfew : ContextHistory.LeavesNumbers (h ++ (s.contextEvent? action).toList)) :
    (s.perform action).1.Records (h ++ (s.contextEvent? action).toList) := by
  have hs := perform_step hr.hasDistinctFrames action
  cases hevent : s.contextEvent? action with
  | none =>
    rw [hevent] at hs
    simpa using hr.keeps hs
  | some event =>
    rw [hevent] at hs hfew
    cases event with
    | entered guard context =>
      have hscope := hfew guard.scope
      rw [Option.toList_some, ContextHistory.entered_enter, if_pos rfl,
        List.length_append] at hscope
      exact hr.enters hs hscope
    | released guard => exact hr.releases hs

/-- What a run leaves, as long as numbers are left. -/
theorem performAll (hr : s.Records h) (actions : List Action)
    (hfew : ContextHistory.LeavesNumbers (h ++ s.contextHistory actions)) :
    (s.performAll actions).Records (h ++ s.contextHistory actions) := by
  induction actions generalizing s h with
  | nil => simpa [Session.performAll, contextHistory] using hr
  | cons action rest ih =>
    simp only [contextHistory, ← List.append_assoc] at hfew ⊢
    refine ih (hr.perform action fun k => ?_) hfew
    have hk := hfew k
    rw [ContextHistory.entered_append, List.length_append] at hk
    omega

lemma begin (hs : s.IsUnused) : s.Records [] := by
  have hscope (k : Nat) : s.frames k = [] ∧ s.nextNumber k = 0 := by
    cases hk : s.scope? k with
    | none => simp [Session.frames, nextNumber, hk]
    | some scope =>
      obtain ⟨clock, sink, rfl⟩ := hs.scopes scope (List.mem_of_getElem? hk)
      simp [frames_of_scope hk, nextNumber_of_scope hk, Scope.fresh]
  exact {
    frames := fun k => (hscope k).1
    next := fun k => (hscope k).2
    numbers := fun _ => rfl
    labels := by simp [ContextHistory.entered]
    released := by simp [ContextHistory.released]
    releasedOnce := fun _ => List.nodup_nil
    held := by simp [hs.held]
    heldOnce := by simp [hs.held] }

end Records

/-- Of the contexts of a session, `after` lacks the frame of one guard, and no other. -/
def LosesOnly (s : Session) (guard : Guard) (after : Session) : Prop :=
  ∃ inner frame outer, s.frames guard.scope = inner ++ frame :: outer ∧
    frame.id = guard.id ∧ frame.context.label = guard.label ∧
    (∀ k, after.frames k = if k = guard.scope then inner ++ outer else s.frames k) ∧
    after.held = s.held.erase guard

/-- What the history of its contexts says about a session. -/
structure FollowsHistory (s : Session) (h : ContextHistory) : Prop where
  /-- A scope holds the contexts entered on it and not given up, the latest first. -/
  stack : ∀ k scope, s.scope? k = some scope →
    scope.frames = ((h.active k).map frameOf).reverse
  distinct : ∀ k scope, s.scope? k = some scope → (scope.frames.map (·.id)).Nodup
  depth : ∀ k scope, s.scope? k = some scope →
    scope.depth + (h.released k).length = (h.entered k).length
  current : ∀ k scope, s.scope? k = some scope →
    scope.current? = (h.active k).getLast?.map Prod.snd
  /-- A guard that is held has exactly one frame, in its own scope and under its label. -/
  held : ∀ guard ∈ s.held, ∃ scope frame, s.scope? guard.scope = some scope ∧
    scope.frames.filter (fun f => f.id == guard.id) = [frame] ∧
    frame.context.label = guard.label
  /-- Releasing a guard takes its frame away, also when this is a fault or a panic unwinds. -/
  release : ∀ guard ∈ s.held, ∀ unwinding,
    (s.release guard unwinding).2 ≠ .missing ∧ s.LosesOnly guard (s.release guard unwinding).1
  /-- An exit takes the frame of its guard away, or it is refused and changes nothing. -/
  exit : ∀ guard ∈ s.held, ∀ k,
    (∃ context, (s.exit k guard).2 = .exited context ∧ guard.scope = k ∧
      (s.frames k).head? = some ⟨guard.id, context⟩ ∧ s.LosesOnly guard (s.exit k guard).1) ∨
    ((∀ context, (s.exit k guard).2 ≠ .exited context) ∧ (s.exit k guard).1 = s)
  /-- What remains does not depend on the order in which guards are given up. -/
  order : ∀ first second : List Action, (∀ k, (s.contextHistory first).entered k = []) →
    (∀ k, (s.contextHistory second).entered k = []) →
    (∀ k, ((s.contextHistory first).released k).Perm ((s.contextHistory second).released k)) →
    ∀ k, (s.performAll first).frames k = (s.performAll second).frames k

namespace Records

variable {s s' : Session} {h : ContextHistory}

/-- The frame of a guard that is held, with what lies inside and outside of it. -/
lemma frame_of_held (hr : s.Records h) {guard : Guard} (hg : guard ∈ s.held) :
    ∃ inner frame outer, s.frames guard.scope = inner ++ frame :: outer ∧
      frame.id = guard.id ∧ frame.context.label = guard.label ∧
      (∀ f ∈ inner, f.id ≠ guard.id) ∧ ∀ f ∈ outer, f.id ≠ guard.id := by
  obtain ⟨context, hactive, hlabel⟩ := hr.active_of_held hg
  have hmem : frameOf (guard, context) ∈ s.frames guard.scope := by
    rw [hr.frames, List.mem_reverse]
    exact List.mem_map_of_mem hactive
  obtain ⟨inner, outer, hsplit⟩ := List.append_of_mem hmem
  have hn := hr.hasDistinctFrames guard.scope
  rw [hsplit, List.map_append, List.map_cons, List.nodup_append] at hn
  refine ⟨inner, _, outer, hsplit, rfl, hlabel, fun f hf => ?_, fun f hf heq => ?_⟩
  · exact hn.2.2 f.id (List.mem_map_of_mem hf) guard.id List.mem_cons_self
  · have hid : f.id ∈ outer.map (·.id) := List.mem_map_of_mem hf
    rw [heq] at hid
    exact (List.nodup_cons.mp hn.2.1).1 hid

lemma losesOnly (hr : s.Records h) {guard : Guard}
    (hs : ContextStep s s' (some (.released guard))) : s.LosesOnly guard s' := by
  cases hs with
  | releases _ mem frames next held =>
    obtain ⟨inner, frame, outer, hsplit, hid, hlabel, hinner, houter⟩ := hr.frame_of_held mem
    have hfilter : (inner ++ frame :: outer).filter (fun f => f.id != guard.id) =
        inner ++ outer := by
      rw [List.filter_append, List.filter_cons_of_neg (by simp [hid]),
        List.filter_eq_self.mpr fun f hf => bne_iff_ne.mpr (hinner f hf),
        List.filter_eq_self.mpr fun f hf => bne_iff_ne.mpr (houter f hf)]
    refine ⟨inner, frame, outer, hsplit, hid, hlabel, fun k => ?_, held⟩
    rw [frames]
    by_cases hk : k = guard.scope
    · rw [if_pos hk, if_pos hk, hk, hsplit, hfilter]
    · rw [if_neg hk, if_neg hk]

lemma frames_performAll (hr : s.Records h) (hfew : h.LeavesNumbers)
    {actions : List Action} (hnone : ∀ k, (s.contextHistory actions).entered k = []) (k : Nat) :
    (s.performAll actions).frames k = (((h.entered k).filter fun e =>
      e.1 ∉ h.released k ++ (s.contextHistory actions).released k).map frameOf).reverse := by
  have hentered (k : Nat) :
      ContextHistory.entered (h ++ s.contextHistory actions) k = h.entered k := by
    rw [ContextHistory.entered_append, hnone, List.append_nil]
  have hall := hr.performAll actions fun k => by
    rw [hentered]
    exact hfew k
  rw [hall.frames, ContextHistory.active, hentered, ContextHistory.released_append]

theorem followsHistory (hr : s.Records h) (hfew : h.LeavesNumbers) :
    s.FollowsHistory h where
  stack k scope hscope := by
    rw [← frames_of_scope hscope]
    exact hr.frames k
  distinct k scope hscope := by
    rw [← frames_of_scope hscope]
    exact hr.hasDistinctFrames k
  depth k scope hscope := by
    rw [Scope.depth, ← frames_of_scope hscope, hr.frames, List.length_reverse, List.length_map]
    exact hr.active_add_released k
  current k scope hscope := by
    rw [Scope.current?, ← frames_of_scope hscope, hr.frames, List.head?_reverse,
      List.getLast?_map, Option.map_map]
    rfl
  held guard hg := by
    obtain ⟨inner, frame, outer, hsplit, hid, hlabel, hinner, houter⟩ := hr.frame_of_held hg
    cases hscope : s.scope? guard.scope with
    | none => simp [Session.frames, hscope] at hsplit
    | some scope =>
      rw [frames_of_scope hscope] at hsplit
      refine ⟨scope, frame, rfl, ?_, hlabel⟩
      rw [hsplit, List.filter_append, List.filter_cons_of_pos (by simp [hid]),
        List.filter_eq_nil_iff.mpr fun f hf => by simpa using hinner f hf,
        List.filter_eq_nil_iff.mpr fun f hf => by simpa using houter f hf]
      rfl
  release guard hg unwinding := by
    obtain ⟨inner, frame, outer, hsplit, -⟩ := hr.frame_of_held hg
    cases hscope : s.scope? guard.scope with
    | none => simp [Session.frames, hscope] at hsplit
    | some scope =>
      obtain ⟨hstep, hreply⟩ := release_step hr.hasDistinctFrames hscope hg unwinding
      refine ⟨fun hmissing => ?_, hr.losesOnly hstep⟩
      rw [hmissing] at hreply
      simp at hreply
  exit guard hg k := by
    rcases exit_step hr.hasDistinctFrames k guard with ⟨context, hreply, hk, htop, hstep⟩ | hkept
    · exact .inl ⟨context, hreply, hk, htop, hr.losesOnly hstep⟩
    · exact .inr hkept
  order first second hfirst hsecond hperm k := by
    rw [hr.frames_performAll hfew hfirst, hr.frames_performAll hfew hsecond]
    congr 2
    apply List.filter_congr
    intro e he
    simp only [List.mem_append, (hperm k).mem_iff]

end Records

/-- Whatever is done in a session, its contexts follow their history. -/
theorem contexts_follow_history {s : Session} (hs : s.IsUnused) (actions : List Action)
    (hfew : (s.contextHistory actions).LeavesNumbers) :
    (s.performAll actions).FollowsHistory (s.contextHistory actions) :=
  ((Records.begin hs).performAll actions hfew).followsHistory hfew

/-- Contexts of two scopes, given up across each other; the last guard is forgotten. -/
def crossedActions : List Action :=
  [.openScope .manual none, .openScope .system none, .enter 0 "outer", .enter 1 "other",
    .enter 0 "inner", .exit 0 ⟨0, 0, "outer"⟩, .exit 1 ⟨0, 1, "inner"⟩, .exit 1 ⟨1, 0, "other"⟩,
    .release ⟨0, 0, "outer"⟩, .forget ⟨0, 1, "inner"⟩]

theorem crossed_contexts_follow_history :
    (fresh.performAll crossedActions).FollowsHistory (fresh.contextHistory crossedActions) ∧
      (fresh.performAll crossedActions).frames 0 = [⟨1, ⟨"inner", 0⟩⟩] ∧
      (fresh.performAll crossedActions).frames 1 = [] := by
  refine ⟨contexts_follow_history ⟨by simp [fresh], rfl⟩ crossedActions fun k => ?_,
    by decide, by decide⟩
  exact Nat.lt_of_le_of_lt (ContextHistory.entered_length_le _ k) (by decide)

end Session

end ProcessorHost
