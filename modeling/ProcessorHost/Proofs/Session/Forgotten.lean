import ProcessorHost.Proofs.Session.Chronicle

/-!
# A context whose guard nobody holds

Only a guard that is held can be exited or released. So if the first context of a scope was not
given up and nobody holds its guard, then it stays where it is, at the bottom of the stack, whatever
happens in the session. Somebody who kept the guard can still release it: this is a panic if other
contexts are left, and takes away no other.
-/

namespace ProcessorHost

namespace Session

variable {s s' : Session} {h : ContextHistory} {e : Guard × Context}

/-- The first context of a scope was not given up, and nobody holds its guard. -/
structure Forgets (s : Session) (h : ContextHistory) (e : Guard × Context) : Prop where
  records : s.Records h
  first : ∃ rest, h.entered e.1.scope = e :: rest
  unreleased : e.1 ∉ h.released e.1.scope
  unheld : e.1 ∉ s.held

namespace Forgets

lemma mem_entered (hf : s.Forgets h e) : e ∈ h.entered e.1.scope := by
  obtain ⟨rest, hfirst⟩ := hf.first
  rw [hfirst]
  exact List.mem_cons_self

lemma of_step (hf : s.Forgets h e) {event : Option ContextEvent} (hs : ContextStep s s' event)
    (hr : s'.Records (h ++ event.toList)) : s'.Forgets (h ++ event.toList) e := by
  obtain ⟨rest, hfirst⟩ := hf.first
  refine ⟨hr, ?_, ?_, ?_⟩
  · rw [ContextHistory.entered_append, hfirst]
    exact ⟨_, List.cons_append⟩
  · rw [ContextHistory.released_append, List.mem_append, not_or]
    refine ⟨hf.unreleased, fun hmem => ?_⟩
    cases hs with
    | keeps frames next held => cases hmem
    | enters guard context number label frames next held => cases hmem
    | releases guard mem frames next held =>
      -- What is released was held.
      have hguard : e.1 = guard := by
        by_cases hscope : guard.scope = e.1.scope
        · simpa [ContextHistory.released, hscope] using hmem
        · simp [ContextHistory.released, hscope] at hmem
      exact hf.unheld (hguard ▸ mem)
  · intro hmem
    cases hs with
    | keeps frames next held => exact hf.unheld (held.subset hmem)
    | enters guard context number label frames next held =>
      rw [held, List.mem_cons] at hmem
      rcases hmem with rfl | hmem
      · exact hf.records.ne_of_next number e hf.mem_entered rfl
      · exact hf.unheld hmem
    | releases guard mem frames next held =>
      rw [held] at hmem
      exact hf.unheld (List.mem_of_mem_erase hmem)

lemma undergo (hf : s.Forgets h e) (o : Occurrence)
    (hfew : ContextHistory.LeavesNumbers (h ++ (s.occurrenceEvent? o).toList)) :
    (s.undergo o).1.Forgets (h ++ (s.occurrenceEvent? o).toList) e := by
  refine hf.of_step ?_ (hf.records.undergo o hfew)
  cases o with
  | act action => exact perform_step hf.records.hasDistinctFrames action
  | pass clocks today => exact keeps_of_scopes rfl (List.Sublist.refl _)

/-- It stays forgotten. -/
theorem undergoAll (hf : s.Forgets h e) (os : List Occurrence)
    (hfew : ContextHistory.LeavesNumbers (h ++ s.chronicle os)) :
    (s.undergoAll os).Forgets (h ++ s.chronicle os) e := by
  induction os generalizing s h with
  | nil => simpa [Session.undergoAll, chronicle] using hf
  | cons o rest ih =>
    simp only [chronicle, ← List.append_assoc] at hfew ⊢
    exact ih (hf.undergo o hfew.of_append) hfew

/-- Its frame is at the bottom of the stack, and no other has its number. -/
lemma frames (hf : s.Forgets h e) : ∃ inner, s.frames e.1.scope = inner ++ [frameOf e] ∧
    ∀ f ∈ inner, f.id ≠ e.1.id := by
  obtain ⟨rest, hfirst⟩ := hf.first
  have hsplit := hf.records.frames e.1.scope
  unfold ContextHistory.active at hsplit
  rw [hfirst, List.filter_cons_of_pos (by simpa using hf.unreleased), List.map_cons,
    List.reverse_cons] at hsplit
  refine ⟨_, hsplit, fun f hmem hid => ?_⟩
  have hdistinct := hf.records.hasDistinctFrames e.1.scope
  rw [hsplit, List.map_append, List.nodup_append] at hdistinct
  exact hdistinct.2.2 f.id (List.mem_map_of_mem hmem) e.1.id (List.mem_singleton_self _) hid

/-- What becomes of the stack when somebody who kept the guard releases it. -/
lemma release (hf : s.Forgets h e) {inner : List Frame}
    (hinner : s.frames e.1.scope = inner ++ [frameOf e]) :
    (({ s with held := [e.1] } : Session).release e.1 false).1.frames e.1.scope = inner ∧
    (({ s with held := [e.1] } : Session).release e.1 false).2 =
      inner.head?.elim .done fun top => .panicked (releaseText e.1.label top.context.label) := by
  have hids : ∀ f ∈ inner, f.id ≠ e.1.id := by
    obtain ⟨inner', hinner', hids⟩ := hf.frames
    rw [hinner, List.append_cancel_right_eq] at hinner'
    exact hinner' ▸ hids
  obtain ⟨scope, hscope⟩ : ∃ scope, s.scope? e.1.scope = some scope := by
    cases hscope : s.scope? e.1.scope with
    | some scope => exact ⟨scope, rfl⟩
    | none => simp [Session.frames, hscope] at hinner
  have hframes : scope.frames = inner ++ [frameOf e] := (frames_of_scope hscope).symm.trans hinner
  have hkept : ({ s with held := [e.1] } : Session).scope? e.1.scope = some scope := hscope
  obtain ⟨hstep, -⟩ := release_step (s := { s with held := [e.1] }) hf.records.hasDistinctFrames
    hkept List.mem_cons_self false
  refine ⟨?_, ?_⟩
  · cases hstep with
    | releases guard mem frames next held =>
      rw [frames, if_pos rfl]
      change (s.frames e.1.scope).filter _ = inner
      rw [hinner, List.filter_append, List.filter_cons_of_neg (by simp [frameOf]), List.filter_nil,
        List.append_nil, List.filter_eq_self]
      intro f hf
      simpa using hids f hf
  · unfold Session.release
    rw [hkept]
    dsimp only
    rw [if_pos List.mem_cons_self]
    cases inner with
    | nil =>
      have htop : scope.isInnermost e.1.id := by simp [Scope.isInnermost, hframes, frameOf]
      rw [htop]
      rfl
    | cons top rest =>
      have htop : scope.isInnermost e.1.id = false := by
        simpa [Scope.isInnermost, hframes] using hids top List.mem_cons_self
      rw [htop]
      simp [Scope.activeLabel, Scope.current?, hframes]

end Forgets

end Session

end ProcessorHost
