import ProcessorHost.Proofs.Session.Chronicle

/-!
# Exits

An exit is asked of a scope and given a guard. It succeeds exactly if the guard belongs to that
scope and its context is the innermost one there, and it returns that context as it was entered.
Otherwise it is refused and nothing changes, so that the guard is as good as before: when all
contexts that were entered after its own have been released, its exit succeeds.
-/

namespace ProcessorHost

/-- The contexts that were entered on the scope of a guard after its own have been released. -/
def ContextHistory.HasReleasedInner (h : ContextHistory) (guard : Guard) : Prop :=
  ∃ outer context inner, h.entered guard.scope = outer ++ (guard, context) :: inner ∧
    ∀ e ∈ inner, e.1 ∈ h.released guard.scope

namespace Session

variable {s : Session} {h : ContextHistory} {guard : Guard} {k : Nat}

/-- What exits do after a run that left a session and a history of contexts. The history tells the
contexts of one number apart while no scope has handed out every number. -/
structure AnswersExits (os : List Occurrence) (s : Session) (h : ContextHistory) : Prop where
  /-- An exit succeeds exactly if it is asked of the scope of its guard and the innermost frame
  there is that of the guard. -/
  succeeds : ∀ guard ∈ s.held, ∀ k scope, s.scope? k = some scope →
    ((∃ context, (s.exit k guard).2 = .exited context) ↔
      guard.scope = k ∧ scope.frames.head?.map (·.id) = some guard.id)
  /-- Any other exit is refused: the error names the guard and the innermost context of the scope
  that was asked, and the session stays as it is. -/
  refuses : ∀ guard ∈ s.held, ∀ k scope, s.scope? k = some scope →
    (∀ context, (s.exit k guard).2 ≠ .exited context) →
      s.exit k guard = (s, .refused (.outOfOrderExit guard.label
        ((scope.frames.head?.map (·.context.label)).getD "")))
  /-- The innermost frame is that of the guard exactly if, of the contexts entered on its scope and
  not released, its own is the latest. -/
  innermost : h.LeavesNumbers → ∀ guard ∈ s.held, ∀ k context,
    (s.exit k guard).2 = .exited context ↔
      guard.scope = k ∧ (h.active k).getLast? = some (guard, context)
  /-- What is returned is the context that the guard was handed out for. -/
  original : h.LeavesNumbers → ∀ guard ∈ s.held, ∀ k context,
    (s.exit k guard).2 = .exited context → fresh.HandsOut os guard context
  /-- A guard that was handed back can be exited later. -/
  resumes : ∀ guard ∈ s.held, ∀ k error, (s.exit k guard).2 = .refused error → ∀ rest,
    ContextHistory.LeavesNumbers (h ++ (s.exit k guard).1.chronicle rest) →
    ContextHistory.HasReleasedInner (h ++ (s.exit k guard).1.chronicle rest) guard →
    guard ∈ ((s.exit k guard).1.undergoAll rest).held →
      ∃ context, fresh.HandsOut os guard context ∧
        (((s.exit k guard).1.undergoAll rest).exit guard.scope guard).2 = .exited context

/-- An exit of a guard that is held returns the innermost context, or it is refused. -/
lemma exit_cases {scope : Scope} (hscope : s.scope? k = some scope) (hheld : guard ∈ s.held) :
    (∃ top, scope.frames.head? = some top ∧ guard.scope = k ∧ top.id = guard.id ∧
      (s.exit k guard).2 = .exited top.context) ∨
    (¬(guard.scope = k ∧ scope.frames.head?.map (·.id) = some guard.id) ∧
      s.exit k guard = (s, .refused (.outOfOrderExit guard.label
        ((scope.frames.head?.map (·.context.label)).getD "")))) := by
  unfold exit
  rw [hscope]
  dsimp only
  rw [if_pos hheld]
  cases hframes : scope.frames with
  | nil => exact .inr ⟨by simp, by simp [Scope.activeLabel, Scope.current?, hframes]⟩
  | cons top rest =>
    dsimp only
    split
    · rename_i htop
      exact .inl ⟨top, rfl, htop.1, htop.2, rfl⟩
    · rename_i htop
      exact .inr ⟨by simpa using htop, by simp [Scope.activeLabel, Scope.current?, hframes]⟩

lemma scope_of_exit {context : Context} (hexit : (s.exit k guard).2 = .exited context) :
    ∃ scope, s.scope? k = some scope := by
  cases hscope : s.scope? k with
  | some scope => exact ⟨scope, rfl⟩
  | none =>
    unfold exit at hexit
    rw [hscope] at hexit
    cases hexit

namespace Records

lemma scope_of_held (hr : s.Records h) (hheld : guard ∈ s.held) :
    ∃ scope, s.scope? guard.scope = some scope := by
  obtain ⟨inner, frame, outer, hsplit, -⟩ := hr.frame_of_held hheld
  cases hscope : s.scope? guard.scope with
  | some scope => exact ⟨scope, rfl⟩
  | none =>
    unfold Session.frames at hsplit
    rw [hscope] at hsplit
    simp at hsplit

lemma head?_frames (hr : s.Records h) {scope : Scope} (hscope : s.scope? k = some scope) :
    scope.frames.head? = (h.active k).getLast?.map frameOf := by
  rw [← frames_of_scope hscope, hr.frames, List.head?_reverse, List.getLast?_map]

/-- The innermost frame has the number of a guard that is held only if it is the guard's own. -/
lemma exited_iff (hr : s.Records h) (hheld : guard ∈ s.held) (k : Nat) (context : Context) :
    (s.exit k guard).2 = .exited context ↔
      guard.scope = k ∧ (h.active k).getLast? = some (guard, context) := by
  constructor
  · intro hexit
    obtain ⟨scope, hscope⟩ := scope_of_exit hexit
    rcases exit_cases hscope hheld with ⟨top, hhead, rfl, hid, hreply⟩ | ⟨-, hrefused⟩
    · obtain rfl := Reply.exited.inj (hexit.symm.trans hreply)
      rw [hr.head?_frames hscope] at hhead
      obtain ⟨e, hlast, rfl⟩ := Option.map_eq_some_iff.mp hhead
      obtain ⟨own, hown, -⟩ := hr.active_of_held hheld
      have hsame : e = (guard, own) := hr.eq_of_id
        (mem_entered_of_active (List.mem_of_getLast? hlast)) (mem_entered_of_active hown) hid
      refine ⟨rfl, ?_⟩
      rw [hlast, hsame]
      rfl
    · rw [hrefused] at hexit
      cases hexit
  · rintro ⟨rfl, hlast⟩
    obtain ⟨scope, hscope⟩ := hr.scope_of_held hheld
    have hhead := hr.head?_frames hscope
    rw [hlast, Option.map_some] at hhead
    rcases exit_cases hscope hheld with ⟨top, htop, -, -, hreply⟩ | ⟨hnot, -⟩
    · obtain rfl := Option.some.inj (hhead.symm.trans htop)
      exact hreply
    · exact absurd ⟨rfl, by rw [hhead]; rfl⟩ hnot

/-- When what was entered after it has been released, the context of a guard is innermost. -/
lemma last_of_released (hr : s.Records h) (hheld : guard ∈ s.held)
    (hinner : h.HasReleasedInner guard) {context : Context}
    (hmem : (guard, context) ∈ h.entered guard.scope) :
    (h.active guard.scope).getLast? = some (guard, context) := by
  obtain ⟨outer, entered, inner, hsplit, hreleased⟩ := hinner
  have hentered : (guard, entered) ∈ h.entered guard.scope := by
    rw [hsplit]
    exact List.mem_append_right _ List.mem_cons_self
  obtain rfl : entered = context := congrArg Prod.snd (hr.eq_of_id hentered hmem rfl)
  obtain ⟨own, hown, -⟩ := hr.active_of_held hheld
  have hkept : guard ∉ h.released guard.scope := of_decide_eq_true (List.mem_filter.mp hown).2
  have hgone : inner.filter (fun e => e.1 ∉ h.released guard.scope) = [] := by
    rw [List.filter_eq_nil_iff]
    intro e he
    simpa using hreleased e he
  unfold ContextHistory.active
  rw [hsplit, List.filter_append, List.filter_cons_of_pos (by simpa using hkept), hgone,
    List.getLast?_append, List.getLast?_singleton, Option.some_or]

end Records

/-- Whatever has happened, exits succeed for the innermost context and are refused otherwise, and
a refused exit changes nothing. -/
theorem refused_exits_change_nothing (os : List Occurrence) :
    AnswersExits os (fresh.undergoAll os) (fresh.chronicle os) where
  succeeds guard hheld k scope hscope := by
    rcases exit_cases hscope hheld with ⟨top, hhead, hk, hid, hreply⟩ | ⟨hnot, hrefused⟩
    · rw [hhead, hreply]
      exact iff_of_true ⟨top.context, rfl⟩ ⟨hk, congrArg some hid⟩
    · rw [hrefused]
      exact iff_of_false (fun ⟨_, hexited⟩ => nomatch hexited) hnot
  refuses guard hheld k scope hscope hnone := by
    rcases exit_cases hscope hheld with ⟨top, -, -, -, hreply⟩ | ⟨-, hrefused⟩
    · exact absurd hreply (hnone top.context)
    · exact hrefused
  innermost hfew guard hheld k context := (records_run hfew).exited_iff hheld k context
  original hfew guard hheld k context hexit := by
    obtain ⟨-, hlast⟩ := ((records_run hfew).exited_iff hheld k context).mp hexit
    exact handsOut_of_entered (Records.mem_entered_of_active (List.mem_of_getLast? hlast))
  resumes guard hheld k error hrefused rest hfew hinner hkept := by
    have hr : (fresh.undergoAll os).Records (fresh.chronicle os) := records_run hfew.of_append
    have hsame : ((fresh.undergoAll os).exit k guard).1 = fresh.undergoAll os := by
      rcases exit_step hr.hasDistinctFrames k guard with ⟨context, hexited, -⟩ | ⟨-, hs⟩
      · rw [hexited] at hrefused
        cases hrefused
      · exact hs
    rw [hsame] at hfew hinner hkept ⊢
    have hlater := hr.undergoAll rest hfew
    obtain ⟨context, hactive, -⟩ := hr.active_of_held hheld
    have hentered := Records.mem_entered_of_active hactive
    have hknown : (guard, context) ∈ ContextHistory.entered
        (fresh.chronicle os ++ (fresh.undergoAll os).chronicle rest) guard.scope := by
      rw [ContextHistory.entered_append]
      exact List.mem_append_left _ hentered
    exact ⟨context, handsOut_of_entered hentered, (hlater.exited_iff hkept _ _).mpr
      ⟨rfl, hlater.last_of_released hkept hinner hknown⟩⟩

/-- The outer of two contexts is refused at first and then comes out as it was entered. -/
example :
    let s := fresh.undergoAll [.act (.openScope .manual none), .act (.advance ⟨3, by decide⟩),
      .act (.enter 0 "outer"), .act (.enter 0 "inner")]
    (s.exit 0 ⟨0, 0, "outer"⟩).2 = .refused (.outOfOrderExit "outer" "inner") ∧
      ((s.undergoAll [.act (.exit 0 ⟨0, 0, "outer"⟩), .act (.exit 0 ⟨0, 1, "inner"⟩)]).exit 0
        ⟨0, 0, "outer"⟩).2 = .exited ⟨"outer", ⟨3, by decide⟩⟩ := by decide

end Session

end ProcessorHost
