import ProcessorHost.Proofs.Session.ContextStack
import ProcessorHost.Proofs.Session.Filing

/-!
# Runs and their contexts

A run is what happens in a session, in order: what is done in it, and how time passes outside of
it. Time changes no context, so that the stacks after a run follow the history of what was done. A
context of this history has the label that it was entered under and the reading of the clock of
its scope at that moment.
-/

namespace ProcessorHost

namespace ContextHistory

lemma LeavesNumbers.of_length {h : ContextHistory} (hfew : h.length < UInt64.size) :
    h.LeavesNumbers := fun k => Nat.lt_of_le_of_lt (entered_length_le h k) hfew

lemma LeavesNumbers.of_append {h h' : ContextHistory} (hfew : LeavesNumbers (h ++ h')) :
    h.LeavesNumbers := by
  intro k
  have hk := hfew k
  rw [entered_append, List.length_append] at hk
  omega

end ContextHistory

namespace Session

variable {s : Session} {h : ContextHistory} {os : List Occurrence}

/-- What an occurrence does to the contexts. -/
def occurrenceEvent? (s : Session) : Occurrence → Option ContextEvent
  | .act action => s.contextEvent? action
  | .pass _ _ => none

/-- The history of the contexts in a run. -/
def chronicle (s : Session) : List Occurrence → ContextHistory
  | [] => []
  | o :: rest => (s.occurrenceEvent? o).toList ++ (s.undergo o).1.chronicle rest

lemma undergoAll_append (s : Session) (os os' : List Occurrence) :
    s.undergoAll (os ++ os') = (s.undergoAll os).undergoAll os' := by
  induction os generalizing s with
  | nil => rfl
  | cons o rest ih => exact ih _

lemma Records.undergo (hr : s.Records h) (o : Occurrence)
    (hfew : ContextHistory.LeavesNumbers (h ++ (s.occurrenceEvent? o).toList)) :
    (s.undergo o).1.Records (h ++ (s.occurrenceEvent? o).toList) := by
  cases o with
  | act action => exact hr.perform action hfew
  | pass clocks today =>
    rw [occurrenceEvent?, Option.toList_none, List.append_nil]
    exact hr.keeps (keeps_of_scopes rfl (List.Sublist.refl _))

/-- What a run leaves, as long as numbers are left. -/
theorem Records.undergoAll (hr : s.Records h) (os : List Occurrence)
    (hfew : ContextHistory.LeavesNumbers (h ++ s.chronicle os)) :
    (s.undergoAll os).Records (h ++ s.chronicle os) := by
  induction os generalizing s h with
  | nil => simpa [Session.undergoAll, chronicle] using hr
  | cons o rest ih =>
    simp only [chronicle, ← List.append_assoc] at hfew ⊢
    exact ih (hr.undergo o hfew.of_append) hfew

lemma fresh_isUnused : fresh.IsUnused := ⟨by simp [fresh], rfl⟩

lemma records_run (hfew : (fresh.chronicle os).LeavesNumbers) :
    (fresh.undergoAll os).Records (fresh.chronicle os) :=
  (Records.begin fresh_isUnused).undergoAll os hfew

/-- At some moment of a run a guard is handed out for a context, which has the label that is
entered and the reading of that moment. -/
def HandsOut (s : Session) (os : List Occurrence) (guard : Guard) (context : Context) : Prop :=
  ∃ before after scope, os = before ++ .act (.enter guard.scope context.label) :: after ∧
    (s.undergoAll before).scope? guard.scope = some scope ∧
    ((s.undergoAll before).enter guard.scope context.label).2 = .entered guard ∧
    context.enteredAt = (s.undergoAll before).clocks.read scope.clock

lemma enter_of_event {action : Action} {guard : Guard} {context : Context}
    (h : s.contextEvent? action = some (.entered guard context)) :
    ∃ scope, action = .enter guard.scope context.label ∧ s.scope? guard.scope = some scope ∧
      (s.enter guard.scope context.label).2 = .entered guard ∧
      context.enteredAt = s.clocks.read scope.clock := by
  unfold contextEvent? at h
  split at h
  · rename_i id label handed hreply
    obtain ⟨scope, hscope, heq⟩ := Option.map_eq_some_iff.mp h
    obtain ⟨rfl, rfl⟩ := ContextEvent.entered.inj heq
    have hid : handed.scope = id := by
      change (s.enter id label).2 = .entered handed at hreply
      unfold enter at hreply
      rw [hscope] at hreply
      rw [← Reply.entered.inj hreply]
    subst hid
    exact ⟨scope, rfl, hscope, hreply, rfl⟩
  all_goals cases h

/-- The history knows a context as it was entered. -/
lemma handsOut_of_entered {k : Nat} {guard : Guard} {context : Context}
    (hmem : (guard, context) ∈ (s.chronicle os).entered k) : s.HandsOut os guard context := by
  induction os generalizing s with
  | nil => cases hmem
  | cons o rest ih =>
    rw [chronicle, ContextHistory.entered_append, List.mem_append] at hmem
    rcases hmem with hnow | hlater
    · obtain ⟨event, hevent, hsome⟩ := List.mem_filterMap.mp hnow
      rw [Option.mem_toList] at hevent
      cases event with
      | released given => cases hsome
      | entered handed entry =>
        dsimp only at hsome
        split at hsome
        · obtain ⟨rfl, rfl⟩ := Prod.mk.inj (Option.some.inj hsome)
          cases o with
          | pass clocks today => cases hevent
          | act action =>
            obtain ⟨scope, rfl, hscope, hreply, htime⟩ := enter_of_event hevent
            exact ⟨[], rest, scope, rfl, hscope, hreply, htime⟩
        · cases hsome
    · obtain ⟨before, after, scope, rfl, hscope, hreply, htime⟩ := ih hlater
      exact ⟨o :: before, after, scope, rfl, hscope, hreply, htime⟩

lemma entered_event {action : Action} (h : ∀ id label, action ≠ .enter id label) (k : Nat) :
    ContextHistory.entered (s.contextEvent? action).toList k = [] := by
  cases hevent : s.contextEvent? action with
  | none => rfl
  | some event =>
    cases event with
    | released guard => rfl
    | entered guard context =>
      obtain ⟨scope, haction, -⟩ := enter_of_event hevent
      exact absurd haction (h _ _)

/-- Guards are released by a run in which nothing is entered. -/
lemma exists_releases (s : Session) (panic : Option String) (guards : List Guard) :
    ∃ os, (s.releaseAll panic guards).1 = s.undergoAll os ∧
      ∀ k, (s.chronicle os).entered k = [] := by
  induction guards generalizing s panic with
  | nil => exact ⟨[], rfl, fun _ => rfl⟩
  | cons guard rest ih =>
    obtain ⟨action, hperform, hnone⟩ : ∃ action, s.perform action = s.release guard panic.isSome ∧
        ∀ id label, action ≠ .enter id label := by
      cases panic.isSome with
      | true => exact ⟨.releaseUnwinding guard, rfl, nofun⟩
      | false => exact ⟨.release guard, rfl, nofun⟩
    rcases hrelease : s.release guard panic.isSome with ⟨after, reply⟩
    obtain ⟨panic', hall⟩ : ∃ panic', s.releaseAll panic (guard :: rest) =
        after.releaseAll panic' rest := by
      rw [releaseAll, hrelease]
      cases reply with
      | panicked message => exact ⟨some message, rfl⟩
      | _ => exact ⟨panic, rfl⟩
    obtain ⟨os, hrest, hentered⟩ := ih after panic'
    have hafter : (s.undergo (.act action)).1 = after := by
      change (s.perform action).1 = after
      rw [hperform, hrelease]
    refine ⟨.act action :: os, ?_, fun k => ?_⟩
    · rw [hall, undergoAll, hafter]
      exact hrest
    · have hevent : s.occurrenceEvent? (.act action) = s.contextEvent? action := rfl
      rw [chronicle, ContextHistory.entered_append, hevent, entered_event hnone, hafter,
        List.nil_append]
      exact hentered k

end Session

end ProcessorHost
