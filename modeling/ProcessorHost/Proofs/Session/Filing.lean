import ProcessorHost.Proofs.Session.ContextHistory

/-!
# Filing of samples

Things happen in a session because somebody acts or because time passes. Each of them files a
sample under one scope, or none: the scope's own list and the sink of the scope get it, and the
samples of the other scopes and what was sent before stay as they are. So what a run files can be
put together from its parts.
-/

namespace ProcessorHost

/-- Something that happens in a session. -/
inductive Occurrence
  | act (action : Action)
  /-- The clocks and the time of day are set to what they are outside. -/
  | pass (clocks : Clocks) (today : Timestamp)

/-- A sample and the scope that it was recorded in. -/
structure Filing where
  scope : Nat
  sample : TimingSample
deriving DecidableEq, Repr

namespace Session

def undergo (s : Session) : Occurrence → Session × Reply
  | .act action => s.perform action
  | .pass clocks today => ({ s with clocks, today }, .done)

def undergoAll (s : Session) : List Occurrence → Session
  | [] => s
  | o :: rest => (s.undergo o).1.undergoAll rest

/-- The samples of a scope; none if there is no such scope. -/
def samplesOf (s : Session) (k : Nat) : List TimingSample :=
  ((s.scope? k).map (·.samples)).getD []

def sinkOf (s : Session) (k : Nat) : Option Nat := (s.scope? k).bind (·.sink)

/-- What the sink of its scope gets of a filing. -/
def delivery? (s : Session) (f : Filing) : Option Delivery :=
  (s.sinkOf f.scope).map fun sink => ⟨sink, f.scope, f.sample⟩

lemma samplesOf_of_scope {s : Session} {k : Nat} {scope : Scope} (h : s.scope? k = some scope) :
    s.samplesOf k = scope.samples := by simp [samplesOf, h]

lemma sinkOf_of_scope {s : Session} {k : Nat} {scope : Scope} (h : s.scope? k = some scope) :
    s.sinkOf k = scope.sink := by simp [sinkOf, h]

lemma lt_of_scope {s : Session} {k : Nat} {scope : Scope} (h : s.scope? k = some scope) :
    k < s.scopes.length := (List.getElem?_eq_some_iff.mp h).1

/-- What is filed on the way from one session to another, in order. -/
structure Files (s : Session) (filings : List Filing) (s' : Session) : Prop where
  samples : ∀ k, s'.samplesOf k =
    s.samplesOf k ++ (filings.filter fun f => f.scope = k).map (·.sample)
  deliveries : s'.deliveries = s.deliveries ++ filings.filterMap s'.delivery?
  known : ∀ f ∈ filings, f.scope < s'.scopes.length
  grows : s.scopes.length ≤ s'.scopes.length
  sinks : ∀ k < s.scopes.length, s'.sinkOf k = s.sinkOf k

variable {s s' s'' : Session} {filings filings' : List Filing}

lemma Files.trans (h : s.Files filings s') (h' : s'.Files filings' s'') :
    s.Files (filings ++ filings') s'' where
  samples k := by
    rw [h'.samples, h.samples, List.filter_append, List.map_append, List.append_assoc]
  deliveries := by
    -- Sinks that are known stay as they are.
    have hsinks : filings.filterMap s''.delivery? = filings.filterMap s'.delivery? :=
      List.filterMap_congr fun f hf => by
        unfold delivery?
        rw [h'.sinks f.scope (h.known f hf)]
    rw [h'.deliveries, h.deliveries, List.filterMap_append, hsinks, List.append_assoc]
  known f hf := by
    rcases List.mem_append.mp hf with hf | hf
    · exact Nat.lt_of_lt_of_le (h.known f hf) h'.grows
    · exact h'.known f hf
  grows := Nat.le_trans h.grows h'.grows
  sinks k hk := by
    rw [h'.sinks k (Nat.lt_of_lt_of_le hk h.grows), h.sinks k hk]

lemma files_of_scopes (hscopes : s'.scopes = s.scopes)
    (hdeliveries : s'.deliveries = s.deliveries) :
    s.Files [] s' where
  samples k := by simp [samplesOf, scope?, hscopes]
  deliveries := by simp [hdeliveries]
  known := by simp
  grows := hscopes ▸ Nat.le_refl _
  sinks k _ := by simp [sinkOf, scope?, hscopes]

lemma Files.refl (s : Session) : s.Files [] s := files_of_scopes rfl rfl

lemma Files.deliveries_eq (h : s.Files [] s') : s'.deliveries = s.deliveries := by
  rw [h.deliveries, List.filterMap_nil, List.append_nil]

lemma Files.samples_eq (h : s.Files [] s') (k : Nat) : s'.samplesOf k = s.samplesOf k := by
  rw [h.samples, List.filter_nil, List.map_nil, List.append_nil]

lemma samplesOf_of_set {id : Nat} {old scope : Scope} (hold : s.scope? id = some old)
    (hset : s'.scopes = s.scopes.set id scope) (k : Nat) :
    s'.samplesOf k = if k = id then scope.samples else s.samplesOf k := by
  unfold samplesOf
  rw [scope?_of_set hold hset]
  by_cases hk : k = id
  · simp [hk]
  · simp [hk]

lemma sinkOf_of_set {id : Nat} {old scope : Scope} (hold : s.scope? id = some old)
    (hset : s'.scopes = s.scopes.set id scope) (hsink : scope.sink = old.sink) (k : Nat) :
    s'.sinkOf k = s.sinkOf k := by
  unfold sinkOf
  rw [scope?_of_set hold hset]
  by_cases hk : k = id
  · simp [hk, hold, hsink]
  · simp [hk]

lemma length_of_set {id : Nat} {scope : Scope} (hset : s'.scopes = s.scopes.set id scope) :
    s'.scopes.length = s.scopes.length := by rw [hset, List.length_set]

lemma files_of_set {id : Nat} {old scope : Scope} (hold : s.scope? id = some old)
    (hset : s'.scopes = s.scopes.set id scope) (hsink : scope.sink = old.sink)
    (hsamples : scope.samples = old.samples) (hdeliveries : s'.deliveries = s.deliveries) :
    s.Files [] s' where
  samples k := by
    rw [samplesOf_of_set hold hset]
    by_cases hk : k = id
    · simp [hk, hsamples, samplesOf_of_scope hold]
    · simp [hk]
  deliveries := by simp [hdeliveries]
  known := by simp
  grows := Nat.le_of_eq (length_of_set hset).symm
  sinks k _ := sinkOf_of_set hold hset hsink k

/-- One sample is added to a scope and sent to its sink. -/
lemma files_one {id : Nat} {old : Scope} (hold : s.scope? id = some old) (sample : TimingSample)
    (hset : s'.scopes = s.scopes.set id { old with samples := old.samples ++ [sample] })
    (hdeliveries : s'.deliveries = s.deliveries ++
      (old.sink.map fun sink => (⟨sink, id, sample⟩ : Delivery)).toList) :
    s.Files [⟨id, sample⟩] s' where
  samples k := by
    rw [samplesOf_of_set hold hset]
    by_cases hk : k = id
    · simp [hk, samplesOf_of_scope hold]
    · simp [hk, Ne.symm hk]
  deliveries := by
    have hdelivery : s'.delivery? ⟨id, sample⟩ =
        old.sink.map fun sink => (⟨sink, id, sample⟩ : Delivery) := by
      unfold delivery?
      dsimp only
      rw [sinkOf_of_set hold hset rfl, sinkOf_of_scope hold]
    rw [hdeliveries, List.filterMap_cons, List.filterMap_nil, hdelivery]
    cases old.sink with
    | none => rfl
    | some sink => rfl
  known f hf := by
    rw [List.mem_singleton.mp hf, length_of_set hset]
    exact lt_of_scope hold
  grows := Nat.le_of_eq (length_of_set hset).symm
  sinks k _ := sinkOf_of_set hold hset rfl k

/-- What is filed when an interval is recorded in a scope: nothing without a context. -/
def recorded (s : Session) (id : Nat) (stopwatch : String) (interval : Span) : Option Filing :=
  ((s.scope? id).bind (·.current?)).map fun context =>
    ⟨id, ⟨⟨context.label, stopwatch⟩, interval, s.today⟩⟩

lemma record_files (s : Session) (id : Nat) (stopwatch : String) (interval : Span) :
    s.Files (s.recorded id stopwatch interval).toList (s.record id stopwatch interval) := by
  unfold record recorded
  split
  · rename_i hscope
    rw [hscope]
    exact Files.refl s
  · rename_i scope hscope
    rw [hscope, Option.bind_some]
    split
    · rename_i hcontext
      rw [hcontext]
      exact Files.refl s
    · rename_i context hcontext
      rw [hcontext]
      dsimp only
      split
      · rename_i hsink
        exact files_one hscope _ rfl (by simp [hsink, setScope])
      · rename_i sink hsink
        exact files_one hscope _ rfl (by simp [hsink, setScope])

lemma openScope_files (s : Session) (clock : ClockSource) (sink : Option Nat) :
    s.Files [] (s.perform (.openScope clock sink)).1 := by
  have hscope (k : Nat) (hk : k < s.scopes.length) :
      (s.perform (.openScope clock sink)).1.scope? k = s.scope? k :=
    List.getElem?_append_left hk
  refine ⟨fun k => ?_, by simp [perform], by simp, by simp [perform], fun k hk => ?_⟩
  · rw [List.filter_nil, List.map_nil, List.append_nil]
    by_cases hk : k < s.scopes.length
    · unfold samplesOf
      rw [hscope k hk]
    · -- A scope has no samples before it is opened, and none right after.
      have hnone : s.scope? k = none := List.getElem?_eq_none (Nat.not_lt.mp hk)
      have hnew : (s.perform (.openScope clock sink)).1.scope? k =
          [Scope.fresh clock sink][k - s.scopes.length]? :=
        List.getElem?_append_right (Nat.not_lt.mp hk)
      unfold samplesOf
      rw [hnone, hnew]
      cases k - s.scopes.length with
      | zero => rfl
      | succ n => rfl
  · unfold sinkOf
    rw [hscope k hk]

lemma enter_files (s : Session) (id : Nat) (label : String) :
    s.Files [] (s.enter id label).1 := by
  unfold enter
  split
  · exact Files.refl s
  · rename_i scope hscope
    exact files_of_set hscope rfl rfl rfl rfl

lemma exit_files (s : Session) (id : Nat) (guard : Guard) : s.Files [] (s.exit id guard).1 := by
  unfold exit
  split
  · exact Files.refl s
  · rename_i scope hscope
    split
    · split
      · split
        · exact files_of_set hscope rfl rfl rfl rfl
        · exact Files.refl s
      · exact Files.refl s
    · exact Files.refl s

lemma remove_keeps (scope : Scope) (id : UInt64) :
    (scope.remove id).sink = scope.sink ∧ (scope.remove id).samples = scope.samples := by
  unfold Scope.remove
  split
  · exact ⟨rfl, rfl⟩
  · exact ⟨rfl, rfl⟩

lemma release_files (s : Session) (guard : Guard) (unwinding : Bool) :
    s.Files [] (s.release guard unwinding).1 := by
  unfold release
  split
  · exact Files.refl s
  · rename_i scope hscope
    obtain ⟨hsink, hsamples⟩ := remove_keeps scope guard.id
    split
    · dsimp only
      split
      · exact files_of_set hscope rfl hsink hsamples rfl
      · exact files_of_set hscope rfl hsink hsamples rfl
    · exact Files.refl s

lemma newWatch_files (s : Session) (label : String) (source : WatchSource) (started : Bool) :
    s.Files [] (s.newWatch label source started).1 := by
  unfold newWatch
  dsimp only
  split
  · exact files_of_scopes rfl rfl
  · split
    · exact Files.refl s
    · exact files_of_scopes rfl rfl

lemma start_files (s : Session) (id : Nat) : s.Files [] (s.start id).1 := by
  unfold start
  split
  · exact Files.refl s
  · split
    · exact files_of_scopes rfl rfl
    · exact Files.refl s

/-- A stop that succeeds files its interval if the stopwatch belongs to a scope. -/
lemma stop_files (s : Session) (id : Nat) :
    (∃ watch interval, s.watch? id = some watch ∧ (s.stop id).2 = .interval interval ∧
      s.Files (watch.scope.bind fun k => s.recorded k watch.label interval).toList (s.stop id).1) ∨
    (∀ interval, (s.stop id).2 ≠ .interval interval) ∧ s.Files [] (s.stop id).1 := by
  unfold stop
  split
  · exact .inr ⟨by simp, Files.refl s⟩
  · rename_i watch hwatch
    split
    · exact .inr ⟨by simp, Files.refl s⟩
    · exact .inr ⟨by simp, files_of_scopes rfl rfl⟩
    · rename_i stopped interval _
      have hset : s.Files [] (s.setWatch id (some stopped)) := files_of_scopes rfl rfl
      dsimp only
      split
      · rename_i hscope
        exact .inl ⟨watch, interval, hwatch, rfl, by rw [hscope]; exact hset⟩
      · rename_i k hscope
        refine .inl ⟨watch, interval, hwatch, rfl, ?_⟩
        rw [hscope, Option.bind_some]
        exact hset.trans (record_files (s.setWatch id (some stopped)) k watch.label interval)

/-- Nothing but a stop files anything. -/
lemma perform_files {action : Action} (h : ∀ id, action ≠ .stop id) (s : Session) :
    s.Files [] (s.perform action).1 := by
  cases action with
  | openScope clock sink => exact openScope_files s clock sink
  | advance amount => exact files_of_scopes rfl rfl
  | enter id label => exact enter_files s id label
  | exit id guard => exact exit_files s id guard
  | release guard => exact release_files s guard false
  | releaseUnwinding guard => exact release_files s guard true
  | forget guard =>
    unfold perform
    dsimp only
    split
    · exact files_of_scopes rfl rfl
    · exact Files.refl s
  | newWatch label source started => exact newWatch_files s label source started
  | start id => exact start_files s id
  | stop id => exact absurd rfl (h id)
  | reset id =>
    unfold perform
    dsimp only
    split
    · exact Files.refl s
    · exact files_of_scopes rfl rfl
  | dropWatch id =>
    unfold perform
    dsimp only
    split
    · exact Files.refl s
    · exact files_of_scopes rfl rfl

/-- Whatever is done, something is filed on the way, or nothing. -/
lemma exists_files (s : Session) (action : Action) :
    ∃ filings, s.Files filings (s.perform action).1 := by
  by_cases h : ∃ id, action = .stop id
  · obtain ⟨id, rfl⟩ := h
    rcases s.stop_files id with ⟨watch, interval, -, -, hfiles⟩ | ⟨-, hfiles⟩
    · exact ⟨_, hfiles⟩
    · exact ⟨_, hfiles⟩
  · exact ⟨[], perform_files (fun id heq => h ⟨id, heq⟩) s⟩

end Session

end ProcessorHost
