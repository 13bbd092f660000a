import ProcessorHost.Proofs.Service.Sequence

/-!
# Services by kind

What is found by kind is the service that was registered last of that kind, whatever became of its
name. A name that is taken over by a service of another kind is not taken from the kind: so what is
found by kind is managed exactly if no name of a last service is taken over.
-/

namespace ProcessorHost

namespace Registry

variable {α : Type}

/-- The service that was last registered of a kind. -/
def latestOfKind? (services : List (Hosted α)) (kind : Nat) : Option (Hosted α) :=
  services.reverse.find? fun h => h.kind = kind

/-- A service is started and stopped with the others: it is found under its own name. -/
def Manages (r : Registry α) (h : Hosted α) : Prop := r.getByName? h.name = some h

/-- What is found by kind is managed, and something is found of every kind that is managed. -/
structure FindsManaged (r : Registry α) : Prop where
  managed : ∀ kind h, r.getByKind? kind = some h →
    h.kind = kind ∧ r.Manages h ∧ h ∈ r.inOrder
  found : ∀ name h, r.getByName? name = some h → ∃ h', r.getByKind? h.kind = some h'

/-- Once the last service of a kind is registered, no service of another kind takes its name. -/
def KeepsNames (services : List (Hosted α)) : Prop :=
  ∀ before h after, services = before ++ h :: after →
    (∀ h' ∈ after, h'.kind ≠ h.kind) → ∀ h' ∈ after, h'.name ≠ h.name

variable {r : Registry α} {services : List (Hosted α)} {h : Hosted α} {kind : Nat}

lemma find?_reverse_eq_some_iff {p : Hosted α → Bool} :
    services.reverse.find? p = some h ↔
      p h ∧ ∃ before after, services = before ++ h :: after ∧ ∀ h' ∈ after, ¬ p h' := by
  rw [List.find?_eq_some_iff_append]
  refine and_congr_right fun _ => ⟨?_, ?_⟩
  · rintro ⟨after, before, hsplit, hafter⟩
    refine ⟨before.reverse, after.reverse, ?_, ?_⟩
    · rw [List.reverse_eq_iff] at hsplit
      rw [hsplit, List.reverse_append, List.reverse_cons, List.append_assoc]
      rfl
    · simpa using hafter
  · rintro ⟨before, after, rfl, hafter⟩
    refine ⟨after.reverse, before.reverse, ?_, ?_⟩
    · rw [List.reverse_append, List.reverse_cons, List.append_assoc]
      rfl
    · simpa using hafter

lemma latest?_eq_some_iff {name : String} : latest? services name = some h ↔ h.name = name ∧
    ∃ before after, services = before ++ h :: after ∧ ∀ h' ∈ after, h'.name ≠ name := by
  unfold latest?
  rw [find?_reverse_eq_some_iff]
  simp only [decide_eq_true_eq, ne_eq]

lemma latestOfKind?_eq_some_iff : latestOfKind? services kind = some h ↔ h.kind = kind ∧
    ∃ before after, services = before ++ h :: after ∧ ∀ h' ∈ after, h'.kind ≠ kind := by
  unfold latestOfKind?
  rw [find?_reverse_eq_some_iff]
  simp only [decide_eq_true_eq, ne_eq]

lemma latestOfKind?_append (services : List (Hosted α)) (h : Hosted α) (kind : Nat) :
    latestOfKind? (services ++ [h]) kind =
      if h.kind = kind then some h else latestOfKind? services kind := by
  unfold latestOfKind?
  rw [find?_reverse_append]
  simp only [decide_eq_true_eq]

lemma getByKind?_register (r : Registry α) (h : Hosted α) (kind : Nat) :
    (r.register h).getByKind? kind = if h.kind = kind then some h else r.getByKind? kind :=
  Keyed.find?_cons_erase _ _ _ _

lemma getByKind?_ofRegistrations (services : List (Hosted α)) (kind : Nat) :
    (ofRegistrations services).getByKind? kind = latestOfKind? services kind := by
  induction services using List.reverseRecOn with
  | nil => rfl
  | append_singleton rest h ih =>
    unfold ofRegistrations at ih ⊢
    rw [List.foldl_append, latestOfKind?_append, ← ih]
    exact getByKind?_register _ h kind

lemma isSome_latestOfKind_iff :
    (latestOfKind? services kind).isSome ↔ ∃ h ∈ services, h.kind = kind := by
  simp [latestOfKind?, List.find?_isSome]

/-- The last service of a kind is the last with its name exactly if its name is not taken over. -/
lemma keepsNames_iff : KeepsNames services ↔
    ∀ kind h, latestOfKind? services kind = some h → latest? services h.name = some h := by
  constructor
  · intro hkeeps kind h hlatest
    obtain ⟨rfl, before, after, hsplit, hkinds⟩ := latestOfKind?_eq_some_iff.mp hlatest
    exact latest?_eq_some_iff.mpr
      ⟨rfl, before, after, hsplit, hkeeps before h after hsplit hkinds⟩
  · intro hlast before h after hsplit hkinds h' hmem hname
    have hself := hlast h.kind h
      (latestOfKind?_eq_some_iff.mpr ⟨rfl, before, after, hsplit, hkinds⟩)
    -- The last service with the name comes after the last of the kind, and would be the same.
    have hlater : (after.reverse.find? fun h' => h'.name = h.name).isSome := by
      rw [List.find?_isSome]
      exact ⟨h', List.mem_reverse.mpr hmem, by simpa using hname⟩
    obtain ⟨last, hfind⟩ := Option.isSome_iff_exists.mp hlater
    have hmem' : last ∈ after := List.mem_reverse.mp (List.mem_of_find?_eq_some hfind)
    have hsame : latest? services h.name = some last := by
      unfold latest?
      rw [hsplit, List.reverse_append, List.reverse_cons, List.append_assoc, List.find?_append,
        hfind, Option.some_or]
    obtain rfl : h = last := Option.some.inj (hself.symm.trans hsame)
    exact hkinds h hmem' rfl

lemma Keeps.mem_inOrder (hk : r.Keeps services) (hmanaged : r.Manages h) : h ∈ r.inOrder := by
  have hname : h.name ∈ r.order := by
    rw [hk.mem_order, ← isSome_latest_iff, ← hk.latest, hmanaged]
    rfl
  exact List.mem_filterMap.mpr ⟨h.name, hname, hmanaged⟩

lemma findsManaged_iff (services : List (Hosted α)) :
    (ofRegistrations services).FindsManaged ↔ KeepsNames services := by
  have hk := keeps_ofRegistrations services
  rw [keepsNames_iff]
  constructor
  · intro hfinds kind h hlatest
    rw [← getByKind?_ofRegistrations] at hlatest
    obtain ⟨-, hmanaged, -⟩ := hfinds.managed kind h hlatest
    rwa [← hk.latest]
  · intro hlast
    refine ⟨fun kind h hfound => ?_, fun name h hname => ?_⟩
    · rw [getByKind?_ofRegistrations] at hfound
      have hmanaged : (ofRegistrations services).Manages h :=
        (hk.latest h.name).trans (hlast kind h hfound)
      exact ⟨(latestOfKind?_eq_some_iff.mp hfound).1, hmanaged, hk.mem_inOrder hmanaged⟩
    · rw [hk.latest] at hname
      obtain ⟨-, before, after, rfl, -⟩ := latest?_eq_some_iff.mp hname
      rw [getByKind?_ofRegistrations, ← Option.isSome_iff_exists, isSome_latestOfKind_iff]
      exact ⟨h, List.mem_append_right _ List.mem_cons_self, rfl⟩

/-- What a registry finds by kind after some registrations. -/
structure FoundByKind (r : Registry α) (services : List (Hosted α)) : Prop where
  latest : ∀ kind, r.getByKind? kind = latestOfKind? services kind
  /-- Something is found of every kind that was ever registered, and so of every kind that is
  managed. -/
  present : ∀ kind, (r.getByKind? kind).isSome ↔ ∃ h ∈ services, h.kind = kind
  /-- What is found is managed exactly if no service takes over the name of the last of a kind. -/
  managed_iff : r.FindsManaged ↔ KeepsNames services

/-- The last service of a kind is found, managed or not. -/
theorem kinds_looked_up (services : List (Hosted α)) :
    (ofRegistrations services).FoundByKind services where
  latest := getByKind?_ofRegistrations services
  present kind := by rw [getByKind?_ofRegistrations, isSome_latestOfKind_iff]
  managed_iff := findsManaged_iff services

/-- Two services of one kind, and one of another kind that takes over the name of the second. -/
def takenOver : List (Hosted String) := [⟨"a", 0, "x"⟩, ⟨"b", 0, "y"⟩, ⟨"b", 1, "z"⟩]

/-- By kind a service is found that is not managed any more, though another of its kind is. -/
theorem not_findsManaged_takenOver : ¬ (ofRegistrations takenOver).FindsManaged := by
  intro hfinds
  obtain ⟨-, hmanaged, -⟩ := hfinds.managed 0 ⟨"b", 0, "y"⟩ rfl
  have hother : (ofRegistrations takenOver).getByName? "b" = some ⟨"b", 1, "z"⟩ := rfl
  cases hmanaged.symm.trans hother

end Registry

end ProcessorHost
