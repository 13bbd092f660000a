import Mathlib.Algebra.GroupWithZero.Nat
import Mathlib.Data.List.Induction
import Mathlib.Data.List.Nodup
import Mathlib.Order.Defs.Unbundled
import ProcessorHost.Keyed

/-!
# Tables in order

Putting something under a key keeps the keys of a table in increasing order, each of them once. So
there is one entry for a key at most, and it is the one that is found.
-/

namespace ProcessorHost.Keyed

variable {κ α : Type}

lemma find?_isSome_iff [DecidableEq κ] {key : κ} {entries : List (κ × α)} :
    (find? key entries).isSome ↔ key ∈ entries.map Prod.fst := by
  simp [find?, List.find?_isSome]

/-- What is put in front takes the place of what was under its key. -/
lemma find?_cons_erase [DecidableEq κ] (key k : κ) (value : α) (entries : List (κ × α)) :
    find? k ((key, value) :: erase key entries) =
      if key = k then some value else find? k entries := by
  by_cases hkey : key = k
  · simp [find?, hkey]
  · rw [if_neg hkey, ← find?_erase_of_ne (Ne.symm hkey) entries]
    simp [find?, hkey]

variable [LT κ]

/-- The keys of a table are in increasing order, each of them once. -/
def Increasing (entries : List (κ × α)) : Prop :=
  (entries.map Prod.fst).Pairwise (· < ·)

/-- The first entry has a key that no other entry has. -/
lemma Increasing.not_mem [Std.Irrefl ((· < ·) : κ → κ → Prop)] {entries : List (κ × α)} {key : κ}
    {value : α} (h : Increasing ((key, value) :: entries)) : key ∉ entries.map Prod.fst :=
  fun hmem => Std.Irrefl.irrefl key ((List.pairwise_cons.mp h).1 key hmem)

variable [DecidableEq κ]

lemma find?_eq_some_iff [Std.Irrefl ((· < ·) : κ → κ → Prop)] {entries : List (κ × α)} {key : κ}
    {value : α} (h : Increasing entries) :
    find? key entries = some value ↔ (key, value) ∈ entries := by
  induction entries with
  | nil => simp [find?]
  | cons entry rest ih =>
    obtain ⟨j, v⟩ := entry
    have hrest := (List.pairwise_cons.mp h).2
    by_cases hj : j = key
    · subst hj
      have hnot : (j, value) ∉ rest := fun hmem => h.not_mem (List.mem_map_of_mem hmem)
      simp [find?, hnot, eq_comm]
    · have hfind : find? key ((j, v) :: rest) = find? key rest := by simp [find?, hj]
      rw [hfind, ih hrest, List.mem_cons]
      exact (or_iff_right fun heq => hj (Prod.mk.inj heq).1.symm).symm

variable [DecidableLT κ]

lemma ofList_append_singleton (entries : List (κ × α)) (last : κ × α) :
    ofList (entries ++ [last]) = insert last.1 last.2 (ofList entries) := by
  unfold ofList
  rw [List.foldl_append]
  rfl

/-- If no key is there twice, every entry of a list is found in its table. -/
lemma find?_ofList {entries : List (κ × α)} (hdistinct : (entries.map Prod.fst).Nodup) {key : κ}
    {value : α} (hmem : (key, value) ∈ entries) : find? key (ofList entries) = some value := by
  induction entries using List.reverseRecOn with
  | nil => cases hmem
  | append_singleton rest last ih =>
    rw [List.map_append, List.nodup_append'] at hdistinct
    have hlast : last.1 ∉ rest.map Prod.fst := fun hin =>
      hdistinct.2.2 hin (List.mem_singleton_self last.1)
    rw [ofList_append_singleton]
    rcases List.mem_append.mp hmem with hin | hin
    · have hne : key ≠ last.1 := fun heq => hlast (heq ▸ List.mem_map_of_mem hin)
      rw [find?_insert_of_ne hne, ih hdistinct.1 hin]
    · obtain rfl := List.mem_singleton.mp hin
      exact find?_insert_self ..

lemma mem_of_mem_insert {key : κ} {value : α} {entries : List (κ × α)} {entry : κ × α}
    (h : entry ∈ insert key value entries) : entry = (key, value) ∨ entry ∈ entries := by
  induction entries with
  | nil => exact .inl (List.mem_singleton.mp h)
  | cons first rest ih =>
    unfold insert at h
    split at h
    · exact List.mem_cons.mp h
    · split at h
      · exact (List.mem_cons.mp h).imp_right (List.mem_cons_of_mem _)
      · rcases List.mem_cons.mp h with rfl | h
        · exact .inr List.mem_cons_self
        · exact (ih h).imp_right (List.mem_cons_of_mem _)

lemma mem_keys_insert (key : κ) (value : α) (entries : List (κ × α)) (k : κ) :
    k ∈ (insert key value entries).map Prod.fst ↔ k = key ∨ k ∈ entries.map Prod.fst := by
  induction entries with
  | nil => simp [insert]
  | cons entry rest ih =>
    obtain ⟨j, v⟩ := entry
    unfold insert
    split
    · simp
    · split
      · rename_i heq
        simp [heq]
      · rw [List.map_cons, List.mem_cons, ih, List.map_cons, List.mem_cons]
        exact or_left_comm

lemma Increasing.insert [IsTrans κ (· < ·)] [Std.Trichotomous ((· < ·) : κ → κ → Prop)]
    {entries : List (κ × α)} (h : Increasing entries) (key : κ) (value : α) :
    Increasing (insert key value entries) := by
  induction entries with
  | nil => simp [Increasing, Keyed.insert]
  | cons entry rest ih =>
    obtain ⟨j, v⟩ := entry
    obtain ⟨hfirst, hrest⟩ := List.pairwise_cons.mp h
    unfold Keyed.insert
    split
    · rename_i hlt
      refine List.pairwise_cons.mpr ⟨fun k hk => ?_, h⟩
      rcases List.mem_cons.mp hk with rfl | hk
      · exact hlt
      · exact IsTrans.trans _ _ _ hlt (hfirst k hk)
    · rename_i hle
      split
      · rename_i heq
        subst heq
        exact List.pairwise_cons.mpr ⟨hfirst, hrest⟩
      · rename_i hne
        have hlt : j < key := Decidable.byContradiction fun hnot =>
          hne (Std.Trichotomous.trichotomous key j hle hnot)
        refine List.pairwise_cons.mpr ⟨fun k hk => ?_, ih hrest⟩
        rcases (mem_keys_insert key value rest k).mp hk with rfl | hk
        · exact hlt
        · exact hfirst k hk

/-- What is put under a key behind all others is put at the end. -/
lemma insert_of_forall_lt [Std.Irrefl ((· < ·) : κ → κ → Prop)] [IsTrans κ (· < ·)]
    {entries : List (κ × α)} {key : κ} (h : ∀ k ∈ entries.map Prod.fst, k < key) (value : α) :
    insert key value entries = entries ++ [(key, value)] := by
  induction entries with
  | nil => rfl
  | cons entry rest ih =>
    obtain ⟨k, v⟩ := entry
    obtain ⟨hfirst, hrest⟩ := List.forall_mem_cons.mp h
    have hnot : ¬ key < k := fun hlt => Std.Irrefl.irrefl k (IsTrans.trans _ _ _ hfirst hlt)
    have hne : key ≠ k := by
      rintro rfl
      exact Std.Irrefl.irrefl key hfirst
    rw [insert, if_neg hnot, if_neg hne, ih hrest, List.cons_append]

/-- The table of entries that are in order is the list of them. -/
lemma Increasing.ofList_eq [Std.Irrefl ((· < ·) : κ → κ → Prop)] [IsTrans κ (· < ·)]
    {entries : List (κ × α)} (h : Increasing entries) : ofList entries = entries := by
  induction entries using List.reverseRecOn with
  | nil => rfl
  | append_singleton rest last ih =>
    unfold Increasing at h
    rw [List.map_append, List.pairwise_append] at h
    obtain ⟨hrest, -, hlast⟩ := h
    rw [ofList_append_singleton, ih hrest,
      insert_of_forall_lt fun k hk => hlast k hk last.1 (List.mem_singleton_self last.1)]

/-- What is put under a key takes the place of what was there. -/
lemma sum_insert [Std.Irrefl ((· < ·) : κ → κ → Prop)] [IsTrans κ (· < ·)]
    {entries : List (κ × α)} (h : Increasing entries) (f : α → Nat) (key : κ) (value : α) :
    ((insert key value entries).map fun e => f e.2).sum + ((find? key entries).map f).getD 0 =
      (entries.map fun e => f e.2).sum + f value := by
  induction entries with
  | nil => simp [insert, find?]
  | cons entry rest ih =>
    obtain ⟨j, v⟩ := entry
    obtain ⟨hfirst, hrest⟩ := List.pairwise_cons.mp h
    unfold insert
    split
    · rename_i hlt
      have hnone : find? key ((j, v) :: rest) = none := by
        rw [← Option.not_isSome_iff_eq_none, find?_isSome_iff, List.map_cons, List.mem_cons]
        rintro (rfl | hmem)
        · exact Std.Irrefl.irrefl _ hlt
        · exact Std.Irrefl.irrefl key (IsTrans.trans _ _ _ hlt (hfirst key hmem))
      rw [hnone]
      simp only [List.map_cons, List.sum_cons, Option.map_none, Option.getD_none]
      omega
    · split
      · rename_i heq
        subst heq
        simp only [find?, List.map_cons, List.sum_cons, List.find?_cons, decide_true,
          Option.map_some, Option.getD_some]
        omega
      · rename_i hne
        have hfind : find? key ((j, v) :: rest) = find? key rest := by
          simp [find?, Ne.symm hne]
        have hsum := ih hrest
        rw [hfind]
        simp only [List.map_cons, List.sum_cons] at hsum ⊢
        omega

end ProcessorHost.Keyed
