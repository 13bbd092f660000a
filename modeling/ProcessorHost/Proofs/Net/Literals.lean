import Mathlib.Data.List.TakeWhile
import ProcessorHost.Net.Parse
import ProcessorHost.Proofs.Text.Digits

/-!
# Addresses written and read back

Every address is read from its standard text. A number ends where no digit follows, groups end at
the end of the text or before two colons, and what was left out between the colons is what is
filled in. No text is both that of a version 4 address and that of a version 6 address.
-/

namespace ProcessorHost.Net

section Numbers

variable {base : Nat} {rest : List Char}

/-- A number in front of these characters is over. -/
def StopsNumber (base : Nat) (rest : List Char) : Prop := ∀ c ∈ rest.head?, digit? base c = none

lemma digit?_digitChar {d : Nat} (hbase : base ≤ 16) (hd : d < base) :
    digit? base d.digitChar = some d := by
  have hall : ∀ base < 17, ∀ d < base, digit? base d.digitChar = some d := by decide
  exact hall base (Nat.lt_succ_of_le hbase) d hd

lemma digits_stop (hstops : StopsNumber base rest) (value count : Nat) :
    digits base value count rest = (value, count, rest) := by
  cases rest with
  | nil => rfl
  | cons c rest =>
    unfold digits
    rw [hstops c rfl]

lemma digits_cons {c : Char} {d : Nat} (hc : digit? base c = some d) (value count : Nat)
    (rest : List Char) :
    digits base value count (c :: rest) = digits base (value * base + d) (count + 1) rest := by
  rw [digits, hc]

/-- The digits of a number are taken one by one, whatever follows. -/
lemma digits_toDigits (hbase : 1 < base) (hlimit : base ≤ 16) (n : Nat) :
    ∀ count rest, digits base 0 count (Nat.toDigits base n ++ rest) =
      digits base n (count + (Nat.toDigits base n).length) rest := by
  induction n using Digits.toDigits_induction hbase with
  | one d hd =>
    intro count rest
    rw [List.singleton_append, digits_cons (digit?_digitChar hlimit hd), Nat.zero_mul, Nat.zero_add]
    rfl
  | more n d hn hd ih =>
    intro count rest
    rw [List.append_assoc, List.singleton_append, ih, digits_cons (digit?_digitChar hlimit hd),
      List.length_append, List.length_singleton, Nat.add_assoc]

/-- A number below the limit is read from its digits. -/
lemma number_toDigits (hbase : 1 < base) (hsixteen : base ≤ 16) {n limit : Nat} (hn : n < limit)
    {maxDigits : Option Nat} (hmax : ∀ m ∈ maxDigits, (Nat.toDigits base n).length ≤ m)
    (leadingZeros : Bool) (hstops : StopsNumber base rest) :
    number base limit maxDigits leadingZeros (Nat.toDigits base n ++ rest) = some (n, rest) := by
  have hcount : (Nat.toDigits base n).length ≠ 0 := Nat.ne_of_gt Nat.length_toDigits_pos
  have hplain : 1 < (Nat.toDigits base n).length → ¬ (Nat.toDigits base n).head? = some '0' := by
    intro hlong
    rcases Nat.eq_zero_or_pos n with rfl | hpos
    · rw [Nat.toDigits_zero] at hlong
      cases hlong with
      | step h => cases h
    · exact Digits.head?_toDigits hbase hsixteen n hpos
  unfold number
  rw [digits_toDigits hbase hsixteen, digits_stop hstops, Nat.zero_add]
  cases maxDigits with
  | none => simpa [hcount, hn] using fun _ => hplain
  | some m => simpa [hcount, hn, hmax m rfl] using fun _ => hplain

end Numbers

section Version4

/-- Whatever comes before a colon, or at the end, is over. -/
def ColonOrEnd (rest : List Char) : Prop := ∀ c ∈ rest.head?, c = ':'

lemma ColonOrEnd.stopsNumber {rest : List Char} (h : ColonOrEnd rest) {base : Nat}
    (hbase : base ≤ 16) : StopsNumber base rest := by
  have hcolon : digit? base ':' = if 16 < base then some 16 else none := rfl
  intro c hc
  rw [h c hc, hcolon, if_neg (Nat.not_lt.mpr hbase)]

lemma octet_toString (n : UInt8) {rest : List Char} (hstops : StopsNumber 10 rest) :
    octet ((toString n).toList ++ rest) = some (n, rest) := by
  have htext : (toString n).toList = Nat.toDigits 10 n.toNat := Nat.toList_repr
  have hlength : (Nat.toDigits 10 n.toNat).length ≤ 3 := by
    rw [Nat.length_toDigits_le_iff (by decide) (by decide)]
    exact Nat.lt_trans n.toNat_lt (by decide)
  have hnumber : number 10 256 (some 3) false (Nat.toDigits 10 n.toNat ++ rest) =
      some (n.toNat, rest) :=
    number_toDigits (by decide) (by decide) n.toNat_lt (fun m hm => by cases hm; exact hlength)
      false hstops
  unfold octet
  rw [htext, hnumber]
  exact congrArg (fun b => some (b, rest)) UInt8.ofNat_toNat

lemma toList_text (ip : Ipv4) : ip.text.toList =
    (toString ip.a).toList ++ '.' :: ((toString ip.b).toList ++ '.' :: ((toString ip.c).toList ++
      '.' :: (toString ip.d).toList)) := by
  unfold Ipv4.text
  rw [String.toList_intercalate]
  simp [List.intercalate_cons_cons]

/-- A version 4 address is read from its text, unless the text goes on with a digit. -/
lemma ipv4_text (ip : Ipv4) {rest : List Char} (hstops : StopsNumber 10 rest) :
    ipv4 (ip.text.toList ++ rest) = some (ip, rest) := by
  have hdot (rest : List Char) : StopsNumber 10 ('.' :: rest) := by
    intro c hc
    cases hc
    decide
  rw [toList_text]
  simp only [List.append_assoc, List.cons_append]
  unfold ipv4
  simp only [octet_toString _ (hdot _), octet_toString _ hstops, symbol, Option.bind_eq_bind,
    Option.bind_some, if_true]

/-- There is no dot after the first digits of a group. -/
lemma head?_digits_group {group rest : List Char} (hgroup : '.' ∉ group) (hrest : ColonOrEnd rest) :
    ∀ value count, (digits 10 value count (group ++ rest)).2.2.head? ≠ some '.' := by
  induction group with
  | nil =>
    intro value count
    rw [List.nil_append, digits_stop (hrest.stopsNumber (by decide))]
    intro hdot
    cases hrest '.' hdot
  | cons c group ih =>
    intro value count
    obtain ⟨hc, hgroup⟩ := not_or.mp (mt List.mem_cons.mpr hgroup)
    rw [List.cons_append, digits]
    split
    · exact ih hgroup _ _
    · exact fun hdot => hc (Option.some.inj hdot).symm

lemma symbol_eq_none {c : Char} {s : List Char} (h : s.head? ≠ some c) : symbol c s = none := by
  cases s with
  | nil => rfl
  | cons d rest => exact if_neg fun hd => h (congrArg some hd)

lemma rest_of_octet {s rest : List Char} {n : UInt8} (h : octet s = some (n, rest)) :
    rest = (digits 10 0 0 s).2.2 := by
  unfold octet number at h
  simp only [Option.bind_eq_bind, Option.bind_eq_some_iff] at h
  obtain ⟨⟨m, rest'⟩, hnumber, heq⟩ := h
  split at hnumber
  · cases hnumber
  · cases hnumber
    cases heq
    rfl

/-- Groups of hexadecimal digits are no version 4 address. -/
lemma ipv4_group {group rest : List Char} (hgroup : '.' ∉ group) (hrest : ColonOrEnd rest) :
    ipv4 (group ++ rest) = none := by
  unfold ipv4
  cases hoctet : octet (group ++ rest) with
  | none => rfl
  | some taken =>
    obtain ⟨n, left⟩ := taken
    have hleft := rest_of_octet hoctet
    have hdot : symbol '.' left = none :=
      symbol_eq_none (hleft ▸ head?_digits_group hgroup hrest 0 0)
    simp only [Option.bind_eq_bind, Option.bind_some, hdot, Option.bind_none]

lemma colon_mem_digits {s : List Char} (hs : ':' ∈ s) :
    ∀ value count, ':' ∈ (digits 10 value count s).2.2 := by
  induction s with
  | nil => cases hs
  | cons c s ih =>
    intro value count
    rw [digits]
    split
    · rename_i d hd
      rcases List.mem_cons.mp hs with rfl | hs
      · cases hd
      · exact ih hs _ _
    · exact hs

lemma colon_mem_octet {s rest : List Char} {n : UInt8} (h : octet s = some (n, rest))
    (hs : ':' ∈ s) : ':' ∈ rest :=
  rest_of_octet h ▸ colon_mem_digits hs 0 0

lemma symbol_eq_some {c : Char} {s rest : List Char} (h : symbol c s = some ((), rest)) :
    s = c :: rest := by
  cases s with
  | nil => cases h
  | cons d s =>
    by_cases hd : d = c
    · obtain rfl : s = rest := by simpa [symbol, hd] using h
      rw [hd]
    · simp [symbol, hd] at h

lemma colon_mem_dot {s rest : List Char} (h : symbol '.' s = some ((), rest)) (hs : ':' ∈ s) :
    ':' ∈ rest := by
  rw [symbol_eq_some h] at hs
  exact (List.mem_cons.mp hs).resolve_left (by decide)

/-- A version 4 address has no colon. -/
lemma colon_mem_ipv4 {s rest : List Char} {ip : Ipv4} (h : ipv4 s = some (ip, rest))
    (hs : ':' ∈ s) : ':' ∈ rest := by
  unfold ipv4 at h
  simp only [Option.bind_eq_bind, Option.bind_eq_some_iff] at h
  obtain ⟨⟨a, s₁⟩, ha, ⟨⟨⟩, s₂⟩, hdot, ⟨b, s₃⟩, hb, ⟨⟨⟩, s₄⟩, hdot', ⟨c, s₅⟩, hc, ⟨⟨⟩, s₆⟩,
    hdot'', ⟨d, s₇⟩, hd, heq⟩ := h
  cases heq
  have h₁ := colon_mem_dot hdot (colon_mem_octet ha hs)
  have h₂ := colon_mem_dot hdot' (colon_mem_octet hb h₁)
  exact colon_mem_octet hd (colon_mem_dot hdot'' (colon_mem_octet hc h₂))

end Version4

section Groups

/-- The digits of a group. -/
def groupSigns (g : UInt16) : List Char := Nat.toDigits 16 g.toNat

/-- Groups after another one, each behind its colon. -/
def laterGroups (gs : List UInt16) : List Char := gs.flatMap fun g => ':' :: groupSigns g

lemma groupsText_cons (g : UInt16) (gs : List UInt16) :
    (Ipv6.groupsText (g :: gs)).toList = groupSigns g ++ laterGroups gs := by
  induction gs generalizing g with
  | nil => simp [Ipv6.groupsText, laterGroups, groupSigns]
  | cons g' gs ih =>
    have hcons : (Ipv6.groupsText (g :: g' :: gs)).toList =
        groupSigns g ++ ':' :: (Ipv6.groupsText (g' :: gs)).toList := by
      simp [Ipv6.groupsText, groupSigns]
    rw [hcons, ih]
    rfl

/-- A group begins, unless it is the first one, with a colon. -/
def groupLead (first : Bool) : List Char := if first then [] else [':']

lemma separator_groupLead (first : Bool) (s : List Char) :
    separator first (groupLead first ++ s) = some s := by
  cases first with
  | true => rfl
  | false => rfl

lemma dot_not_mem_groupSigns (g : UInt16) : '.' ∉ groupSigns g := by
  have hall : ∀ d < 16, '.' ≠ d.digitChar := by decide
  intro hdot
  obtain ⟨d, hd, heq⟩ := Digits.exists_of_mem_toDigits (by decide) g.toNat _ hdot
  exact hall d hd heq

/-- A group is read, and then those after it. -/
lemma groups_cons (first : Bool) (limit : Nat) (g : UInt16) {s : List Char} (hs : ColonOrEnd s) :
    groups first (limit + 1) (groupLead first ++ (groupSigns g ++ s)) =
      (g :: (groups false limit s).1, (groups false limit s).2) := by
  have hlength : (Nat.toDigits 16 g.toNat).length ≤ 4 := by
    rw [Nat.length_toDigits_le_iff (by decide) (by decide)]
    exact g.toNat_lt
  have hnumber : number 16 65536 (some 4) true (groupSigns g ++ s) = some (g.toNat, s) :=
    number_toDigits (by decide) (by decide) g.toNat_lt (fun m hm => by cases hm; exact hlength) true
      (hs.stopsNumber (by decide))
  have hembedded : embedded first (groupLead first ++ (groupSigns g ++ s)) = none := by
    unfold embedded
    rw [separator_groupLead]
    simp only [Option.bind_eq_bind, Option.bind_some,
      ipv4_group (dot_not_mem_groupSigns g) hs, Option.bind_none]
  have hg : UInt16.ofNat g.toNat = g := UInt16.ofNat_toNat
  rw [groups, separator_groupLead, Option.bind_some, hnumber, hembedded]
  dsimp only
  rw [hg, ite_self]

/-- No group begins here. -/
def EndsGroups (first : Bool) (s : List Char) : Prop :=
  ∀ t, separator first s = some t → ColonOrEnd t

lemma number_of_colonOrEnd {s : List Char} (hs : ColonOrEnd s) {base limit : Nat}
    (hbase : base ≤ 16) {maxDigits : Option Nat} {leadingZeros : Bool} :
    number base limit maxDigits leadingZeros s = none := by
  unfold number
  rw [digits_stop (hs.stopsNumber hbase)]
  rfl

lemma groups_end {first : Bool} {s : List Char} (hs : EndsGroups first s) (limit : Nat) :
    groups first limit s = ([], false, s) := by
  cases limit with
  | zero => rfl
  | succ limit =>
    rw [groups, embedded]
    cases hsep : separator first s with
    | none => simp
    | some t =>
      have hnumber : number 16 65536 (some 4) true t = none :=
        number_of_colonOrEnd (hs t hsep) (by decide)
      have hipv4 : ipv4 ([] ++ t) = none := ipv4_group List.not_mem_nil (hs t hsep)
      rw [List.nil_append] at hipv4
      simp [hnumber, hipv4]

lemma colonOrEnd_laterGroups (gs : List UInt16) {rest : List Char} (hrest : ColonOrEnd rest) :
    ColonOrEnd (laterGroups gs ++ rest) := by
  cases gs with
  | nil => exact hrest
  | cons g gs => exact fun c hc => (Option.some.inj hc).symm

/-- As many groups as there are room for are read, up to where no group begins. -/
lemma groups_laterGroups (gs : List UInt16) {rest : List Char} (hrest : ColonOrEnd rest)
    (hend : EndsGroups false rest) (limit : Nat) (hlimit : gs.length ≤ limit) :
    groups false limit (laterGroups gs ++ rest) = (gs, false, rest) := by
  induction gs generalizing limit with
  | nil => exact groups_end hend limit
  | cons g gs ih =>
    rw [List.length_cons] at hlimit
    obtain ⟨limit, rfl⟩ : ∃ n, limit = n + 1 := ⟨limit - 1, by omega⟩
    have hcons : laterGroups (g :: gs) ++ rest =
        groupLead false ++ (groupSigns g ++ (laterGroups gs ++ rest)) := by
      simp [laterGroups, groupLead]
    rw [hcons, groups_cons _ _ _ (colonOrEnd_laterGroups gs hrest),
      ih limit (Nat.le_of_succ_le_succ hlimit)]

lemma groups_groupsText (gs : List UInt16) {rest : List Char} (hrest : ColonOrEnd rest)
    (hend : ∀ first, EndsGroups first rest) (limit : Nat) (hlimit : gs.length ≤ limit) :
    groups true limit ((Ipv6.groupsText gs).toList ++ rest) = (gs, false, rest) := by
  cases gs with
  | nil => exact groups_end (hend true) limit
  | cons g gs =>
    rw [List.length_cons] at hlimit
    obtain ⟨limit, rfl⟩ : ∃ n, limit = n + 1 := ⟨limit - 1, by omega⟩
    have hfirst := groups_cons true limit g (colonOrEnd_laterGroups gs hrest)
    rw [groups_laterGroups gs hrest (hend false) limit (Nat.le_of_succ_le_succ hlimit)] at hfirst
    rw [groupsText_cons, List.append_assoc]
    exact hfirst

lemma colonOrEnd_nil : ColonOrEnd [] := nofun

lemma endsGroups_nil (first : Bool) : EndsGroups first [] := by
  intro t ht
  cases first with
  | true =>
    obtain rfl := Option.some.inj ht
    exact colonOrEnd_nil
  | false => cases ht

lemma colonOrEnd_colons (rest : List Char) : ColonOrEnd (':' :: rest) :=
  fun _ hc => (Option.some.inj hc).symm

lemma endsGroups_colons (rest : List Char) (first : Bool) :
    EndsGroups first (':' :: ':' :: rest) := by
  intro t ht
  cases first with
  | true =>
    obtain rfl := Option.some.inj ht
    exact colonOrEnd_colons _
  | false =>
    obtain rfl := Option.some.inj ht
    exact colonOrEnd_colons _

end Groups

section Zeros

/-- From a position on there are so many zeros. -/
def ZerosAt (all : List UInt16) (run : Nat × Nat) : Prop :=
  (all.drop run.1).take run.2 = List.replicate run.2 0

lemma zerosAt_zeroRun (before gs : List UInt16) :
    ZerosAt (before ++ gs) (before.length, Ipv6.zeroRun gs) := by
  unfold ZerosAt Ipv6.zeroRun
  have htake : gs.take (gs.takeWhile (· = 0)).length = gs.takeWhile (· = 0) :=
    (List.prefix_iff_eq_take.mp (List.takeWhile_prefix _)).symm
  rw [List.drop_left, htake, List.eq_replicate_iff]
  refine ⟨rfl, fun g hg => ?_⟩
  have hzero := List.mem_takeWhile_imp hg
  exact of_decide_eq_true hzero

/-- What is found as the longest run of zeros is a run of zeros. -/
lemma zerosAt_longestZeros (before gs : List UInt16) (best : Nat × Nat)
    (hbest : ZerosAt (before ++ gs) best) :
    ZerosAt (before ++ gs) (Ipv6.longestZeros before.length best gs) := by
  -- The run is searched in the groups that are left, but its place counts those before them.
  induction gs generalizing before best with
  | nil => exact hbest
  | cons g gs ih =>
    have hnext := ih (before ++ [g])
      (if best.2 < Ipv6.zeroRun (g :: gs) then (before.length, Ipv6.zeroRun (g :: gs)) else best)
    rw [List.length_append, List.length_singleton, List.append_assoc,
      List.singleton_append] at hnext
    apply hnext
    split
    · exact zerosAt_zeroRun before (g :: gs)
    · exact hbest

/-- Around a run of zeros stands what was before and after it. -/
lemma ZerosAt.eq_append {all : List UInt16} {start length : Nat} (h : ZerosAt all (start, length)) :
    all = all.take start ++ List.replicate length 0 ++ all.drop (start + length) := by
  have hmiddle : all.drop start = List.replicate length 0 ++ all.drop (start + length) := by
    rw [← h, ← List.drop_drop, List.take_append_drop]
  rw [List.append_assoc, ← hmiddle, List.take_append_drop]

end Zeros

section Version6

/-- The two groups of an embedded version 4 address are read from its parts. -/
lemma groups_ofBits (high low : UInt16) :
    let ip := Ipv4.ofBits (high.toNat * 0x10000 + low.toNat)
    UInt16.ofNat (ip.a.toNat * 256 + ip.b.toNat) = high ∧
      UInt16.ofNat (ip.c.toNat * 256 + ip.d.toNat) = low := by
  have hhigh := high.toNat_lt
  have hlow := low.toNat_lt
  simp only [← UInt16.toNat_inj, UInt16.toNat_ofNat', Ipv4.ofBits, UInt8.toNat_ofNat']
  omega

lemma ofGroups?_groups (ip : Ipv6) : Ipv6.ofGroups? ip.groups = some ip := dif_pos ip.length_eq

/-- Two colons stand for the zeros between the groups before and after them. -/
lemma ipv6_colons {head tail : List UInt16} {v4 : Bool} {s t rest : List Char}
    (hhead : groups true 8 s = (head, false, ':' :: ':' :: t)) (hshort : head.length < 8)
    (htail : groups true (7 - head.length) t = (tail, v4, rest)) {ip : Ipv6}
    (hip : ip.groups = head ++ List.replicate (8 - head.length - tail.length) 0 ++ tail) :
    ipv6 s = some (ip, rest) := by
  have hcolon (t : List Char) : symbol ':' (':' :: t) = some ((), t) := rfl
  unfold ipv6
  rw [hhead]
  dsimp only
  rw [dif_neg (Nat.ne_of_lt hshort), if_neg Bool.false_ne_true, hcolon]
  simp only [Option.bind_eq_bind, Option.bind_some, hcolon, htail, ← hip, ofGroups?_groups]

/-- What is left out between two colons is filled in with zeros. -/
lemma ipv6_compressed (ip : Ipv6) {start length : Nat} (hzeros : ZerosAt ip.groups (start, length))
    (hlength : 1 < length) :
    ipv6 ((Ipv6.groupsText (ip.groups.take start)).toList ++
      ':' :: ':' :: (Ipv6.groupsText (ip.groups.drop (start + length))).toList) =
      some (ip, []) := by
  have height := ip.length_eq
  have hsplit := hzeros.eq_append
  have htotal := congrArg List.length hsplit
  simp only [List.length_append, List.length_take, List.length_replicate,
    List.length_drop] at htotal
  have hstart : (ip.groups.take start).length = start := by
    rw [List.length_take]
    omega
  have hafter : (ip.groups.drop (start + length)).length = 8 - start - length := by
    rw [List.length_drop]
    omega
  -- There is room for the groups on both sides, as they are eight without the run.
  have hhead := groups_groupsText (ip.groups.take start) (colonOrEnd_colons _)
    (endsGroups_colons (Ipv6.groupsText (ip.groups.drop (start + length))).toList) 8 (by omega)
  have htail := groups_groupsText (ip.groups.drop (start + length)) colonOrEnd_nil endsGroups_nil
    (7 - (ip.groups.take start).length) (by omega)
  rw [List.append_nil] at htail
  refine ipv6_colons hhead (by omega) htail ?_
  have hfilled : 8 - (ip.groups.take start).length - (ip.groups.drop (start + length)).length =
      length := by omega
  rw [hfilled, ← hsplit]

lemma ipv6_uncompressed (ip : Ipv6) :
    ipv6 (Ipv6.groupsText ip.groups).toList = some (ip, []) := by
  have hall := groups_groupsText ip.groups colonOrEnd_nil endsGroups_nil 8
    (Nat.le_of_eq ip.length_eq)
  rw [List.append_nil] at hall
  unfold ipv6
  rw [hall]
  exact dif_pos ip.length_eq

/-- An embedded version 4 address is read as two groups, the last ones. -/
lemma groups_ipv4 (first : Bool) (limit : Nat) (ip : Ipv4) :
    groups first (limit + 2) (groupLead first ++ ip.text.toList) =
      ([.ofNat (ip.a.toNat * 256 + ip.b.toNat), .ofNat (ip.c.toNat * 256 + ip.d.toNat)], true,
        []) := by
  have hip : ipv4 (ip.text.toList ++ []) = some (ip, []) := ipv4_text ip nofun
  rw [List.append_nil] at hip
  have hembedded : embedded first (groupLead first ++ ip.text.toList) =
      some ([.ofNat (ip.a.toNat * 256 + ip.b.toNat), .ofNat (ip.c.toNat * 256 + ip.d.toNat)],
        []) := by
    unfold embedded
    rw [separator_groupLead]
    simp only [Option.bind_eq_bind, Option.bind_some, hip]
  rw [groups, hembedded]
  exact if_neg (Nat.succ_ne_zero limit)

lemma ipv6_mapped (ip : Ipv6) {v4 : Ipv4} (hmapped : ip.mapped? = some v4) :
    ipv6 ("::ffff:" ++ v4.text).toList = some (ip, []) := by
  unfold Ipv6.mapped? at hmapped
  split at hmapped
  · rename_i high low hgroups
    obtain rfl := Option.some.inj hmapped
    have hsigns : groupSigns 0xffff = ['f', 'f', 'f', 'f'] := by decide
    have htext (t : String) : ("::ffff:" ++ t).toList =
        ':' :: ':' :: (groupSigns 0xffff ++ ':' :: t.toList) := by
      rw [hsigns, String.toList_append]
      rfl
    -- Behind the two colons stand the group `ffff` and an address for the last two groups.
    obtain ⟨hhigh, hlow⟩ := groups_ofBits high low
    generalize Ipv4.ofBits (high.toNat * 0x10000 + low.toNat) = v4 at hhigh hlow ⊢
    have hlast : groups false 6 (':' :: v4.text.toList) = _ := groups_ipv4 false 4 v4
    have htail : groups true 7 (groupSigns 0xffff ++ ':' :: v4.text.toList) = _ :=
      groups_cons true 6 0xffff (colonOrEnd_colons v4.text.toList)
    rw [hlast, hhigh, hlow] at htail
    rw [htext]
    exact ipv6_colons (groups_end (endsGroups_colons _ true) 8) (by decide) htail hgroups
  · cases hmapped

/-- Every version 6 address is read from its text. -/
lemma ipv6_text (ip : Ipv6) : ipv6 ip.text.toList = some (ip, []) := by
  unfold Ipv6.text
  split
  · rename_i v4 hmapped
    exact ipv6_mapped ip hmapped
  · have hzeros := zerosAt_longestZeros [] ip.groups (0, 0) rfl
    dsimp only
    split
    · rename_i hlength
      rw [String.toList_append, String.toList_append, List.append_assoc]
      exact ipv6_compressed ip hzeros hlength
    · exact ipv6_uncompressed ip

end Version6

section Texts

lemma colon_mem_groupsText {gs : List UInt16} (hgs : 1 < gs.length) :
    ':' ∈ (Ipv6.groupsText gs).toList := by
  match gs, hgs with
  | g :: g' :: gs, _ =>
    rw [groupsText_cons, laterGroups, List.flatMap_cons]
    simp

lemma colon_mem_text (ip : Ipv6) : ':' ∈ ip.text.toList := by
  have height := ip.length_eq
  unfold Ipv6.text
  split
  · rw [String.toList_append]
    exact List.mem_append_left _ (by decide)
  · dsimp only
    split
    · rw [String.toList_append, String.toList_append]
      exact List.mem_append_left _ (List.mem_append_right _ (by decide))
    · exact colon_mem_groupsText (by omega)

theorem Ipv4.ofText?_text (ip : Ipv4) : Ipv4.ofText? ip.text = some ip := by
  have hip : ipv4 (ip.text.toList ++ []) = some (ip, []) := ipv4_text ip nofun
  rw [List.append_nil] at hip
  unfold Ipv4.ofText? whole?
  rw [hip]

theorem Ipv6.ofText?_text (ip : Ipv6) : Ipv6.ofText? ip.text = some ip := by
  unfold Ipv6.ofText? whole?
  rw [ipv6_text]

/-- The text of a version 6 address is not read as a version 4 address. -/
lemma Ipv4.ofText?_ipv6_text (ip : Ipv6) : Ipv4.ofText? ip.text = none := by
  unfold Ipv4.ofText? whole?
  split
  · rename_i v4 h
    cases colon_mem_ipv4 h (colon_mem_text ip)
  · rfl

theorem addressesOf_text (lookup : HostLookup) (ip : Ip) :
    addressesOf lookup ip.text = .ok [⟨ip, 0⟩] := by
  unfold addressesOf
  cases ip with
  | v4 ip => simp only [Ip.text, Ipv4.ofText?_text]
  | v6 ip => simp only [Ip.text, Ipv4.ofText?_ipv6_text, Ipv6.ofText?_text]

end Texts

end ProcessorHost.Net
