import Mathlib.Data.String.Basic
import ProcessorHost.Proofs.Json.Dictionaries
import ProcessorHost.Proofs.Json.Integers

/-!
# Values written and read back

Containers of a value that is read are not nested deeper than there was room for, its integers have
at most 64 bits, and the members of its objects are in the order of their names. Every such value
is read back from its written form, if there is no binary number in it.
-/

namespace ProcessorHost.Json

namespace Value

/-- A value can have been read with so much room for containers. -/
inductive Readable : Nat → Value → Prop
  | null {room : Nat} : Readable room .null
  | bool {room : Nat} (b : Bool) : Readable room (.bool b)
  | number {room : Nat} {n : Number} (hn : n.Fits) : Readable room (.number n)
  | text {room : Nat} (s : String) : Readable room (.text s)
  | array {room : Nat} {items : List Value} (hitems : ∀ item ∈ items, Readable room item) :
      Readable (room + 1) (.array items)
  | object {room : Nat} {members : Members} (hkeys : Keyed.Increasing members)
      (hvalues : ∀ member ∈ members, Readable room member.2) :
      Readable (room + 1) (.object members)

/-- There is no binary number in a value. -/
inductive Exact : Value → Prop
  | null : Exact .null
  | bool (b : Bool) : Exact (.bool b)
  | integer (n : Int) : Exact (.number (.integer n))
  | text (s : String) : Exact (.text s)
  | array {items : List Value} (hitems : ∀ item ∈ items, Exact item) : Exact (.array items)
  | object {members : Members} (hvalues : ∀ member ∈ members, Exact member.2) :
      Exact (.object members)

end Value

section Reading

variable {α σ : Type} {size fuel : Nat} {s rest : List UInt8}

/-- What holds of every item that is read holds of the items of an array. -/
lemma sequenceItems_forall {item : Reader α} {P : α → Prop}
    (hitem : ∀ s x rest, item s = .ok (x, rest) → P x) {done items : List α} {first : Bool}
    {n : Nat} (hdone : ∀ x ∈ done, P x)
    (h : sequenceItems item done first n fuel s = .ok (items, rest)) :
    ∀ x ∈ items, P x := by
  induction fuel generalizing done first n s with
  | zero => cases h
  | succ fuel ih =>
    unfold sequenceItems at h
    split at h
    · cases h
    · cases h
      exact fun x hx => hdone x (List.mem_reverse.mp hx)
    · split at h
      · cases h
      · rename_i hread
        exact ih (List.forall_mem_cons.mpr ⟨hitem _ _ _ hread, hdone⟩) h

/-- What each step keeps is kept by the members of an object. -/
lemma mapEntries_invariant {step : σ → String → Reader σ} (Inv : σ → Prop)
    (hstep : ∀ state key s next rest, Inv state → step state key s = .ok (next, rest) → Inv next)
    {state last : σ} {first : Bool} (hstate : Inv state)
    (h : mapEntries size step state first fuel s = .ok (last, rest)) : Inv last := by
  induction fuel generalizing state first s with
  | zero => cases h
  | succ fuel ih =>
    unfold mapEntries at h
    split at h
    · cases h
    · cases h
      exact hstate
    · split at h
      · cases h
      · split at h
        · cases h
        · rename_i hread
          exact ih (hstep _ _ _ _ _ hstate hread) h

/-- Something holds of each content of a table, whose names are in order. -/
structure IsTable (P : α → Prop) (members : List (String × α)) : Prop where
  increasing : Keyed.Increasing members
  contents : ∀ member ∈ members, P member.2

lemma IsTable.insert {P : α → Prop} {members : List (String × α)} (h : IsTable P members)
    (key : String) {x : α} (hx : P x) : IsTable P (Keyed.insert key x members) where
  increasing := h.increasing.insert key x
  contents member hmember := by
    rcases Keyed.mem_of_mem_insert hmember with rfl | hmember
    · exact hx
    · exact h.contents member hmember

lemma eq_ok_of_within {segment : Segment} {read : Except Failure α} {x : α}
    (h : within segment read = .ok x) : read = .ok x := by
  cases read with
  | error e => cases h
  | ok y => exact h

/-- A value after a key is read after the colon. -/
lemma read_of_memberValue {key : String} {item : Reader α} {x : α}
    (h : memberValue key item s = .ok (x, rest)) : ∃ s', item s' = .ok (x, rest) := by
  obtain ⟨⟨_, s'⟩, -, hwithin⟩ := exists_of_bind_eq_ok h
  exact ⟨s', eq_ok_of_within hwithin⟩

lemma objectOf_isTable {item : Reader α} {P : α → Prop}
    (hitem : ∀ s x rest, item s = .ok (x, rest) → P x) {members : List (String × α)}
    (h : objectOf size item s = .ok (members, rest)) : IsTable P members := by
  obtain ⟨⟨read, s'⟩, hentries, h⟩ := exists_of_bind_eq_ok h
  obtain ⟨_, -, heq⟩ := exists_of_bind_eq_ok h
  cases heq
  have hempty : IsTable P ([] : List (String × α)) :=
    ⟨List.Pairwise.nil, fun _ hmember => absurd hmember List.not_mem_nil⟩
  refine mapEntries_invariant (IsTable P) ?_ hempty hentries
  intro table key s table' rest htable hput
  obtain ⟨⟨x, s''⟩, hvalue, heq⟩ := exists_of_bind_eq_ok hput
  cases heq
  obtain ⟨s', hread⟩ := read_of_memberValue hvalue
  exact htable.insert key (hitem _ _ _ hread)

lemma arrayOf_forall {item : Reader α} {P : α → Prop}
    (hitem : ∀ s x rest, item s = .ok (x, rest) → P x) {items : List α}
    (h : arrayOf size item s = .ok (items, rest)) : ∀ x ∈ items, P x := by
  obtain ⟨⟨read, s'⟩, hitems, h⟩ := exists_of_bind_eq_ok h
  obtain ⟨_, -, heq⟩ := exists_of_bind_eq_ok h
  cases heq
  exact sequenceItems_forall hitem (fun _ hx => absurd hx List.not_mem_nil) hitems

/-- A value that is read is no container and can be read anywhere, or it is what is read of a
container. -/
lemma readable_of_scalarOr {container : Bool → Reader Value} {v : Value}
    (h : scalarOr size container s = .ok (v, rest)) :
    (∀ room, v.Readable room) ∨ ∃ isArray s', container isArray s' = .ok (v, rest) := by
  unfold scalarOr at h
  split at h
  · cases h
  · split_ifs at h
    · obtain ⟨_, -, heq⟩ := exists_of_bind_eq_ok h
      cases heq
      exact .inl fun _ => .null
    · obtain ⟨_, -, heq⟩ := exists_of_bind_eq_ok h
      cases heq
      exact .inl fun _ => .bool true
    · obtain ⟨_, -, heq⟩ := exists_of_bind_eq_ok h
      cases heq
      exact .inl fun _ => .bool false
    · obtain ⟨⟨n, s'⟩, hnumber, heq⟩ := exists_of_bind_eq_ok h
      cases heq
      exact .inl fun _ => .number (fits_number hnumber)
    · obtain ⟨⟨t, s'⟩, -, heq⟩ := exists_of_bind_eq_ok h
      cases heq
      exact .inl fun _ => .text t
    · exact .inr ⟨true, _, h⟩
    · exact .inr ⟨false, _, h⟩
    · cases h

/-- Whatever is read is what can be read with so much room. -/
theorem readable_of_value {room : Nat} {v : Value} (h : value size room s = .ok (v, rest)) :
    v.Readable room := by
  -- Only a container takes up room, and what stands in it is read with the room that is left.
  induction room generalizing s v rest with
  | zero =>
    rcases readable_of_scalarOr h with hscalar | ⟨isArray, s', hcontainer⟩
    · exact hscalar 0
    · cases hcontainer
  | succ room ih =>
    rcases readable_of_scalarOr h with hscalar | ⟨isArray, s', hcontainer⟩
    · exact hscalar (room + 1)
    · cases isArray with
      | true =>
        obtain ⟨⟨items, s''⟩, hitems, heq⟩ := exists_of_bind_eq_ok hcontainer
        cases heq
        exact .array (arrayOf_forall (fun _ _ _ => ih) hitems)
      | false =>
        obtain ⟨⟨members, s''⟩, hmembers, heq⟩ := exists_of_bind_eq_ok hcontainer
        cases heq
        have htable := objectOf_isTable (fun _ _ _ => ih) hmembers
        exact .object htable.increasing htable.contents

end Reading

section Writing

/-- With whatever after it that ends a value, the written form of a value is read by a decoder. -/
def Decoder.ReadsBack {α : Type} (lim : Limits) (item : Decoder α) (v : Value) (x : α) : Prop :=
  ∀ tail, (v.bytes ++ tail).length ≤ lim.size → EndsValue tail →
    item lim (v.bytes ++ tail) = .ok (x, tail)

/-- A value begins neither with a blank nor with what ends an array. -/
def Begins (bytes : List UInt8) : Prop :=
  ∃ b rest, bytes = b :: rest ∧ isSpace b = false ∧ b ≠ ascii ']'

variable {α β : Type} {item : Decoder α} {lim : Limits} {v : Value} {x : α}

lemma Decoder.ReadsBack.readsUnder (h : item.ReadsBack lim v x) : item.ReadsUnder lim v x := by
  refine fun tail hsize hends => h tail hsize fun b hb => ?_
  rcases hends with hcomma | hbrace
  · exact .inl (Option.some.inj (hb.symm.trans hcomma))
  · exact .inr (.inl (Option.some.inj (hb.symm.trans hbrace)))

lemma endsValue_continued (parts : List (List UInt8)) (rest : List UInt8) :
    EndsValue (continued false parts ++ ascii ']' :: rest) := by
  intro b hb
  cases parts with
  | nil => exact .inr (.inr (Option.some.inj hb).symm)
  | cons part parts => exact .inl (Option.some.inj hb).symm

lemma skipSpace_begins {b : UInt8} (hb : isSpace b = false) (s : List UInt8) :
    skipSpace (b :: s) = b :: s :=
  List.dropWhile_cons_of_neg (by rw [hb]; exact Bool.false_ne_true)

lemma nextItem_begins {part : List UInt8} (hbegins : Begins part) (first : Bool)
    (tail : List UInt8) :
    nextItem first ((if first then [] else [ascii ',']) ++ (part ++ tail)) =
      .ok (true, part ++ tail) := by
  obtain ⟨b, rest, rfl, hspace, hend⟩ := hbegins
  have hskip := skipSpace_begins hspace (rest ++ tail)
  have hcomma (s : List UInt8) : skipSpace (ascii ',' :: s) = ascii ',' :: s := rfl
  cases first with
  | true =>
    rw [if_pos rfl, List.nil_append, List.cons_append]
    unfold nextItem
    rw [hskip]
    dsimp only
    rw [if_neg hend, if_pos rfl]
  | false =>
    rw [if_neg Bool.false_ne_true, List.singleton_append, List.cons_append]
    unfold nextItem
    rw [hcomma]
    dsimp only
    rw [if_neg (by decide), if_neg Bool.false_ne_true, if_pos rfl, hskip]
    dsimp only
    rw [if_neg hend]

/-- All items of an array are read, up to its closing bracket. -/
lemma sequenceItems_written (content : β → Value) (read : β → α) {entries : List β}
    (hreads : ∀ e ∈ entries, item.ReadsBack lim (content e) (read e))
    (hbegins : ∀ e ∈ entries, Begins (content e).bytes) (rest : List UInt8) (done : List α)
    (first : Bool) (n fuel : Nat)
    (hfuel : (continued first (Value.itemBytes (entries.map content)) ++ ascii ']' :: rest).length ≤
      fuel)
    (hsize : (continued first (Value.itemBytes (entries.map content)) ++ ascii ']' :: rest).length ≤
      lim.size) :
    sequenceItems (item lim) done first n fuel
        (continued first (Value.itemBytes (entries.map content)) ++ ascii ']' :: rest) =
      .ok (done.reverse ++ entries.map read, ascii ']' :: rest) := by
  -- Each item takes one round, and has at least one byte.
  induction entries generalizing done first n fuel with
  | nil =>
    rw [List.map_nil, Value.itemBytes, continued_nil, List.length_cons] at hfuel
    obtain ⟨fuel, rfl⟩ : ∃ n, fuel = n + 1 := ⟨fuel - 1, by omega⟩
    rw [List.map_nil, Value.itemBytes, continued_nil, List.map_nil, List.append_nil]
    rfl
  | cons e entries ih =>
    obtain ⟨hfirst, hlater⟩ := List.forall_mem_cons.mp hreads
    obtain ⟨hbegin, hbegins⟩ := List.forall_mem_cons.mp hbegins
    have hpositive : 0 < (content e).bytes.length := by
      obtain ⟨b, later, hbytes, -⟩ := hbegin
      rw [hbytes]
      exact Nat.succ_pos _
    rw [List.map_cons, Value.itemBytes, continued_cons] at hfuel hsize ⊢
    rw [List.length_append, List.length_append] at hfuel hsize
    obtain ⟨fuel, rfl⟩ : ∃ n, fuel = n + 1 := ⟨fuel - 1, by omega⟩
    have htail := hfirst _ (by rw [List.length_append]; omega)
      (endsValue_continued (Value.itemBytes (entries.map content)) rest)
    rw [sequenceItems, nextItem_begins hbegin]
    dsimp only
    rw [htail]
    dsimp only
    rw [ih hlater hbegins (read e :: done) false (n + 1) fuel (by omega) (by omega),
      List.reverse_cons, List.append_assoc, List.singleton_append, List.map_cons]

/-- After its opening bracket an array is read as the list of its items. -/
lemma arrayOf_items (content : β → Value) (read : β → α) {entries : List β}
    (hreads : ∀ e ∈ entries, item.ReadsBack lim (content e) (read e))
    (hbegins : ∀ e ∈ entries, Begins (content e).bytes) (tail : List UInt8)
    (hsize : (continued true (Value.itemBytes (entries.map content)) ++ ascii ']' :: tail).length ≤
      lim.size) :
    arrayOf lim.size (item lim)
        (continued true (Value.itemBytes (entries.map content)) ++ ascii ']' :: tail) =
      .ok (entries.map read, tail) := by
  have hitems := sequenceItems_written content read hreads hbegins tail [] true 0 (lim.size + 1)
    (Nat.le_succ_of_le hsize) hsize
  unfold arrayOf
  rw [hitems]
  rfl

lemma array_bytes (items : List Value) (tail : List UInt8) :
    (Value.array items).bytes ++ tail =
      ascii '[' :: (continued true (Value.itemBytes items) ++ ascii ']' :: tail) := by
  simp [Value.bytes, continued]

lemma begins_text (s : String) : Begins (Value.text s).bytes :=
  ⟨ascii '"', _, rfl, by decide, by decide⟩

/-- An integer is told from other values by its first byte. -/
lemma begins_integer {b : UInt8} (h : b = ascii '-' ∨ ∃ d < 10, b = digitByte d) :
    (b = ascii '-' || isDigit b) = true ∧ isSpace b = false ∧ b ≠ ascii ']' ∧ b ≠ ascii 'n' ∧
      b ≠ ascii 't' ∧ b ≠ ascii 'f' := by
  have hdigits : ∀ d < 10, (digitByte d = ascii '-' || isDigit (digitByte d)) = true ∧
      isSpace (digitByte d) = false ∧ digitByte d ≠ ascii ']' ∧ digitByte d ≠ ascii 'n' ∧
      digitByte d ≠ ascii 't' ∧ digitByte d ≠ ascii 'f' := by decide
  rcases h with rfl | ⟨d, hd, rfl⟩
  · decide
  · exact hdigits d hd

lemma null_bytes : Value.null.bytes = ascii 'n' :: bytesOf "ull" := by
  rw [Value.bytes, bytesOf_eq, bytesOf_eq]
  rfl

lemma true_bytes : (Value.bool true).bytes = ascii 't' :: bytesOf "rue" := by
  rw [Value.bytes, bytesOf_eq, bytesOf_eq]
  rfl

lemma false_bytes : (Value.bool false).bytes = ascii 'f' :: bytesOf "alse" := by
  rw [Value.bytes, bytesOf_eq, bytesOf_eq]
  rfl

/-- A value that is read back is not taken for the end of an array before it. -/
lemma begins_bytes {room : Nat} (hv : v.Readable room) (hexact : v.Exact) : Begins v.bytes := by
  cases hexact with
  | null => exact ⟨ascii 'n', _, null_bytes, by decide, by decide⟩
  | bool b =>
    cases b with
    | true => exact ⟨ascii 't', _, true_bytes, by decide, by decide⟩
    | false => exact ⟨ascii 'f', _, false_bytes, by decide, by decide⟩
  | integer n =>
    cases hv with
    | number hn =>
      obtain ⟨b, later, hbytes, hb⟩ := written_begins hn
      obtain ⟨-, hspace, hend, -⟩ := begins_integer hb
      exact ⟨b, later, hbytes, hspace, hend⟩
  | text s => exact begins_text s
  | array hitems => exact ⟨ascii '[', _, rfl, by decide, by decide⟩
  | object hmembers => exact ⟨ascii '\x7b', _, rfl, by decide, by decide⟩

lemma scalarOr_integer {n : Int} (hn : (Number.integer n).Fits) {tail : List UInt8}
    (hends : EndsValue tail) (size : Nat) (container : Bool → Reader Value) :
    scalarOr size container (bytesOf (Number.integer n).written ++ tail) =
      .ok (.number (.integer n), tail) := by
  obtain ⟨b, later, hbytes, hb⟩ := written_begins hn
  obtain ⟨hbegin, hspace, -, hnull, htrue, hfalse⟩ := begins_integer hb
  have hread := number_written hends hn
  rw [hbytes] at hread ⊢
  rw [List.cons_append] at hread ⊢
  unfold scalarOr
  rw [skipSpace_begins hspace]
  dsimp only
  rw [if_neg hnull, if_neg htrue, if_neg hfalse, if_pos hbegin, hread]
  rfl

lemma word_append (letters tail : List UInt8) :
    word letters (letters ++ tail) = .ok ((), tail) := by
  induction letters with
  | nil => rfl
  | cons letter letters ih => rw [List.cons_append, word, if_pos rfl, ih]

/-- A value that is no container is read back where any value may stand. -/
lemma scalarOr_written {size : Nat} {container : Bool → Reader Value} {tail : List UInt8}
    (hscalar : ∀ room, v.Readable room) (hexact : v.Exact) (hsize : (v.bytes ++ tail).length ≤ size)
    (hends : EndsValue tail) : scalarOr size container (v.bytes ++ tail) = .ok (v, tail) := by
  cases hexact with
  | null =>
    have hread (s : List UInt8) : scalarOr size container (ascii 'n' :: s) =
        (word (bytesOf "ull") s).bind fun read => .ok (.null, read.2) := rfl
    rw [null_bytes, List.cons_append, hread, word_append]
    rfl
  | bool b =>
    cases b with
    | true =>
      have hread (s : List UInt8) : scalarOr size container (ascii 't' :: s) =
          (word (bytesOf "rue") s).bind fun read => .ok (.bool true, read.2) := rfl
      rw [true_bytes, List.cons_append, hread, word_append]
      rfl
    | false =>
      have hread (s : List UInt8) : scalarOr size container (ascii 'f' :: s) =
          (word (bytesOf "alse") s).bind fun read => .ok (.bool false, read.2) := rfl
      rw [false_bytes, List.cons_append, hread, word_append]
      rfl
  | integer n =>
    cases hscalar 0 with
    | number hn => exact scalarOr_integer hn hends size container
  | text s =>
    have hread (s : List UInt8) : scalarOr size container (ascii '"' :: s) =
        (Json.text size s).bind fun read => .ok (.text read.1, read.2) := rfl
    rw [text_bytes, hread, text_read hsize]
    rfl
  | array hitems => cases hscalar 0
  | object hmembers => cases hscalar 0

lemma value_eq_scalarOr (size room : Nat) :
    ∃ container, value size room = scalarOr size container := by
  cases room with
  | zero => exact ⟨_, rfl⟩
  | succ room => exact ⟨_, rfl⟩

lemma scalar_readsBack (hscalar : ∀ room, v.Readable room) (hexact : v.Exact) (lim : Limits) :
    Decoder.any.ReadsBack lim v v := by
  obtain ⟨container, hvalue⟩ := value_eq_scalarOr lim.size lim.room
  intro tail hsize hends
  unfold Decoder.any
  rw [hvalue]
  exact scalarOr_written hscalar hexact hsize hends

/-- A value that can have been read is read back from its written form, if there is no binary number
in it. -/
theorem any_readsBack {room : Nat} (hv : v.Readable room) (hexact : v.Exact) (size : Nat) :
    Decoder.any.ReadsBack ⟨size, room⟩ v v := by
  induction hv with
  | null => exact scalar_readsBack (fun _ => .null) hexact _
  | bool b => exact scalar_readsBack (fun _ => .bool b) hexact _
  | number hn => exact scalar_readsBack (fun _ => .number hn) hexact _
  | text s => exact scalar_readsBack (fun _ => .text s) hexact _
  | @array room items hitems ih =>
    intro tail hsize _
    cases hexact with
    | array hexact =>
      have hread := arrayOf_items id id
        (fun item hitem => ih item hitem (hexact item hitem))
        (fun item hitem => begins_bytes (hitems item hitem) (hexact item hitem)) tail
      rw [array_bytes] at hsize ⊢
      rw [List.map_id] at hread
      have hbracket (s : List UInt8) : Decoder.any ⟨size, room + 1⟩ (ascii '[' :: s) =
          (arrayOf size (Decoder.any ⟨size, room⟩) s).bind fun read =>
            .ok (.array read.1, read.2) := rfl
      rw [hbracket, hread (Nat.le_of_succ_le hsize)]
      rfl
  | @object room members hkeys hvalues ih =>
    intro tail hsize _
    cases hexact with
    | object hexact =>
      have hread := objectOf_members Prod.fst Prod.snd Prod.snd
        (fun member hmember => (ih member hmember (hexact member hmember)).readsUnder) tail
      rw [object_bytes] at hsize ⊢
      rw [List.map_id', hkeys.ofList_eq] at hread
      have hbrace (s : List UInt8) : Decoder.any ⟨size, room + 1⟩ (ascii '\x7b' :: s) =
          (objectOf size (Decoder.any ⟨size, room⟩) s).bind fun read =>
            .ok (.object read.1, read.2) := rfl
      rw [hbrace, hread (Nat.le_of_succ_le hsize)]
      rfl

end Writing

end ProcessorHost.Json
