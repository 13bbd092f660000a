import ProcessorHost.Json.Decoder
import ProcessorHost.Proofs.Json.Written
import ProcessorHost.Proofs.Tables

/-!
# Reading objects that were written

A written text is read as that text. So an object whose values have one type is read as the table
of its members, by any decoder that reads the values; of two members with one name, the last is
found in it.
-/

namespace ProcessorHost.Json

section Texts

lemma hexValue?_hexDigit : ∀ n < 16, hexValue? (hexDigit n) = some n.toNat :=
  forall_below (by decide)

lemma codePointBytes_toNat : ∀ b < 32, codePointBytes b.toNat = [b] := forall_below (by decide)

lemma unicodeEscape_control {b : UInt8} (hb : b < 32) (rest : List UInt8) :
    unicodeEscape (ascii '0' :: ascii '0' :: hexDigit (b / 16) :: hexDigit (b % 16) :: rest) =
      .ok ([b], rest) := by
  obtain ⟨hhigh, hlow⟩ := digits_lt b
  have hzero : hexValue? (ascii '0') = some 0 := by decide
  have hdigits : hexEscape
      (ascii '0' :: ascii '0' :: hexDigit (b / 16) :: hexDigit (b % 16) :: rest) =
      .ok (b.toNat, rest) := by
    have hsum : ((0 * 16 + 0) * 16 + (b / 16).toNat) * 16 + (b % 16).toNat = b.toNat := by
      rw [UInt8.toNat_div, UInt8.toNat_mod]
      simp
      omega
    unfold hexEscape
    dsimp only
    rw [hzero, hexValue?_hexDigit _ hhigh, hexValue?_hexDigit _ hlow]
    simp only [hsum]
  have hsmall : b.toNat < 32 := hb
  unfold unicodeEscape
  rw [hdigits]
  change (if _ then _ else _) = _
  rw [if_neg (by omega), if_pos (by omega), codePointBytes_toNat b hb]

lemma textBody_escape {s bytes rest : List UInt8} (hescape : escape s = .ok (bytes, rest))
    (done : List UInt8) (fuel : Nat) :
    textBody done (fuel + 1) (ascii '\\' :: s) = textBody (bytes.reverse ++ done) fuel rest := by
  rw [textBody, if_neg (by decide), if_pos rfl, hescape]

/-- A byte of a text is read back from what was written for it. -/
lemma textBody_escapedByte (done : List UInt8) (fuel : Nat) (b : UInt8) (rest : List UInt8) :
    textBody done (fuel + 1) (escapedByte b ++ rest) = textBody (b :: done) fuel rest := by
  unfold escapedByte
  split_ifs with hquote hbackslash hbackspace htab hline hpage hreturn hcontrol
  · subst hquote
    rfl
  · subst hbackslash
    rfl
  · subst hbackspace
    rfl
  · subst htab
    rfl
  · subst hline
    rfl
  · subst hpage
    rfl
  · subst hreturn
    rfl
  -- The other control characters have no letter, and are written with the digits of their code.
  · have hescape : escape (ascii 'u' :: ascii '0' :: ascii '0' :: hexDigit (b / 16) ::
        hexDigit (b % 16) :: rest) = .ok ([b], rest) := unicodeEscape_control hcontrol rest
    exact textBody_escape hescape done fuel
  · rw [List.singleton_append, textBody, if_neg hquote, if_neg hbackslash, if_neg hcontrol]

lemma textBody_flatMap_escapedByte (done : List UInt8) (fuel : Nat) (bytes rest : List UInt8) :
    textBody done (bytes.length + fuel + 1) (bytes.flatMap escapedByte ++ ascii '"' :: rest) =
      .ok (done.reverse ++ bytes, rest) := by
  induction bytes generalizing done with
  | nil =>
    rw [List.append_nil]
    rfl
  | cons b bytes ih =>
    have hfuel : (b :: bytes).length + fuel + 1 = bytes.length + fuel + 1 + 1 := by
      rw [List.length_cons]
      omega
    rw [hfuel, List.flatMap_cons, List.append_assoc, textBody_escapedByte, ih, List.reverse_cons,
      List.append_assoc, List.singleton_append]

lemma length_le_flatMap_escapedByte (bytes : List UInt8) :
    bytes.length ≤ (bytes.flatMap escapedByte).length := by
  have hone (b : UInt8) : 1 ≤ (escapedByte b).length := by
    unfold escapedByte
    split_ifs
    all_goals exact Nat.le_add_left ..
  induction bytes with
  | nil => exact Nat.le_refl _
  | cons b bytes ih =>
    have hb := hone b
    rw [List.flatMap_cons, List.length_append, List.length_cons]
    omega

/-- A text is read back from its written form, whatever follows it. -/
theorem text_written (s : String) (rest : List UInt8) (size : Nat)
    (hsize : ((bytesOf s).flatMap escapedByte).length ≤ size) :
    text size ((bytesOf s).flatMap escapedByte ++ ascii '"' :: rest) = .ok (s, rest) := by
  have hlength := length_le_flatMap_escapedByte (bytesOf s)
  have hfuel : size + 1 = (bytesOf s).length + (size - (bytesOf s).length) + 1 := by omega
  have hbody := textBody_flatMap_escapedByte [] (size - (bytesOf s).length) (bytesOf s) rest
  unfold text
  rw [hfuel, hbody, List.reverse_nil, List.nil_append]
  simp only [textOf?_bytesOf]

end Texts

section Members

/-- What may come after the value of a member. -/
def EndsMember (tail : List UInt8) : Prop :=
  tail.head? = some (ascii ',') ∨ tail.head? = some (ascii '\x7d')

/-- A decoder reads the written form of a value in the object of a document, and stops where the
value ends. -/
def Decoder.Reads {α : Type} (item : Decoder α) (v : Value) (x : α) : Prop :=
  ∀ size tail, (v.bytes ++ tail).length ≤ size → EndsMember tail →
    item ⟨size, Limits.depth - 1⟩ (v.bytes ++ tail) = .ok (x, tail)

/-- Parts with a comma between neighbours, and one before the first of them unless nothing was
written before. -/
def continued (first : Bool) (parts : List (List UInt8)) : List UInt8 :=
  if first then joined parts else parts.flatMap fun part => ascii ',' :: part

lemma joined_cons (part : List UInt8) (parts : List (List UInt8)) :
    joined (part :: parts) = part ++ parts.flatMap fun part => ascii ',' :: part := by
  induction parts generalizing part with
  | nil => exact (List.append_nil part).symm
  | cons next parts ih =>
    rw [List.flatMap_cons, List.cons_append, ← ih]
    rfl

lemma continued_cons (first : Bool) (part : List UInt8) (parts : List (List UInt8))
    (rest : List UInt8) :
    continued first (part :: parts) ++ rest =
      (if first then [] else [ascii ',']) ++ (part ++ (continued false parts ++ rest)) := by
  cases first with
  | true => exact (congrArg (· ++ rest) (joined_cons part parts)).trans (List.append_assoc ..)
  | false => simp [continued]

section Steps

variable {σ : Type}

/-- Members are taken one after the other, each of them up to where its value ends. -/
inductive Takes (size : Nat) (step : σ → String → Reader σ) : σ → Members → σ → Prop
  | nil (state : σ) : Takes size step state [] state
  | cons {state next last : σ} {key : String} {v : Value} {members : Members}
      (hstep : ∀ tail, (v.bytes ++ tail).length ≤ size → EndsMember tail →
        step state key (ascii ':' :: (v.bytes ++ tail)) = .ok (next, tail))
      (hrest : Takes size step next members last) :
      Takes size step state ((key, v) :: members) last

variable {size : Nat} {step : σ → String → Reader σ} {state next last : σ} {members : Members}

/-- One member is taken, and those after it are left. -/
lemma mapEntries_member {key : String} {v : Value} {tail : List UInt8}
    (hstep : step state key (ascii ':' :: (v.bytes ++ tail)) = .ok (next, tail))
    (hsize : (memberBytes key v.bytes ++ tail).length ≤ size) (first : Bool) (fuel : Nat) :
    mapEntries size step state first (fuel + 1)
        ((if first then [] else [ascii ',']) ++ (memberBytes key v.bytes ++ tail)) =
      mapEntries size step next false fuel tail := by
  have hmember : memberBytes key v.bytes ++ tail = ascii '"' ::
      ((bytesOf key).flatMap escapedByte ++ ascii '"' :: ascii ':' :: (v.bytes ++ tail)) := by
    simp [memberBytes, textBytes]
  have hnext : nextKey first ((if first then [] else [ascii ',']) ++
      (memberBytes key v.bytes ++ tail)) =
      .ok (true, (bytesOf key).flatMap escapedByte ++ ascii '"' :: ascii ':' ::
        (v.bytes ++ tail)) := by
    rw [hmember]
    cases first
    · rfl
    · rfl
  rw [hmember, List.length_cons, List.length_append] at hsize
  have htext := text_written key (ascii ':' :: (v.bytes ++ tail)) size (by omega)
  rw [mapEntries, hnext]
  simp only [htext, hstep]

lemma mapEntries_end (size : Nat) (step : σ → String → Reader σ) (state : σ) (first : Bool)
    (fuel : Nat) (rest : List UInt8) :
    mapEntries size step state first (fuel + 1) (ascii '\x7d' :: rest) =
      .ok (state, ascii '\x7d' :: rest) := rfl

lemma continued_nil (first : Bool) (rest : List UInt8) : continued first [] ++ rest = rest := by
  cases first with
  | true => rfl
  | false => rfl

lemma endsMember_continued (parts : List (List UInt8)) (rest : List UInt8) :
    EndsMember (continued false parts ++ ascii '\x7d' :: rest) := by
  cases parts with
  | nil => exact .inr rfl
  | cons part parts => exact .inl rfl

/-- All members of an object are taken, up to its closing brace. -/
lemma mapEntries_takes (h : Takes size step state members last) (rest : List UInt8) (first : Bool)
    (fuel : Nat)
    (hfuel : (continued first (Value.memberList members) ++ ascii '\x7d' :: rest).length ≤ fuel)
    (hsize : (continued first (Value.memberList members) ++ ascii '\x7d' :: rest).length ≤ size) :
    mapEntries size step state first fuel
        (continued first (Value.memberList members) ++ ascii '\x7d' :: rest) =
      .ok (last, ascii '\x7d' :: rest) := by
  -- Each member takes one round, and has at least one byte.
  induction h generalizing first fuel with
  | nil state =>
    rw [Value.memberList, continued_nil, List.length_cons] at hfuel
    obtain ⟨fuel, rfl⟩ : ∃ n, fuel = n + 1 := ⟨fuel - 1, by omega⟩
    rw [Value.memberList, continued_nil]
    exact mapEntries_end ..
  | cons hstep hrest ih =>
    rename_i state next last key v members
    rw [Value.memberList, continued_cons] at hfuel hsize ⊢
    have hbytes : (memberBytes key v.bytes).length =
        (textBytes key).length + (v.bytes.length + 1) := List.length_append
    rw [List.length_append, List.length_append] at hfuel hsize
    obtain ⟨fuel, rfl⟩ : ∃ n, fuel = n + 1 := ⟨fuel - 1, by omega⟩
    have htail := hstep _ (by rw [List.length_append]; omega)
      (endsMember_continued (Value.memberList members) rest)
    rw [mapEntries_member htail (by rw [List.length_append]; omega)]
    exact ih false fuel (by omega) (by omega)

end Steps

variable {α β : Type} {item : Decoder α} {lim : Limits}

/-- Under some limits, a decoder reads the written form of a value in an object. -/
def Decoder.ReadsUnder (lim : Limits) (item : Decoder α) (v : Value) (x : α) : Prop :=
  ∀ tail, (v.bytes ++ tail).length ≤ lim.size → EndsMember tail →
    item lim (v.bytes ++ tail) = .ok (x, tail)

/-- How `objectOf` takes a member into its table. -/
def putMember (lim : Limits) (item : Decoder α) (table : List (String × α)) (key : String) :
    Reader (List (String × α)) := fun s => do
  let (v, rest) ← memberValue key (item lim) s
  .ok (Keyed.insert key v table, rest)

lemma memberValue_colon {σ : Type} {read : Reader σ} {s rest : List UInt8} {x : σ} (key : String)
    (hread : read s = .ok (x, rest)) : memberValue key read (ascii ':' :: s) = .ok (x, rest) := by
  change within (.key key) (read s) = _
  rw [hread]
  rfl

lemma takes_putMember (name : β → String) (content : β → Value) (read : β → α) (entries : List β)
    (hreads : ∀ e ∈ entries, item.ReadsUnder lim (content e) (read e))
    (table : List (String × α)) :
    Takes lim.size (putMember lim item) table (entries.map fun e => (name e, content e))
      (entries.foldl (fun table e => Keyed.insert (name e) (read e) table) table) := by
  induction entries generalizing table with
  | nil => exact .nil table
  | cons e entries ih =>
    obtain ⟨hfirst, hrest⟩ := List.forall_mem_cons.mp hreads
    refine .cons (fun tail hsize hends => ?_) (ih hrest _)
    unfold putMember
    rw [memberValue_colon _ (hfirst tail hsize hends)]
    rfl

lemma objectOf_eq (lim : Limits) (item : Decoder α) (s : List UInt8) :
    objectOf lim.size (item lim) s =
      (mapEntries lim.size (putMember lim item) [] true (lim.size + 1) s).bind fun read =>
        (endOfMap read.2).bind fun after => .ok (read.1, after.2) := rfl

/-- After its opening brace an object is read as the table of its members. -/
lemma objectOf_members {size room : Nat} (name : β → String) (content : β → Value) (read : β → α)
    {entries : List β} (hreads : ∀ e ∈ entries, item.ReadsUnder ⟨size, room⟩ (content e) (read e))
    (tail : List UInt8)
    (hsize : (continued true (Value.memberList (entries.map fun e => (name e, content e))) ++
      ascii '\x7d' :: tail).length ≤ size) :
    objectOf size (item ⟨size, room⟩)
        (continued true (Value.memberList (entries.map fun e => (name e, content e))) ++
          ascii '\x7d' :: tail) =
      .ok (Keyed.ofList (entries.map fun e => (name e, read e)), tail) := by
  have htakes : Takes size _ _ _ _ := takes_putMember name content read entries hreads []
  have hentries := mapEntries_takes htakes tail true (size + 1) (Nat.le_succ_of_le hsize) hsize
  have hobject := objectOf_eq ⟨size, room⟩ item
    (continued true (Value.memberList (entries.map fun e => (name e, content e))) ++
      ascii '\x7d' :: tail)
  rw [hentries] at hobject
  unfold Keyed.ofList
  rw [List.foldl_map]
  exact hobject

lemma object_bytes (members : Members) (tail : List UInt8) :
    (Value.object members).bytes ++ tail =
      ascii '\x7b' :: (continued true (Value.memberList members) ++ ascii '\x7d' :: tail) := by
  simp [Value.bytes, continued]

/-- An object is read as the table of its members, whatever follows it. -/
lemma dictionary_object {size room : Nat} (name : β → String) (content : β → Value) (read : β → α)
    {entries : List β} (hreads : ∀ e ∈ entries, item.ReadsUnder ⟨size, room⟩ (content e) (read e))
    (tail : List UInt8)
    (hsize : ((Value.object (entries.map fun e => (name e, content e))).bytes ++ tail).length ≤
      size) :
    Decoder.dictionary item ⟨size, room + 1⟩
        ((Value.object (entries.map fun e => (name e, content e))).bytes ++ tail) =
      .ok (Keyed.ofList (entries.map fun e => (name e, read e)), tail) := by
  rw [object_bytes, List.length_cons] at hsize
  rw [object_bytes]
  exact objectOf_members name content read hreads tail (Nat.le_of_succ_le hsize)

/-- What is read from a text up to its end is read from the document. -/
lemma document_eq {read : Decoder α} {s : List UInt8} {x : α}
    (hread : read (.ofBytes s) s = .ok (x, [])) : document read s = .ok x := by
  unfold document
  rw [hread]
  rfl

/-- An object is read as the table of its members. -/
theorem document_object (name : β → String) (content : β → Value) (read : β → α)
    (entries : List β) (hreads : ∀ e ∈ entries, item.Reads (content e) (read e)) :
    document (Decoder.dictionary item)
        (Value.object (entries.map fun e => (name e, content e))).bytes =
      .ok (Keyed.ofList (entries.map fun e => (name e, read e))) := by
  have hobject := dictionary_object name content read (fun e he => hreads e he _) []
    (Nat.le_of_eq (congrArg List.length (List.append_nil _)))
  rw [List.append_nil] at hobject
  exact document_eq hobject

end Members

lemma text_bytes (s : String) (tail : List UInt8) : (Value.text s).bytes ++ tail =
    ascii '"' :: ((bytesOf s).flatMap escapedByte ++ ascii '"' :: tail) := by
  simp [Value.bytes, textBytes]

/-- A text is read back after its opening quotation mark. -/
lemma text_read {s : String} {tail : List UInt8} {size : Nat}
    (hsize : ((Value.text s).bytes ++ tail).length ≤ size) :
    text size ((bytesOf s).flatMap escapedByte ++ ascii '"' :: tail) = .ok (s, tail) := by
  rw [text_bytes, List.length_cons, List.length_append] at hsize
  exact text_written s tail size (by omega)

lemma string_reads (s : String) : Decoder.string.Reads (.text s) s := by
  intro size tail hsize _
  rw [text_bytes]
  exact text_read hsize

/-- An object of texts that is sent as a text is read as their table. -/
lemma document_texts (entries : List (String × String)) :
    document (Decoder.dictionary Decoder.string)
        (bytesOf (Value.object (entries.map fun e => (e.1, .text e.2))).written) =
      .ok (Keyed.ofList entries) := by
  have hread := document_object Prod.fst (fun e : String × String => .text e.2) Prod.snd entries
    fun e _ => string_reads e.2
  have hsame : (entries.map fun e => (e.1, e.2)) = entries := List.map_id entries
  rw [Value.bytesOf_written, hread, hsame]

end ProcessorHost.Json
