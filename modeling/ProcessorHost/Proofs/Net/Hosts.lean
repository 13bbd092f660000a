import ProcessorHost.Net.ServerBuilder
import ProcessorHost.Proofs.Net.Literals
import ProcessorHost.Proofs.Net.Resolution

/-!
# Binding to a host

A host text is blank, or it is bound as what is left of it without the white space around it. No
standard text of an address has white space, so every address is bound as it is written.
-/

namespace ProcessorHost

namespace Text

variable {chars before after : List Char}

lemma trimChars_append (hbefore : ∀ c ∈ before, isBlank c) (hafter : ∀ c ∈ after, isBlank c) :
    trimChars (before ++ chars ++ after) = trimChars chars := by
  have hfront : (before ++ chars ++ after).dropWhile isBlank =
      (chars ++ after).dropWhile isBlank := by
    rw [List.append_assoc, List.dropWhile_append_of_pos hbefore]
  unfold trimChars
  rw [hfront, List.dropWhile_append]
  split
  · rename_i hblank
    rw [List.isEmpty_iff.mp hblank, List.dropWhile_eq_nil_iff.mpr hafter]
  · rw [List.reverse_append, List.dropWhile_append_of_pos]
    exact fun c hc => hafter c (List.mem_reverse.mp hc)

lemma trimChars_eq_self (hchars : ∀ c ∈ chars, isBlank c = false) : trimChars chars = chars := by
  have hkept (cs : List Char) (hcs : ∀ c ∈ cs, isBlank c = false) : cs.dropWhile isBlank = cs := by
    cases cs with
    | nil => rfl
    | cons c cs => exact List.dropWhile_cons_of_neg (by simp [hcs c List.mem_cons_self])
  unfold trimChars
  rw [hkept chars hchars, hkept chars.reverse fun c hc => hchars c (List.mem_reverse.mp hc),
    List.reverse_reverse]

/-- White space around a text does not count. -/
lemma trim_append {before host after : String} (hbefore : IsBlank before) (hafter : IsBlank after) :
    trim (before ++ host ++ after) = trim host := by
  unfold trim
  rw [String.toList_append, String.toList_append, trimChars_append hbefore hafter]

lemma trim_eq_self {s : String} (hs : ∀ c ∈ s.toList, isBlank c = false) : trim s = s := by
  unfold trim
  rw [trimChars_eq_self hs, String.ofList_toList]

end Text

namespace Net

section Signs

open Text

/-- There is no white space among these characters. -/
def Solid (chars : List Char) : Prop := ∀ c ∈ chars, isBlank c = false

lemma Solid.append {chars more : List Char} (h : Solid chars) (hmore : Solid more) :
    Solid (chars ++ more) := fun c hc => (List.mem_append.mp hc).elim (h c) (hmore c)

lemma Solid.cons {c : Char} {chars : List Char} (hc : isBlank c = false) (h : Solid chars) :
    Solid (c :: chars) := List.forall_mem_cons.mpr ⟨hc, h⟩

lemma solid_toDigits {base : Nat} (hbase : 1 < base) (hsixteen : base ≤ 16) (n : Nat) :
    Solid (Nat.toDigits base n) := by
  have hall : ∀ d < 16, isBlank d.digitChar = false := by decide
  intro c hc
  obtain ⟨d, hd, rfl⟩ := Digits.exists_of_mem_toDigits hbase n c hc
  exact hall d (Nat.lt_of_lt_of_le hd hsixteen)

lemma solid_ipv4 (ip : Ipv4) : Solid ip.text.toList := by
  have hoctet (n : UInt8) : Solid (toString n).toList := by
    have htext : (toString n).toList = Nat.toDigits 10 n.toNat := String.toList_ofList
    rw [htext]
    exact solid_toDigits (by decide) (by decide) _
  have hdot : isBlank '.' = false := by decide
  rw [toList_text]
  exact (hoctet _).append (.cons hdot ((hoctet _).append (.cons hdot ((hoctet _).append
    (.cons hdot (hoctet _))))))

lemma solid_groupsText (gs : List UInt16) : Solid (Ipv6.groupsText gs).toList := by
  have hgroup (g : UInt16) : Solid (groupSigns g) := solid_toDigits (by decide) (by decide) _
  cases gs with
  | nil => exact nofun
  | cons g gs =>
    rw [groupsText_cons]
    refine (hgroup g).append fun c hc => ?_
    obtain ⟨g', -, hc⟩ := List.mem_flatMap.mp hc
    exact Solid.cons (by decide) (hgroup g') c hc

lemma solid_ipv6 (ip : Ipv6) : Solid ip.text.toList := by
  have hcolon : isBlank ':' = false := by decide
  have hf : isBlank 'f' = false := by decide
  have hzeros : Solid "::".toList := .cons hcolon (.cons hcolon nofun)
  have hmapped : Solid "::ffff:".toList := .cons hcolon (.cons hcolon (.cons hf (.cons hf (.cons hf
    (.cons hf (.cons hcolon nofun))))))
  unfold Ipv6.text
  split
  · rw [String.toList_append]
    exact Solid.append hmapped (solid_ipv4 _)
  · dsimp only
    split
    · rw [String.toList_append, String.toList_append]
      exact ((solid_groupsText _).append hzeros).append (solid_groupsText _)
    · exact solid_groupsText _

/-- White space is not part of the standard text of an address. -/
lemma trim_text (ip : Ip) : trim ip.text = ip.text := by
  cases ip with
  | v4 ip => exact trim_eq_self (solid_ipv4 ip)
  | v6 ip => exact trim_eq_self (solid_ipv6 ip)

lemma not_isBlank_text (ip : Ip) : ¬ IsBlank ip.text := by
  rw [← trim_isEmpty_iff, trim_text, String.isEmpty_iff]
  intro hempty
  -- The text that is left would be read as an address.
  have hread : addressesOf (fun _ => .ok []) "" = .ok [⟨ip, 0⟩] := hempty ▸ addressesOf_text _ ip
  have hnone : addressesOf (fun _ => .ok []) "" = .ok [] := by rfl
  cases hnone.symm.trans hread

end Signs

section Resolving

variable {lookup : HostLookup} {host : String} {port : UInt16}

lemma Endpoint.resolve_congr {host' : String} (h : Text.trim host = Text.trim host') :
    Endpoint.resolve lookup host port = Endpoint.resolve lookup host' port := by
  unfold Endpoint.resolve
  rw [h]

/-- An endpoint that is found has the port that was asked for. -/
lemma Endpoint.port_of_resolve {e : Endpoint} (h : Endpoint.resolve lookup host port = .ok e) :
    e.port = port := by
  unfold Endpoint.resolve at h
  dsimp only at h
  split at h
  · cases h
  · split at h
    · cases h
    · cases h
    · cases h
      rfl

/-- The standard text of an address is a host that is found at this address. -/
lemma Endpoint.resolve_text (lookup : HostLookup) (ip : Ip) (port : UInt16) :
    Endpoint.resolve lookup ip.text port = .ok ⟨ip, port, 0⟩ := by
  unfold Endpoint.resolve
  dsimp only
  rw [if_neg (mt (Text.trim_isEmpty_iff ip.text).mp (not_isBlank_text ip)), trim_text,
    addressesOf_text]

lemma ServerBuilder.forAddress_eq_error_iff {e : ConfigError} :
    ServerBuilder.forAddress lookup host port = .error e ↔
      Endpoint.resolve lookup host port = .error e := by
  unfold ServerBuilder.forAddress
  cases Endpoint.resolve lookup host port with
  | error e' => simp [Except.map]
  | ok e' => simp [Except.map]

lemma ServerBuilder.forAddress_eq_ok_iff {b : ServerBuilder} :
    ServerBuilder.forAddress lookup host port = .ok b ↔
      ∃ e, Endpoint.resolve lookup host port = .ok e ∧ .forEndpoint e = b := by
  unfold ServerBuilder.forAddress
  cases Endpoint.resolve lookup host port with
  | error e' => simp [Except.map]
  | ok e' => simp [Except.map]

end Resolving

/-- Where a host text is bound, with whatever lookup of names. -/
structure BindsAsWritten (lookup : HostLookup) : Prop where
  /-- Only of a blank host it is said that it is missing. -/
  missing : ∀ host port,
    ServerBuilder.forAddress lookup host port = .error .missingAddress ↔ Text.IsBlank host
  /-- White space around the host changes neither the address nor the error. -/
  padded : ∀ before host after port, Text.IsBlank before → Text.IsBlank after →
    ServerBuilder.forAddress lookup (before ++ host ++ after) port =
      ServerBuilder.forAddress lookup host port
  /-- The port is kept. -/
  port : ∀ host port b, ServerBuilder.forAddress lookup host port = .ok b → b.address.port = port
  /-- An endpoint without a zone is bound from the standard text of its address and its port. -/
  literal : ∀ e : Endpoint, e.zone = 0 →
    ServerBuilder.forAddress lookup e.ip.text e.port = .ok (.forEndpoint e)

theorem binds_as_written (lookup : HostLookup) : BindsAsWritten lookup where
  missing host port := by
    rw [ServerBuilder.forAddress_eq_error_iff, Endpoint.resolve_eq_error_iff]
    constructor
    · rintro (⟨hblank, -⟩ | ⟨-, reason, -, herror⟩)
      · exact hblank
      · cases herror
    · exact fun hblank => .inl ⟨hblank, rfl⟩
  padded before host after port hbefore hafter :=
    congrArg (Except.map ServerBuilder.forEndpoint)
      (Endpoint.resolve_congr (Text.trim_append hbefore hafter))
  port host port b h := by
    obtain ⟨e, hresolve, rfl⟩ := ServerBuilder.forAddress_eq_ok_iff.mp h
    exact Endpoint.port_of_resolve hresolve
  literal e hzone := by
    have hresolve := Endpoint.resolve_text lookup e.ip e.port
    rw [← hzone] at hresolve
    exact ServerBuilder.forAddress_eq_ok_iff.mpr ⟨e, hresolve, rfl⟩

end Net

end ProcessorHost
