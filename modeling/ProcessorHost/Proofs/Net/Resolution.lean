import Mathlib.Data.List.TakeWhile
import Mathlib.Tactic.Common
import ProcessorHost.Net.Parse

/-!
# Hosts without an address

There are two reasons why a host text does not give an endpoint: nothing is left of it without its
white space, or no address is found for what is left.
-/

namespace ProcessorHost

namespace Text

/-- There is nothing but white space in a text. -/
def IsBlank (s : String) : Prop := ∀ c ∈ s.toList, isBlank c

lemma trimChars_eq_nil_iff (chars : List Char) : trimChars chars = [] ↔ ∀ c ∈ chars, isBlank c := by
  unfold trimChars
  rw [List.reverse_eq_nil_iff, List.dropWhile_eq_nil_iff]
  constructor
  · intro hrest
    by_contra hchars
    -- What is left at the front would begin with a character that is not blank.
    have hfront : chars.dropWhile isBlank ≠ [] := by rwa [ne_eq, List.dropWhile_eq_nil_iff]
    have hhead := List.head_dropWhile_not isBlank hfront
    have hmem := List.head_mem hfront
    rw [hrest _ (List.mem_reverse.mpr hmem)] at hhead
    cases hhead
  · intro hchars
    rw [List.dropWhile_eq_nil_iff.mpr hchars]
    exact nofun

lemma trim_isEmpty_iff (s : String) : (trim s).isEmpty ↔ IsBlank s := by
  unfold trim
  rw [String.isEmpty_iff, ← String.toList_eq_nil_iff, String.toList_ofList, trimChars_eq_nil_iff]
  rfl

end Text

namespace Net

/-- Why there is no address for the name of a host. -/
inductive Unresolved (lookup : HostLookup) (host : String) : String → Prop
  | refused {reason : String} (hlookup : addressesOf lookup host = .error reason) :
      Unresolved lookup host reason
  | nowhere (hlookup : addressesOf lookup host = .ok []) :
      Unresolved lookup host "host resolved to no addresses"

/-- A host and a port as they are reported. -/
def placeText (host : String) (port : UInt16) : String := Text.trim host ++ ":" ++ toString port

variable {lookup : HostLookup} {host : String} {port : UInt16} {e : ConfigError}

/-- There is no endpoint exactly for a blank host, and for one without an address. -/
lemma Endpoint.resolve_eq_error_iff : Endpoint.resolve lookup host port = .error e ↔
    (Text.IsBlank host ∧ e = .missingAddress) ∨
    (¬ Text.IsBlank host ∧ ∃ reason, Unresolved lookup (Text.trim host) reason ∧
      e = .invalidAddress (placeText host port) reason) := by
  unfold Endpoint.resolve
  dsimp only
  by_cases hblank : Text.IsBlank host
  · rw [if_pos ((Text.trim_isEmpty_iff host).mpr hblank)]
    simp [hblank, eq_comm]
  · rw [if_neg (mt (Text.trim_isEmpty_iff host).mp hblank)]
    simp only [hblank, false_and, false_or, not_false_eq_true, true_and]
    split
    · rename_i reason hlookup
      constructor
      · intro herror
        exact ⟨reason, .refused hlookup, (Except.error.inj herror).symm⟩
      · rintro ⟨reason', hlookup' | hlookup', rfl⟩
        · cases hlookup.symm.trans hlookup'
          rfl
        · cases hlookup.symm.trans hlookup'
    · rename_i hlookup
      constructor
      · intro herror
        exact ⟨_, .nowhere hlookup, (Except.error.inj herror).symm⟩
      · rintro ⟨reason', hlookup' | hlookup', rfl⟩
        · cases hlookup.symm.trans hlookup'
        · rfl
    · rename_i address rest hlookup
      refine ⟨nofun, ?_⟩
      rintro ⟨reason', hlookup' | hlookup', -⟩
      · cases hlookup.symm.trans hlookup'
      · cases hlookup.symm.trans hlookup'

end Net

end ProcessorHost
