import ProcessorHost.Keyed
import ProcessorHost.Numeric.Shortest

/-!
# JSON values

Objects are lists of members in the order in which they are written. An object that was
read, or filled with `Keyed.insert`, has its keys in increasing order and each of them
once.
-/

namespace ProcessorHost.Json

/-- A number: an integer that fits 64 bits with or without a sign, or a binary number. -/
inductive Number
  | integer (n : Int)
  | binary (x : Binary64)
deriving DecidableEq, Repr, Inhabited

inductive Value
  | null
  | bool (b : Bool)
  | number (n : Number)
  | text (s : String)
  | array (items : List Value)
  | object (members : List (String × Value))
deriving Repr, Inhabited

/-- The members of an object. -/
abbrev Members := List (String × Value)

namespace Value

def natural (n : Nat) : Value := number (.integer n)

def string? : Value → Option String
  | text s => some s
  | _ => none

end Value

end ProcessorHost.Json
