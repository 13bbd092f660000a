/-!
# Texts without control sequences

Terminals take some characters of a text as commands: single control characters, and the
sequences that begin with an escape character. `visible` leaves them out of a text. Blanks
among the control characters are kept, and one in the middle of a sequence ends it.
-/

namespace ProcessorHost.Text

/-- Where in a text a terminal is, as far as commands are concerned. -/
inductive ControlState
  /-- Outside of all sequences. -/
  | plain
  /-- After an escape character. -/
  | escape
  /-- After an escape character and a character that another one has to follow. -/
  | escapeTail
  /-- Among the parameters of a command. -/
  | command
  /-- At the head of a device command, before its parameters. -/
  | deviceHead
  | deviceParameters
  | deviceTail
  /-- In a text for a device, or one that nobody reads. -/
  | content
  /-- In a text for the operating system. -/
  | system
deriving DecidableEq, Repr

namespace ControlState

/-- Whether blanks that are control characters end a sequence and are kept. -/
def yields : ControlState → Bool
  | plain | escape | escapeTail | command => true
  | _ => false

/-- The state after a character that is neither a control character nor outside of ASCII,
given by its number. -/
def afterPrinted (n : Nat) : ControlState → ControlState
  | plain => plain
  | escape =>
    if n < 0x30 then escapeTail
    else if n = 0x50 then deviceHead
    else if n = 0x5b then command
    else if n = 0x5d then system
    else if n = 0x58 ∨ n = 0x5e ∨ n = 0x5f then content
    else plain
  | escapeTail => if n < 0x30 then escapeTail else plain
  | command => if n < 0x40 then command else plain
  | deviceHead =>
    if n < 0x30 then deviceTail else if n < 0x40 then deviceParameters else content
  | deviceParameters =>
    if n < 0x30 then deviceTail else if n < 0x3c then deviceParameters else content
  | deviceTail => if n < 0x30 then deviceTail else content
  | content => content
  | system => system

/-- Whether the byte that ends a text for a device is among those of a character. -/
def endsContent (c : Char) : Bool := (String.utf8EncodeChar c).contains 0x9c

/-- The state after a character, and whether the character is kept. -/
def read (state : ControlState) (c : Char) : ControlState × Bool :=
  let n := c.toNat
  if n = 0x1b then (escape, false)
  else if n = 0x18 ∨ n = 0x1a then (plain, false)
  else if n = 0x09 ∨ n = 0x0a ∨ n = 0x0c ∨ n = 0x0d then
    if state.yields then (plain, true) else (state, false)
  else if n < 0x20 ∨ n = 0x7f then
    (if state = system ∧ n = 0x07 then plain else state, false)
  else if n < 0x7f then (state.afterPrinted n, state = plain)
  else
    match state with
    | plain => (plain, true)
    | content => (if endsContent c then plain else content, false)
    | _ => (state, false)

end ControlState

/-- The characters that are kept of a text that goes on in a state. -/
def visibleFrom (state : ControlState) : List Char → List Char
  | [] => []
  | c :: rest =>
    match state.read c with
    | (next, true) => c :: visibleFrom next rest
    | (next, false) => visibleFrom next rest

/-- A text without its control characters and sequences. -/
def visible (s : String) : String := String.ofList (visibleFrom .plain s.toList)

end ProcessorHost.Text
