import ProcessorHost.Text.Graphic

/-!
# Quoted texts for diagnostics

`quoted` writes a text between double quotes so that every character of it can be seen;
`Entry` and `record` write a value with named fields around such texts.
-/

namespace ProcessorHost.Text

/-- Lower-case hexadecimal digits without leading zeros. -/
def hex (n : Nat) : String := String.ofList (Nat.toDigits 16 n)

/-- One character of a quoted text. -/
def quotedChar (c : Char) : String :=
  if c = '"' then "\\\""
  else if c = '\\' then "\\\\"
  else if c = '\n' then "\\n"
  else if c = '\r' then "\\r"
  else if c = '\t' then "\\t"
  else if c.toNat = 0 then "\\0"
  else if isGraphic c then String.singleton c
  else "\\u\x7b" ++ hex c.toNat ++ "\x7d"

/-- A text between double quotes, with what cannot be seen written as an escape. -/
def quoted (s : String) : String :=
  "\"" ++ String.join (s.toList.map quotedChar) ++ "\""

/-- A text that may be absent. -/
def quotedOption (s : Option String) : String :=
  match s with
  | none => "None"
  | some t => "Some(" ++ quoted t ++ ")"

/-- Whether all fields of a value are shown. -/
inductive Coverage
  | complete
  | partly
deriving DecidableEq

/-- A value by its type's name and its fields. -/
def record (name : String) (fields : List (String × String)) (coverage : Coverage) : String :=
  let shown := fields.map fun (field, value) => field ++ ": " ++ value
  let parts := match coverage with
    | .complete => shown
    | .partly => shown ++ [".."]
  if parts.isEmpty then name
  else name ++ " \x7b " ++ String.intercalate ", " parts ++ " \x7d"

end ProcessorHost.Text
