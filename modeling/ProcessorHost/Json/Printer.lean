import ProcessorHost.Json.Value

/-!
# Written form of JSON values

Values are written without blanks. In a text the quotation mark, the backslash and the
control characters below the space are escaped and every other byte stands for itself.
-/

namespace ProcessorHost.Json

/-- The byte of an ASCII character. -/
def ascii (c : Char) : UInt8 := c.toUInt8

/-- The bytes of a text. -/
def bytesOf (s : String) : List UInt8 := s.toUTF8.toList

/-- The text of a sequence of bytes, if it is one. -/
def textOf? (bytes : List UInt8) : Option String := String.fromUTF8? ⟨bytes.toArray⟩

/-- The lower-case hexadecimal digit of a number below sixteen. -/
def hexDigit (n : UInt8) : UInt8 := if n < 10 then 48 + n else 87 + n

/-- One byte of a text as it is written. -/
def escapedByte (b : UInt8) : List UInt8 :=
  if b = ascii '"' then [ascii '\\', ascii '"']
  else if b = ascii '\\' then [ascii '\\', ascii '\\']
  else if b = 8 then [ascii '\\', ascii 'b']
  else if b = 9 then [ascii '\\', ascii 't']
  else if b = 10 then [ascii '\\', ascii 'n']
  else if b = 12 then [ascii '\\', ascii 'f']
  else if b = 13 then [ascii '\\', ascii 'r']
  else if b < 32 then
    [ascii '\\', ascii 'u', ascii '0', ascii '0', hexDigit (b / 16), hexDigit (b % 16)]
  else [b]

/-- The bytes of a text between quotation marks. -/
def textBytes (s : String) : List UInt8 :=
  ascii '"' :: ((bytesOf s).flatMap escapedByte ++ [ascii '"'])

namespace Number

def written : Number → String
  | integer n => toString n
  | binary x => x.text

end Number

/-- The parts with a comma between neighbours. -/
def joined : List (List UInt8) → List UInt8
  | [] => []
  | [part] => part
  | part :: rest => part ++ ascii ',' :: joined rest

/-- Puts a key before a written value. -/
def memberBytes (key : String) (value : List UInt8) : List UInt8 :=
  textBytes key ++ ascii ':' :: value

namespace Value

mutual

/-- The bytes of a value. -/
def bytes : Value → List UInt8
  | null => bytesOf "null"
  | bool true => bytesOf "true"
  | bool false => bytesOf "false"
  | number n => bytesOf n.written
  | text s => textBytes s
  | array items => ascii '[' :: (joined (itemBytes items) ++ [ascii ']'])
  | object members => ascii '{' :: (joined (memberList members) ++ [ascii '}'])

/-- The bytes of each item of an array. -/
def itemBytes : List Value → List (List UInt8)
  | [] => []
  | item :: rest => item.bytes :: itemBytes rest

/-- The bytes of each member of an object. -/
def memberList : List (String × Value) → List (List UInt8)
  | [] => []
  | (key, value) :: rest => memberBytes key value.bytes :: memberList rest

end

/-- The written form as a text. -/
def written (v : Value) : String := (textOf? v.bytes).getD ""

end Value

end ProcessorHost.Json
