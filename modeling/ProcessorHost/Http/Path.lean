import ProcessorHost.Json.Printer

/-!
# Segments of paths

A segment may hold any text: bytes can be written as a percent sign and two hexadecimal
digits. A percent sign that two digits do not follow stands for itself.
-/

namespace ProcessorHost.Http

/-- The value of a hexadecimal digit. -/
def hexValue? (b : UInt8) : Option UInt8 :=
  if 48 ≤ b ∧ b ≤ 57 then some (b - 48)
  else if 65 ≤ b ∧ b ≤ 70 then some (b - 55)
  else if 97 ≤ b ∧ b ≤ 102 then some (b - 87)
  else none

/-- The byte that three bytes of a segment stand for. -/
def escaped? (c a b : UInt8) : Option UInt8 :=
  if c = 37 then do
    let high ← hexValue? a
    let low ← hexValue? b
    return 16 * high + low
  else none

/-- The bytes that the bytes of a segment stand for. -/
def percentDecode : List UInt8 → List UInt8
  | [] => []
  | [c] => [c]
  | [c, a] => [c, a]
  | c :: a :: b :: rest =>
    match escaped? c a b with
    | some byte => byte :: percentDecode rest
    | none => c :: percentDecode (a :: b :: rest)

/-- The text of a segment, if its bytes are one. -/
def segmentText? (segment : String) : Option String :=
  Json.textOf? (percentDecode (Json.bytesOf segment))

end ProcessorHost.Http
