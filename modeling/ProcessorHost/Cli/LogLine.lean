import ProcessorHost.Json.Printer
import ProcessorHost.Log

/-!
# Lines of a log

A log record is written as one line, either for people or as a JSON object.
-/

namespace ProcessorHost

namespace LogValue

def value : LogValue → Json.Value
  | text s => .text s
  | count n => .natural n
  | measure x => .number (.binary x)

/-- The value as people read it: texts without quotes. -/
def shown : LogValue → String
  | text s => s
  | v => v.value.written

end LogValue

namespace LogRecord

/-- The line for people: the level, the message, and the fields by name. -/
def plainLine (r : LogRecord) : String :=
  String.intercalate " " (r.level.name :: r.message ::
    r.fields.map fun (name, v) => name ++ "=" ++ v.shown)

def value (r : LogRecord) : Json.Value :=
  let fields := r.fields.map fun (name, v) => (name, v.value)
  .object [("level", .text r.level.name),
    ("fields", .object (("message", .text r.message) :: fields))]

/-- One line of a log. -/
def line (asJson : Bool) (r : LogRecord) : String :=
  if asJson then r.value.written else r.plainLine

end LogRecord

end ProcessorHost
