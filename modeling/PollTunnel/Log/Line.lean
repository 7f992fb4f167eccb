import PollTunnel.Calendar
import PollTunnel.Log

/-!
# Lines of the log

`Log.Event.line` writes an event on one line, either as a JSON object or for people to read, with
the moment at which it happened.
-/

set_option autoImplicit false

namespace PollTunnel
namespace Log

/-- The moment that is so many microseconds behind the beginning of 1970. -/
def stamp (micros : Nat) : String :=
  let seconds := micros / 1000000
  let day := Day.ofCount (seconds / TimeOfDay.daySeconds)
  TimeOfDay.padded 4 day.year ++ "-" ++ TimeOfDay.padded 2 day.month ++ "-" ++ TimeOfDay.padded 2 day.day ++
    "T" ++ (TimeOfDay.ofSeconds seconds).text ++ "." ++ TimeOfDay.padded 6 (micros % 1000000) ++ "Z"

/-- What an event is said to come from. -/
def target : String := "devtunnel"

/-- A field's value for people to read. -/
def Value.plain : Value → String
  | .text s => s
  | .number n => toString n

/-- An event for people to read. -/
def Event.plain (e : Event) : String :=
  e.message ++ String.join (e.fields.map fun (name, v) => " " ++ name ++ "=" ++ v.plain)

/-- The line for an event at a moment. -/
def Event.line (json : Bool) (micros : Nat) (e : Event) : String :=
  if json then
    (Json.object [("timestamp", .string (stamp micros)), ("level", .string e.level.name),
      ("fields", e.json), ("target", .string target)]).compact
  else
    stamp micros ++ " " ++ String.ofList (List.replicate (5 - e.level.name.length) ' ') ++
      e.level.name ++ " " ++ target ++ ": " ++ e.plain

end Log
end PollTunnel
