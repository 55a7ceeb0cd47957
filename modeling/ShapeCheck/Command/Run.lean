import ShapeCheck.Command.Arguments
import ShapeCheck.Command.Response
import ShapeCheck.Log.Filter

/-!
# Running the program

`run` takes the arguments, the log filter and the input, and gives the exit code and what is written.
Answers go to the output; errors and events go to the error output, a document a line. A wrong
argument is found before a wrong filter, and both before any work.
-/

namespace ShapeCheck.Command

open Json

/-- The name of the variable that holds the log filter. -/
def filterVariable : String := "SHAPEQ_LOG"

/-- What is written to the error output. -/
inductive Notice where
  | usage (cause : UsageError)
  | filter
  | response (payload : Output)
  | event (e : Log.Event)

/-- The document of wrong use. -/
def usageOutput (message : String) (details : List (String × Output)) : Output :=
  .record
    [("error", .text "input_usage_error"), ("message", .text message), ("code", .count 3),
     ("details", .record details)]

/-- The document of a field. -/
def fieldOutput : Log.Field → Output
  | .text s => .text s
  | .count n => .count n

/-- The document of an event. -/
def eventOutput (e : Log.Event) : Output :=
  .record
    [("level", .text e.level.name),
     ("fields", .record (e.fields.map fun (name, field) => (name, fieldOutput field))),
     ("target", .text e.target)]

/-- The document that is written. -/
def Notice.output : Notice → Output
  | .usage cause => usageOutput cause.message [("kind", .text "cli_parse_error")]
  | .filter => usageOutput ("invalid " ++ filterVariable ++ " filter")
      [("env", .text filterVariable)]
  | .response payload => payload
  | .event e => eventOutput e

/-- What running the program comes to. -/
structure Result where
  exitCode : Nat
  output : String := ""
  notices : List Notice := []

/-- The version of the program. -/
def versionText : String := "shapeq 0.1.0\n"

/-- How the program is used. -/
def helpText : String :=
  "Check values against constraint directive strings\n\n" ++
  "Usage: shapeq <COMMAND>\n\n" ++
  "Commands:\n" ++
  "  check     Validate every input value against a constraint string\n" ++
  "  describe  Render the constraint a directive string builds for a type\n" ++
  "  help      Print this message or the help of the given subcommand(s)\n"

/-- An answer as it is written (`emit_response`), behind the events: errors go to the error
output. -/
def Result.ofResponse (r : Response) (events : List Notice) : Result :=
  if r.exitCode = 0 ∨ r.exitCode = 2 then
    { exitCode := r.exitCode, output := r.payload.line ++ "\n", notices := events }
  else { exitCode := r.exitCode, notices := events ++ [.response r.payload] }

/-- The notices of the events that a filter shows. Without a filter there are none. -/
def shown (filter : Option Log.Filter) (events : List Log.Event) : List Notice :=
  match filter with
  | none => []
  | some f => (events.filter f.shows).map .event

/-- What a request comes to. -/
def Request.result (filter : Option Log.Filter) (supply : Supply) : Request → Result
  | .version => { exitCode := 0, output := versionText }
  | .help => { exitCode := 0, output := helpText }
  | .check q => .ofResponse (q.response supply) (shown filter (q.events supply))
  | .describe q => .ofResponse q.response (shown filter q.events)

/-- Whether a request is answered without any work. -/
def Request.isInformation : Request → Bool
  | .version => true
  | .help => true
  | .check _ => false
  | .describe _ => false

/-- Runs the program: on its arguments, the text of the log filter if there is one, and the input
that a request looks for (`run`). -/
def run (arguments : List String) (filter : Option String) (supply : CheckRequest → Supply) :
    Result :=
  match Request.ofArguments arguments with
  | .error cause => { exitCode := 3, notices := [.usage cause] }
  | .ok request =>
    match filter.map Log.Filter.ofText?, request.isInformation with
    | some none, false => { exitCode := 3, notices := [.filter] }
    | parsed, _ =>
      let input := match request with
        | .check q => supply q
        | _ => .bytes []
      request.result parsed.join input

end ShapeCheck.Command
