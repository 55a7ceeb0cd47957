import ShapeCheck.Check.Report
import ShapeCheck.Command.Request
import ShapeCheck.Input.Reader
import ShapeCheck.Json.Output

/-!
# Responses

The answers to requests for checks and descriptions: an exit code and a document. The exit code is
zero if all is well, two if a value failed, and three if the input cannot be read.
-/

namespace ShapeCheck.Command

open Input Json

/-- The answer to a request. -/
structure Response where
  exitCode : Nat
  payload : Output
  deriving Repr

/-- What was found where input was looked for. -/
inductive Supply where
  /-- The bytes of the input. -/
  | bytes (content : List UInt8)
  /-- The file cannot be opened for a reason. -/
  | unopened (reason : String)
  /-- The input can be opened, but not read, for a reason. -/
  | unreadable (reason : String)

/-- The document that says why input cannot be used. -/
def inputError (message : String) : Output :=
  .record [("error", .text "input_usage_error"), ("message", .text message)]

/-- The message of input that can be opened and not read. -/
def unreadableMessage (format : Format) (reason : String) : String :=
  match format with
  | .json => "json parse error: " ++ reason
  | .yaml => InputError.yaml.message
  | .jsonl => "io error: " ++ reason

/-- The message of a file that cannot be opened. -/
def unopenedMessage (path reason : String) : String :=
  "failed to open input file " ++ "`" ++ path ++ "`: " ++ reason

/-- The document of a failure. -/
def failureOutput (f : Failure) : Output :=
  .record
    [("path", .text f.path), ("kind", .text f.violation.kind),
     ("message", .text f.violation.message)]

/-- The document of a report. A seed is named only if one was given. -/
def reportOutput (r : Report) : Output :=
  .record
    (("label", .ofText? r.label) ::
      ((r.seed.map fun seed => ("seed", Output.count seed.toNat)).toList ++
        [("matched", .flag r.matched), ("checked_count", .count r.checkedCount),
         ("failure_count", .count r.failureCount),
         ("failures", .list (r.failures.map failureOutput))]))

namespace CheckRequest

/-- The values to check, or why there are none (`load_input_values`). -/
def values (q : CheckRequest) (supply : Supply) : Except String (List Value) :=
  match Format.resolve q.format q.path with
  | .error e => .error e.message
  | .ok format =>
    match supply with
    | .bytes content => (readValues format content).mapError InputError.message
    | .unopened reason => .error (unopenedMessage (q.path.getD "") reason)
    | .unreadable reason => .error (unreadableMessage format reason)

/-- The checker for a request. -/
def checker (q : CheckRequest) : Checker := { seed := q.seed }

/-- The answer to a request for a check (`report_response`). Writing a report as a document is total
here, so the answer for a report that cannot be written, with the exit code 1, is left out: that no
check has this code holds by construction. -/
def response (q : CheckRequest) (supply : Supply) : Response :=
  match q.values supply with
  | .error message => ⟨3, inputError message⟩
  | .ok values =>
    let report := q.checker.report values q.constraint q.declared q.label
    ⟨if report.matched then 0 else 2, reportOutput report⟩

/-- The events of a check. -/
def events (q : CheckRequest) (supply : Supply) : List Log.Event :=
  match q.values supply with
  | .error _ => []
  | .ok values => q.checker.reportEvents values q.constraint q.declared

end CheckRequest

namespace DescribeRequest

/-- The type of a request. -/
def valueType (q : DescribeRequest) : ValueType := .ofName q.declared.toList

/-- The answer to a request for a description (`describe`). A text that builds nothing has none. -/
def response (q : DescribeRequest) : Response :=
  let constraint := parse q.valueType q.constraint.toList
  { exitCode := 0
    payload := .record
      [("type", .text q.valueType.name),
       ("description", .ofText? (constraint.map (·.describe))),
       ("note", .ofText? (constraint.bind (·.note))),
       ("bad_name", .ofText? (constraint.bind (·.badName)))] }

/-- The events of a description. -/
def events (q : DescribeRequest) : List Log.Event := parseEvents q.valueType q.constraint.toList

end DescribeRequest

end ShapeCheck.Command
