import ShapeCheck.Decimal.Reader
import ShapeCheck.Log.Event
import ShapeCheck.Pattern.Basic
import ShapeCheck.Text.Blank
import ShapeCheck.Text.Search
import ShapeCheck.Unicode.Alphanumeric

/-!
# Log filters

A filter is a list of rules, separated by commas: a level, a target, or `target[span]=level` in its
parts. A target stands for all targets that begin with it. Of the rules that concern an event, the
most specific one says up to which level events are shown.
-/

namespace ShapeCheck.Log

/-- The most detailed level that is shown, or none. -/
abbrev Limit := Option Level

/-- Whether events of a level are shown. -/
def Limit.admits (limit : Limit) (level : Level) : Bool :=
  limit.any fun most => level.rank ≤ most.rank

/-- The limit of a name in any letter case, or of a number. -/
def Limit.ofName? (text : List Char) : Option Limit :=
  match Decimal.readLength? text with
  | some 0 => some none
  | some 1 => some (some .error)
  | some 2 => some (some .warn)
  | some 3 => some (some .info)
  | some 4 => some (some .debug)
  | some 5 => some (some .trace)
  | some _ => none
  | none =>
    match String.ofList (text.map Unicode.toLowerAscii) with
    | "off" => some none
    | "error" => some (some .error)
    | "warn" => some (some .warn)
    | "info" => some (some .info)
    | "debug" => some (some .debug)
    | "trace" => some (some .trace)
    | _ => none

/-- A rule of a filter: what it concerns, and its limit. -/
structure Rule where
  target : Option (List Char) := none
  /-- The name of a span that an event has to lie in. -/
  span : Option (List Char) := none
  /-- Names of fields that an event has to have. -/
  fieldNames : List String := []
  /-- Whether a field has to have a certain value. -/
  valued : Bool := false
  limit : Limit := some .trace
  deriving Repr

/-- A stage of reading a rule; each begins behind the sign before it. -/
inductive RuleStage where
  | start
  | word
  | span (start : Nat)
  | field (start : Nat)
  | closing
  | behind
  | level (start : Nat)

/-- The characters of a text from one place to another. -/
def slice (text : List Char) (start stop : Nat) : List Char := (text.take stop).drop start

/-- The limit that stands behind an equals sign; nothing there stands for every level. -/
def behindSign? (text : List Char) : Option Limit :=
  if text.isEmpty then some (some .trace) else Limit.ofName? text

/-- A rule that is one word: a limit, or else a target. -/
def Rule.ofWord (text : List Char) : Rule :=
  match Limit.ofName? text with
  | some limit => { limit }
  | none => { target := some text }

/-- Whether a text can stand for a value that a field has to have. Flags and numbers stand for
themselves; every other text has to be a pattern that `Pattern.isMatchable` admits. -/
def isValue (text : List Char) : Bool :=
  text = "true".toList || text = "false".toList || (Decimal.readFloat? text).isSome ||
    Pattern.isMatchable text

/-- A rule with one more field, which may have to have a value. -/
def Rule.addField? (r : Rule) (text : List Char) : Option Rule :=
  if text.isEmpty then none
  else
    let name := String.ofList (text.takeWhile (· ≠ '='))
    let r := { r with fieldNames := r.fieldNames ++ [name] }
    match (Text.cutAt? '=' text).map Prod.snd with
    | none => some r
    | some value =>
      if isValue (value.takeWhile (· ≠ '=')) then some { r with valued := true } else none

/-- Reads on in a rule. The places of its parts are counted from behind the blanks before the rule,
but `text`, in which the parts are looked up, still has these blanks. -/
def readRule (text : List Char) (r : Rule) : RuleStage → Nat → List Char → Option Rule
  | .start, _, [] => none
  | .word, _, [] => some (.ofWord text)
  | .span _, _, [] => none
  | .field _, _, [] => none
  | .closing, _, [] => none
  | .behind, _, [] => some r
  | .level start, _, [] => (behindSign? (text.drop start)).map fun limit => { r with limit }
  | .start, i, c :: rest =>
    if c = '[' then readRule text r (.span (i + 1)) (i + 1) rest
    else if c = '-' ∨ c = ':' ∨ c = '_' ∨ Unicode.isAlphanumeric c then
      readRule text r .word (i + 1) rest
    else none
  | .word, i, c :: rest =>
    if c = '=' then
      readRule text { r with target := some (text.take i) } (.level (i + 1)) (i + 1) rest
    else if c = '[' then
      readRule text { r with target := some (text.take i) } (.span (i + 1)) (i + 1) rest
    else readRule text r .word (i + 1) rest
  | .span start, i, c :: rest =>
    if c = ']' then
      readRule text { r with span := some (slice text start i) } .behind (i + 1) rest
    else if c = '{' then
      let name := slice text start i
      readRule text { r with span := if name.isEmpty then none else some name }
        (.field (i + 1)) (i + 1) rest
    else readRule text r (.span start) (i + 1) rest
  | .field start, i, c :: rest =>
    if c = '}' then
      match r.addField? (slice text start i) with
      | some r => readRule text r .closing (i + 1) rest
      | none => none
    else readRule text r (.field start) (i + 1) rest
  | .closing, i, c :: rest => if c = ']' then readRule text r .behind (i + 1) rest else none
  | .behind, i, c :: rest =>
    if c = '=' then readRule text r (.level (i + 1)) (i + 1) rest else none
  | .level start, i, _ :: rest => readRule text r (.level start) (i + 1) rest

/-- Reads a rule. -/
def Rule.ofText? (text : List Char) : Option Rule := readRule text {} .start 0 (Text.trim text)

/-- A list of rules. -/
structure Filter where
  rules : List Rule := []
  deriving Repr

namespace Filter

/-- Reads a filter. -/
def ofText? (text : String) : Option Filter :=
  let parts := (text.toList.splitOn ',').filter fun part => !part.isEmpty
  (parts.mapM Rule.ofText?).map .mk

end Filter

namespace Rule

/-- Whether a rule can concern an event outside of all spans. -/
def isStatic (r : Rule) : Bool := r.span.isNone && !r.valued

/-- Whether a rule concerns an event. -/
def concerns (r : Rule) (e : Event) : Bool :=
  r.isStatic && (r.target.all fun t => t.isPrefixOf e.target.toList) &&
    r.fieldNames.all fun name => e.fields.any fun f => f.1 = name

/-- The length of the target; a rule without one comes last. -/
def targetSize (r : Rule) : Nat :=
  match r.target with
  | some t => (String.ofList t).utf8ByteSize + 1
  | none => 0

/-- Whether a rule, which comes later, has precedence over another one: longer targets come first,
then more fields, then greater names of fields. -/
def overrides (r s : Rule) : Bool :=
  if r.targetSize ≠ s.targetSize then s.targetSize < r.targetSize
  else if r.fieldNames.length ≠ s.fieldNames.length then s.fieldNames.length < r.fieldNames.length
  else !(r.fieldNames < s.fieldNames)

end Rule

namespace Filter

/-- The rule that decides on an event. -/
def decisive? (f : Filter) (e : Event) : Option Rule :=
  (f.rules.filter fun r => r.concerns e).foldl
    (fun best r =>
      match best with
      | none => some r
      | some s => if r.overrides s then some r else some s)
    none

/-- Whether an event is shown. -/
def shows (f : Filter) (e : Event) : Bool := (f.decisive? e).any fun r => r.limit.admits e.level

end Filter

end ShapeCheck.Log
