import ShapeCheck.Pattern.Lexer

/-!
# Reading patterns

`Syntax.parse?` reads a whole pattern. The groups that are open are kept on a list, so that reading
goes forward one part at a time; a set in brackets is one part.
-/

namespace ShapeCheck.Pattern

/-- The items of a set as one set. -/
def SetExpr.ofItems (items : List SetExpr) : SetExpr :=
  match items with
  | [item] => item
  | items => .union items

/-- The set whose latest operand has the given items, latest first. -/
def closeOperand (pending : Option (SetOperator × SetExpr)) (items : List SetExpr) : SetExpr :=
  let last := SetExpr.ofItems items.reverse
  match pending with
  | some (op, left) => .operation op left last
  | none => last

/-- Reads one character or class inside brackets. -/
def readSetItem (verbose : Bool) : List Char → Read Escape
  | [] => none
  | '\\' :: rest => readEscape verbose rest
  | c :: rest => some (.literal ⟨c, false⟩, rest)

/-- An escape as an item of a set; conditions are none. -/
def Escape.setItem? : Escape → Option SetExpr
  | .literal l => some (.literal l)
  | .named c negated => some (.named c negated)
  | .assertion _ => none

/-- The next character but one, where blanks are skipped in verbose patterns. -/
def peekBehind (verbose : Bool) (rest : List Char) : Option Char :=
  if verbose then
    match rest.dropWhile Text.isBlank with
    | '#' :: more => (more.dropWhile Text.isBlank).head?
    | more => more.head?
  else rest.head?

/-- Reads an item or a range of characters inside brackets. -/
def readSetRange (verbose : Bool) (text : List Char) : Read SetExpr :=
  match readSetItem verbose text with
  | none => none
  | some (first, rest) =>
    match skip verbose rest with
    | [] => none
    | '-' :: more =>
      if peekBehind verbose more = some ']' ∨ peekBehind verbose more = some '-' then
        first.setItem?.map (·, '-' :: more)
      else
        match first, (advance? verbose more).bind (readSetItem verbose) with
        | .literal low, some (.literal high, rest) =>
          if low.char ≤ high.char then some (.range low high, rest) else none
        | _, _ => none
    | rest => first.setItem?.map (·, rest)

/-- Reads a class between colons, from the text behind its opening bracket. -/
def readBracketClass (rest : List Char) : Read SetExpr :=
  match rest with
  | ':' :: rest =>
    let (negated, rest) :=
      match rest with
      | '^' :: rest => (true, rest)
      | rest => (false, rest)
    match Text.cutAt? ':' rest with
    | some (name, ']' :: rest) =>
      (bracketClasses.lookup (String.ofList name)).map fun codes =>
        (.named (.bracket codes) negated, rest)
    | _ => none
  | _ => none

/-- Reads the hyphens that begin a set and stand for themselves. -/
def readHyphens (verbose : Bool) : Nat → List Char → Read (List SetExpr)
  | 0, _ => none
  | fuel + 1, text =>
    match text with
    | '-' :: rest =>
      (advance? verbose rest).bind fun rest =>
        (readHyphens verbose fuel rest).map fun (items, rest) =>
          (.literal ⟨'-', false⟩ :: items, rest)
    | rest => some ([], rest)

/-- Reads the beginning of a set behind its opening bracket: whether it is denied, and the
characters that stand for themselves only here, latest first. -/
def readSetOpening (verbose : Bool) (rest : List Char) : Read (Bool × List SetExpr) :=
  (advance? verbose rest).bind fun text =>
    let start : Option (Bool × List Char) :=
      match text with
      | '^' :: rest => (advance? verbose rest).map (true, ·)
      | text => some (false, text)
    start.bind fun (negated, text) =>
      (readHyphens verbose (text.length + 1) text).bind fun (hyphens, text) =>
        match hyphens, text with
        | [], ']' :: rest =>
          (advance? verbose rest).map fun rest => ((negated, [.literal ⟨']', false⟩]), rest)
        | hyphens, text => some ((negated, hyphens.reverse), text)

/-- Reads the rest of a set up to its closing bracket. `items` are those of the latest operand,
latest first, and `pending` is the operation that waits for it. -/
def readSetBody (verbose : Bool) :
    Nat → Option (SetOperator × SetExpr) → List SetExpr → List Char → Read SetExpr
  | 0, _, _, _ => none
  | fuel + 1, pending, items, text =>
    match skip verbose text with
    | [] => none
    | ']' :: rest => some (closeOperand pending items, rest)
    | '[' :: rest =>
      match readBracketClass rest with
      | some (item, rest) => readSetBody verbose fuel pending (item :: items) rest
      | none =>
        (readSetOpening verbose rest).bind fun ((negated, start), rest) =>
          (readSetBody verbose fuel none start rest).bind fun (inner, rest) =>
            readSetBody verbose fuel pending (.bracketed inner negated :: items) rest
    | '&' :: '&' :: rest =>
      readSetBody verbose fuel (some (.inter, closeOperand pending items)) [] rest
    | '-' :: '-' :: rest =>
      readSetBody verbose fuel (some (.diff, closeOperand pending items)) [] rest
    | '~' :: '~' :: rest =>
      readSetBody verbose fuel (some (.symmDiff, closeOperand pending items)) [] rest
    | text =>
      (readSetRange verbose text).bind fun (item, rest) =>
        readSetBody verbose fuel pending (item :: items) rest

/-- Reads a set behind its opening bracket. -/
def readSet (verbose : Bool) (rest : List Char) : Read Syntax :=
  (readSetOpening verbose rest).bind fun ((negated, start), rest) =>
    (readSetBody verbose (rest.length + 1) none start rest).map fun (inner, rest) =>
      (.bracketed inner negated, rest)

/-- A list of parts as one pattern. -/
def Syntax.ofParts (parts : List Syntax) : Syntax :=
  match parts with
  | [] => .empty
  | [e] => e
  | es => .concat es

/-- What has been read of a group: finished alternatives and the parts of the current one, both
latest first. -/
structure Branches where
  finished : List Syntax := []
  parts : List Syntax := []

namespace Branches

/-- Adds a part to the current alternative. -/
def push (b : Branches) (e : Syntax) : Branches := { b with parts := e :: b.parts }

/-- Ends the current alternative and begins a new one. -/
def split (b : Branches) : Branches := ⟨Syntax.ofParts b.parts.reverse :: b.finished, []⟩

/-- The pattern of a group. -/
def close (b : Branches) : Syntax :=
  let last := Syntax.ofParts b.parts.reverse
  if b.finished.isEmpty then last else .alternation (last :: b.finished).reverse

end Branches

/-- A group that is open: how it began, what was read before it, and whether the text around it is
verbose. -/
structure OpenGroup where
  kind : GroupKind
  before : Branches
  verbose : Bool

/-- How far a pattern has been read. -/
structure ReadState where
  current : Branches := {}
  groups : List OpenGroup := []
  verbose : Bool := false
  /-- The names of the groups so far. -/
  names : List (List Char) := []

namespace ReadState

/-- Adds a part. -/
def push (s : ReadState) (e : Syntax) : ReadState := { s with current := s.current.push e }

/-- Opens a group. -/
def openGroup (s : ReadState) (kind : GroupKind) (verbose : Bool) : ReadState :=
  { s with current := {}, groups := ⟨kind, s.current, s.verbose⟩ :: s.groups, verbose := verbose }

/-- Closes the innermost group; none if no group is open. -/
def closeGroup? (s : ReadState) : Option ReadState :=
  match s.groups with
  | [] => none
  | g :: rest =>
    some { s with
      current := g.before.push (.group g.kind s.current.close), groups := rest, verbose := g.verbose }

/-- Repeats the latest part; none if there is nothing to repeat. A question mark behind the count
says that few repetitions are preferred. -/
def repeatLast? (s : ReadState) (min : Nat) (max : Option Nat) (rest : List Char) : Read ReadState :=
  let (greedy, rest) :=
    match rest with
    | '?' :: rest => (false, rest)
    | rest => (true, rest)
  match s.current.parts with
  | [] => none
  | e :: parts =>
    match e with
    | .empty => none
    | .flags _ => none
    | e =>
      some
        ({ s with current := { s.current with parts := .repetition e min max greedy :: parts } },
          rest)

/-- Opens a group with a name; none if the name is taken. -/
def openNamed? (s : ReadState) (rest : List Char) : Read ReadState :=
  (readGroupName rest).bind fun (name, rest) =>
    if s.names.contains name then none
    else some ({ s.openGroup .capture s.verbose with names := name :: s.names }, rest)

/-- Reads what stands behind an opening parenthesis. -/
def readOpening (s : ReadState) (rest : List Char) : Read ReadState :=
  match skip s.verbose rest with
  | '?' :: 'P' :: '<' :: rest => s.openNamed? rest
  | '?' :: '=' :: _ => none
  | '?' :: '!' :: _ => none
  | '?' :: '<' :: '=' :: _ => none
  | '?' :: '<' :: '!' :: _ => none
  | '?' :: '<' :: rest => s.openNamed? rest
  | '?' :: rest =>
    (readFlags [] true false rest).bind fun ((settings, last), rest) =>
      let verbose := (settings.lookup .verbose).getD s.verbose
      if last = ':' then some (s.openGroup (.flags settings) verbose, rest)
      else if settings.isEmpty then none
      else some ({ s.push (.flags settings) with verbose := verbose }, rest)
  | rest => some (s.openGroup .capture s.verbose, rest)

/-- Reads one part of a text that is not empty. -/
def readPart (s : ReadState) (c : Char) (rest : List Char) : Read ReadState :=
  match c with
  | '(' => s.readOpening rest
  | ')' => s.closeGroup?.map (·, rest)
  | '|' => some ({ s with current := s.current.split }, rest)
  | '[' => (readSet s.verbose rest).map fun (e, rest) => (s.push e, rest)
  | '?' => s.repeatLast? 0 (some 1) rest
  | '*' => s.repeatLast? 0 none rest
  | '+' => s.repeatLast? 1 none rest
  | '\x7b' =>
    (readCount s.verbose rest).bind fun ((min, max), rest) =>
      s.repeatLast? min max (skip s.verbose rest)
  | '.' => some (s.push .dot, rest)
  | '^' => some (s.push (.assertion .startLine), rest)
  | '$' => some (s.push (.assertion .endLine), rest)
  | '\\' =>
    (readEscape s.verbose rest).map fun (e, rest) =>
      match e with
      | .literal l => (s.push (.literal l), rest)
      | .assertion a => (s.push (.assertion a), rest)
      | .named c negated => (s.push (.named c negated), rest)
  | c => some (s.push (.literal ⟨c, false⟩), rest)

/-- Reads all parts. Each takes at least one character. -/
def readAll : Nat → ReadState → List Char → Option ReadState
  | 0, _, _ => none
  | fuel + 1, s, text =>
    match skip s.verbose text with
    | [] => some s
    | c :: rest => (s.readPart c rest).bind fun (s, rest) => readAll fuel s rest

end ReadState

/-- How deeply patterns may be nested. -/
def heightLimit : Nat := 250

/-- The form of a pattern, if it is well-formed and not nested too deeply. -/
def Syntax.parse? (text : List Char) : Option Syntax :=
  (ReadState.readAll (text.length + 1) {} text).bind fun s =>
    let e := s.current.close
    if s.groups.isEmpty && e.height ≤ heightLimit then some e else none

end ShapeCheck.Pattern
