import ShapeCheck.Constraint.Describe
import ShapeCheck.Directive.Basic
import ShapeCheck.Value.Literal

/-!
# Building constraints

A constraint is built in place: its rules adopt one directive after the other, and each time it is
said whether the directive was understood. One that is not is remembered, and one directive clears
the constraint and ends the work. `buildWith` goes through a list of directives this way, and
`parse` builds from a block of text. Constraints for elements come from shorter blocks inside the
argument of `each`.
-/

namespace ShapeCheck

open ShapeCheck.Text

/-! ## Setters -/

/-- What a setter leaves: the record, and whether the directive was understood. -/
structure Adopted (ρ : Type) where
  record : ρ
  understood : Bool

/-- A part of a record was set; `put` sets it back into the whole. -/
def Adopted.map {ρ τ : Type} (put : ρ → τ) (a : Adopted ρ) : Adopted τ :=
  ⟨put a.record, a.understood⟩

/-- The number that a directive gives as its argument; NaN is none. -/
def Directive.number? (d : Directive) : Option Float :=
  (d.argumentText?.bind fun text => Decimal.readFloat? (trim text)).filter fun x => !x.isNaN

/-- The length that a directive gives as its argument. -/
def Directive.length? (d : Directive) : Option Nat :=
  d.argumentText?.bind fun text => Decimal.readLength? (trim text)

/-- The text that a directive gives as its argument. -/
def Directive.string? (d : Directive) : Option String :=
  d.argumentText?.map String.ofList

/-- Sets a slot to what is given for it; without that the slot stays. -/
def Adopted.fill {α : Type} (slot given : Option α) : Adopted (Option α) :=
  match given with
  | some x => ⟨some x, true⟩
  | none => ⟨slot, false⟩

/-- Sets a bound to the number of a directive (`set_number`). -/
def Directive.setNumber (d : Directive) (slot : Option Float) : Adopted (Option Float) :=
  .fill slot d.number?

/-- Sets a bound to the length of a directive (`set_length`). -/
def Directive.setLength (d : Directive) (slot : Option Nat) : Adopted (Option Nat) :=
  .fill slot d.length?

/-- Sets the side of a rule that a polarity names to the text of a directive. -/
def Directive.setText (d : Directive) (negated : Bool) (rule : TwoSided String) :
    Adopted (TwoSided String) :=
  match d.string? with
  | some text => ⟨rule.set negated text, true⟩
  | none => ⟨rule, false⟩

/-- Rules for numbers after a directive (`apply_number`). -/
def NumberRules.adopt (r : NumberRules) (k : Keyword) (negated : Bool) (d : Directive) :
    Adopted NumberRules :=
  if negated then ⟨r, false⟩
  else
    match k with
    | .integer => ⟨{ r with integer := true }, true⟩
    | .positive => ⟨{ r with positive := true }, true⟩
    | .negative => ⟨{ r with negative := true }, true⟩
    | .notZero => ⟨{ r with notZero := true }, true⟩
    | .min => (d.setNumber r.min).map fun min => { r with min }
    | .max => (d.setNumber r.max).map fun max => { r with max }
    | .maxExclusive => (d.setNumber r.maxExclusive).map fun maxExclusive => { r with maxExclusive }
    | _ => ⟨r, false⟩

/-- Rules for texts after a directive (`apply_string`). -/
def StringRules.adopt (r : StringRules) (k : Keyword) (negated : Bool) (d : Directive) :
    Adopted StringRules :=
  match k with
  | .minLength =>
    if negated then ⟨r, false⟩
    else (d.setLength r.minLength).map fun minLength => { r with minLength }
  | .maxLength =>
    if negated then ⟨r, false⟩
    else (d.setLength r.maxLength).map fun maxLength => { r with maxLength }
  | .startsWith => (d.setText negated r.startsWith).map fun startsWith => { r with startsWith }
  | .endsWith => (d.setText negated r.endsWith).map fun endsWith => { r with endsWith }
  | .contains => (d.setText negated r.contains).map fun contains => { r with contains }
  | .match => (d.setText negated r.pattern).map fun pattern => { r with pattern }
  | _ => ⟨r, false⟩

/-- Adds names to a list of distinct names, keeping those that are new in order. -/
def addNames (known new : List String) : List String :=
  new.foldl (fun names name => if names.contains name then names else names ++ [name]) known

/-- Rules for objects after a directive (`apply_object`). -/
def ObjectRules.adopt (r : ObjectRules) (k : Keyword) (negated : Bool) (d : Directive) :
    Adopted ObjectRules :=
  match k with
  | .empty => ⟨if negated then { r with notEmpty := true } else { r with empty := true }, true⟩
  | .hasProperties =>
    let names := d.argumentItems.map String.ofList
    if names.isEmpty then ⟨r, false⟩
    else if negated then ⟨{ r with forbidden := addNames r.forbidden names }, true⟩
    else ⟨{ r with required := addNames r.required names }, true⟩
  | .instanceOf =>
    match d.string?.filter fun name => !name.isEmpty with
    | some name => ⟨{ r with instanceOf := r.instanceOf.set negated name }, true⟩
    | none => ⟨r, false⟩
  | _ =>
    if negated then ⟨r, false⟩
    else
      match k with
      | .notNested => ⟨{ r with notNested := true }, true⟩
      | .noPrototype => ⟨{ r with noPrototype := true }, true⟩
      | .canSerialize => ⟨{ r with canSerialize := true }, true⟩
      | .noFalseyProps => ⟨{ r with noFalseyProps := true }, true⟩
      | .noTruthyProps => ⟨{ r with noTruthyProps := true }, true⟩
      | _ => ⟨r, false⟩

/-! ## Element constraints -/

/-- One block in the argument of `each`: a type and the directives for elements of that type. -/
structure ElementBlock where
  /-- The whole block, trimmed and unquoted. -/
  text : List Char
  valueType : ValueType
  /-- What stands behind the first comma. -/
  rest : List Char

/-- The blocks of an argument of `each`: its parts between bars that are not blank
(`element_constraints`). -/
def ElementBlock.ofArgument (raw : List Char) : List ElementBlock :=
  (Directive.splitTopLevel '|' raw).filterMap fun part =>
    let text := stripQuotes (trim part)
    if text.isEmpty then none
    else
      match cutAt? ',' text with
      | some (typeName, rest) => some ⟨text, .ofName typeName, rest⟩
      | none => some ⟨text, .ofName text, []⟩

/-- How a block of directives for a type is parsed. -/
abbrev BlockParser := ValueType → List Char → Option Constraint

/-- The constraint of an element block; without directives it asks for nothing. -/
def ElementBlock.constraint? (nested : BlockParser) (b : ElementBlock) : Option Constraint :=
  nested b.valueType b.rest <|> Constraint.initial? b.valueType

/-- Sets the constraints of element blocks in order, so that the last one for a type stays
(`element_constraints`). -/
def ByType.setBlocks (nested : BlockParser) (m : ByType Constraint) (blocks : List ElementBlock) :
    ByType Constraint :=
  blocks.foldl
    (fun m b =>
      match b.constraint? nested with
      | some c => m.set b.valueType c
      | none => m)
    m

/-- The mode that a directive gives as its value, with its first two parameters. -/
def Directive.mode? (d : Directive) : Option (Mode × Option String × Option String) :=
  d.value.bind fun raw =>
    let text := stripQuotes (trim raw)
    let (name, params) :=
      match Directive.Call.parse? text with
      | some call => (call.name, call.params.map String.ofList)
      | none => (text, [])
    (Mode.ofName? name).map fun mode => (mode, params[0]?, params[1]?)

/-- Sets the mode of an array with its parameters (`set_check_type`). -/
def ArrayRules.setMode (r : ArrayRules Constraint) (d : Directive) :
    Adopted (ArrayRules Constraint) :=
  match d.mode? with
  | some (mode, first, second) => ⟨{ r with mode := some mode, first, second }, true⟩
  | none => ⟨r, false⟩

/-- Rules for arrays after a directive (`apply_array`). -/
def ArrayRules.adopt (nested : BlockParser) (r : ArrayRules Constraint) (k : Keyword)
    (negated : Bool) (d : Directive) : Adopted (ArrayRules Constraint) :=
  match k with
  | .contains =>
    match d.rawArgument? with
    | some raw => ⟨{ r with contains := r.contains.set negated (Value.ofLiteral raw) }, true⟩
    | none => ⟨r, false⟩
  | _ =>
    if negated then ⟨r, false⟩
    else
      match k with
      | .minLength => (d.setLength r.minLength).map fun minLength => { r with minLength }
      | .maxLength => (d.setLength r.maxLength).map fun maxLength => { r with maxLength }
      | .each =>
        match d.argumentText? with
        | some raw =>
          ⟨{ r with elements := r.elements.setBlocks nested (ElementBlock.ofArgument raw) }, true⟩
        | none => ⟨r, false⟩
      | .checkType => r.setMode d
      | _ => ⟨r, false⟩

/-! ## One directive after the other -/

/-- The rules of a constraint after a directive (`Builder::apply`). -/
def Rules.adopt (nested : BlockParser) (rules : Rules Constraint) (k : Keyword) (negated : Bool)
    (d : Directive) : Adopted (Rules Constraint) :=
  match rules with
  | .boolean => ⟨.boolean, false⟩
  | .regex => ⟨.regex, false⟩
  | .number r => (r.adopt k negated d).map .number
  | .string r => (r.adopt k negated d).map .string
  | .object r => (r.adopt k negated d).map .object
  | .array r => (r.adopt nested k negated d).map .array

/-- Remembers a directive that is not understood, unless there is one already
(`Builder::reject`). -/
def Constraint.reject (c : Constraint) (d : Directive) : Constraint :=
  { c with badName := c.badName <|> some (String.ofList d.text) }

/-- Whether a directive clears the constraint. -/
def Directive.clears (d : Directive) : Bool :=
  match Keyword.ofName? d.name with
  | some (.noConstraint, _) => true
  | _ => false

/-- A constraint after one more directive, or nothing where the directive clears it. -/
def Constraint.next? (nested : BlockParser) (c : Constraint) (d : Directive) : Option Constraint :=
  match Keyword.ofName? d.name with
  | some (.noConstraint, _) => none
  | some (.note, _) => some { c with note := d.rawArgument?.map String.ofList }
  | some (k, implied) =>
    let left := c.rules.adopt nested k (d.negated != implied) d
    let c := { c with rules := left.record }
    some (if left.understood then c else c.reject d)
  | none => some (c.reject d)

/-- A constraint after directives one by one, or `first` as soon as one of them clears it. -/
def Constraint.applyUntilClear (nested : BlockParser) (c first : Constraint) :
    List Directive → Constraint
  | [] => c
  | d :: ds =>
    match c.next? nested d with
    | some c => c.applyUntilClear nested first ds
    | none => first

/-- The constraint for a type that a list of directives builds. Nothing is built for the type of
null or from no directives. -/
def buildWith (nested : BlockParser) (t : ValueType) (ds : List Directive) : Option Constraint :=
  if ds.isEmpty then none
  else (Constraint.initial? t).map fun first => first.applyUntilClear nested first ds

/-- The constraint for a type that a block of directives writes (`parse`). A block for elements is
shorter than the block that holds it. -/
def parse (t : ValueType) (block : List Char) : Option Constraint :=
  buildWith (fun t rest => if rest.length < block.length then parse t rest else none) t
    (Directive.tokenize block)
termination_by block.length

/-- The constraint for a type that a list of directives builds (`build`). -/
def build (t : ValueType) (ds : List Directive) : Option Constraint := buildWith parse t ds

end ShapeCheck
