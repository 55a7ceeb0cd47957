import ShapeCheck.Directive.Keyword

/-!
# Selection modes

How the elements of an array are chosen for checking.
-/

namespace ShapeCheck

/-- A way to choose places of an array (`CheckType`). -/
inductive Mode where
  | none
  | all
  | random
  | step
  | first
  | last
  | firstThenLast
  | firstThenStep
  | firstThenRandom
  deriving DecidableEq, Repr

namespace Mode

/-- The name under which a mode is shown (`CheckType::as_str`). -/
def name : Mode → String
  | .none => "none"
  | .all => "all"
  | .random => "random"
  | .step => "step"
  | .first => "first"
  | .last => "last"
  | .firstThenLast => "firstThenLast"
  | .firstThenStep => "firstThenStep"
  | .firstThenRandom => "firstThenRandom"

/-- Every mode under its normalized name. -/
def names : List (String × Mode) :=
  [("none", .none),
   ("all", .all),
   ("random", .random),
   ("step", .step),
   ("first", .first),
   ("last", .last),
   ("firstthenlast", .firstThenLast),
   ("firstthenstep", .firstThenStep),
   ("firstthenrandom", .firstThenRandom)]

/-- The mode that a word spells; blanks and letter case do not matter (`CheckType::from_name`). -/
def ofName? (raw : List Char) : Option Mode :=
  names.lookup (String.ofList (Keyword.normalize raw))

/-- Whether a mode asks the sampler. -/
def isRandom : Mode → Bool
  | .random => true
  | .firstThenRandom => true
  | _ => false

end Mode

end ShapeCheck
