import ShapeCheck.Text.Blank
import ShapeCheck.Unicode.LetterCase

/-!
# Keywords

The words that directives may begin with. Blanks and letter case do not matter in a keyword, and
some spellings imply a negation.
-/

namespace ShapeCheck

/-- What a directive asks for. -/
inductive Keyword where
  | note
  | noConstraint
  | integer
  | positive
  | negative
  | notZero
  | min
  | max
  | maxExclusive
  | minLength
  | maxLength
  | startsWith
  | endsWith
  | contains
  | match
  | empty
  | hasProperties
  | notNested
  | noPrototype
  | canSerialize
  | noFalseyProps
  | noTruthyProps
  | instanceOf
  | each
  | checkType
  deriving DecidableEq, Repr

namespace Keyword

/-- Every spelling with its keyword and whether it implies a negation (`KEYWORDS`). -/
def spellings : List (String × Keyword × Bool) :=
  [("note", .note, false),
   ("noconstraint", .noConstraint, false),
   ("integer", .integer, false),
   ("positive", .positive, false),
   ("negative", .negative, false),
   ("notzero", .notZero, false),
   ("nonzero", .notZero, false),
   ("min", .min, false),
   ("max", .max, false),
   ("maxx", .maxExclusive, false),
   ("maxexclusive", .maxExclusive, false),
   ("minlength", .minLength, false),
   ("maxlength", .maxLength, false),
   ("startswith", .startsWith, false),
   ("notstartswith", .startsWith, true),
   ("endswith", .endsWith, false),
   ("notendswith", .endsWith, true),
   ("contains", .contains, false),
   ("notcontains", .contains, true),
   ("match", .match, false),
   ("notmatch", .match, true),
   ("empty", .empty, false),
   ("notempty", .empty, true),
   ("hasproperties", .hasProperties, false),
   ("nothasproperties", .hasProperties, true),
   ("notnested", .notNested, false),
   ("noprototype", .noPrototype, false),
   ("canserialize", .canSerialize, false),
   ("nofalseyprops", .noFalseyProps, false),
   ("notruthyprops", .noTruthyProps, false),
   ("instanceof", .instanceOf, false),
   ("notinstanceof", .instanceOf, true),
   ("each", .each, false),
   ("checktype", .checkType, false)]

/-- A word without blanks and in lower case (`normalize`). -/
def normalize (raw : List Char) : List Char :=
  (raw.filter fun c => !Text.isBlank c).flatMap Unicode.toLower

/-- The keyword that a word spells, and whether the spelling implies a negation (`lookup`). -/
def ofName? (raw : List Char) : Option (Keyword × Bool) :=
  spellings.lookup (String.ofList (normalize raw))

end Keyword

end ShapeCheck
