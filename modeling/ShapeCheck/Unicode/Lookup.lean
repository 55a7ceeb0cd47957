import ShapeCheck.Unicode.Age
import ShapeCheck.Unicode.BinaryProperty
import ShapeCheck.Unicode.Category
import ShapeCheck.Unicode.LetterCase
import ShapeCheck.Unicode.Script
import ShapeCheck.Unicode.TextBreak

/-!
# Properties by name

`ofName?` finds the characters that a single name stands for: a two-valued property, a general
category or a script. `ofValue?` finds those for which a property has a value; the properties with
values are categories, scripts, ages and the classes that decide where text breaks. Names are
compared loosely: case, blanks, hyphens, underscores and a leading `is` do not matter. Properties
that are asked for by name follow Unicode 16.0.
-/

namespace ShapeCheck.Unicode

/-- A name in the loose spelling. The name `isc` keeps its beginning. -/
def looseName (name : List Char) : String :=
  let (hasIs, body) :=
    match name with
    | i :: s :: rest =>
      if toLowerAscii i = 'i' ∧ toLowerAscii s = 's' then (true, rest) else (false, name)
    | _ => (false, name)
  let kept := (body.filter fun c =>
    c.toNat < 128 && c != ' ' && c != '_' && c != '-').map toLowerAscii
  if hasIs && kept == ['c'] then "isc" else String.ofList kept

/-- The characters of some category of a list. -/
def ofCategories (categories : List Category) : CodeSet :=
  CodeSet.unionAll (categories.map Category.codes)

/-- The characters that have a category, or are halves of a surrogate pair. -/
def assigned : CodeSet := (ofCategories Category.all).union (CodeSet.ofRange 0xD800 0xDFFF)

/-- The groups of general categories with their loose names. -/
def categoryGroups : List (List String × List Category) :=
  [(["lc", "casedletter"], [.uppercaseLetter, .lowercaseLetter, .titlecaseLetter]),
   (["l", "letter"],
    [.uppercaseLetter, .lowercaseLetter, .titlecaseLetter, .modifierLetter, .otherLetter]),
   (["m", "mark", "combiningmark"], [.nonspacingMark, .spacingMark, .enclosingMark]),
   (["n", "number"], [.decimalNumber, .letterNumber, .otherNumber]),
   (["p", "punctuation", "punct"],
    [.connectorPunctuation, .dashPunctuation, .openPunctuation, .closePunctuation,
     .initialPunctuation, .finalPunctuation, .otherPunctuation]),
   (["s", "symbol"], [.mathSymbol, .currencySymbol, .modifierSymbol, .otherSymbol]),
   (["z", "separator"], [.spaceSeparator, .lineSeparator, .paragraphSeparator])]

/-- The characters of a general category or a group of them, by loose name. -/
def ofCategoryName? (name : String) : Option CodeSet :=
  if name = "any" then some .full
  else if name = "assigned" then some assigned
  else if name = "ascii" then some (.ofRange 0 0x7F)
  else if name = "cn" ∨ name = "unassigned" then some assigned.compl
  else if name = "c" ∨ name = "other" then
    some (CodeSet.unionAll [assigned.compl, Category.codes .control, Category.codes .format,
      Category.codes .privateUse])
  else
    match Category.all.find? (·.names.contains name) with
    | some c => some c.codes
    | none => (categoryGroups.find? (·.1.contains name)).map fun group => ofCategories group.2

/-- The characters of a script, by loose name. -/
def ofScriptName? (name : String) : Option CodeSet :=
  (scripts.find? (·.names.contains name)).map (·.codes)

/-- The characters used with a script, by loose name. -/
def ofScriptUse? (name : String) : Option CodeSet :=
  (scripts.find? (·.names.contains name)).map (·.extended)

/-- The characters of a version or an earlier one, by loose name. -/
def ofAge? (name : String) : Option CodeSet :=
  (ages.findIdx? (·.names.contains name)).map fun i =>
    CodeSet.unionAll ((ages.take (i + 1)).map (·.added))

/-- The characters of a class of a list, by loose name. -/
def ofBreakName? (classes : List BreakClass) (name : String) : Option CodeSet :=
  (classes.find? (·.names.contains name)).map (·.codes)

/-- The characters with a two-valued property, by loose name. -/
def ofBinaryName? (name : String) : Option CodeSet :=
  (binaryProperties.find? (·.names.contains name)).map (·.codes)

/-- The characters that a name stands for. Three names of categories are names of properties with
many values as well, and stand for the category. -/
def ofName? (name : List Char) : Option CodeSet :=
  let loose := looseName name
  let property :=
    if loose = "cf" ∨ loose = "sc" ∨ loose = "lc" then none else ofBinaryName? loose
  property <|> ofCategoryName? loose <|> ofScriptName? loose

/-- The characters for which a property has a value. -/
def ofValue? (property value : List Char) : Option CodeSet :=
  let name := looseName property
  let value := looseName value
  if name = "gc" ∨ name = "generalcategory" then ofCategoryName? value
  else if name = "sc" ∨ name = "script" then ofScriptName? value
  else if name = "scx" ∨ name = "scriptextensions" then ofScriptUse? value
  else if name = "age" then ofAge? value
  else if name = "gcb" ∨ name = "graphemeclusterbreak" then ofBreakName? graphemeBreaks value
  else if name = "wb" ∨ name = "wordbreak" then ofBreakName? wordBreaks value
  else if name = "sb" ∨ name = "sentencebreak" then ofBreakName? sentenceBreaks value
  else none

end ShapeCheck.Unicode
