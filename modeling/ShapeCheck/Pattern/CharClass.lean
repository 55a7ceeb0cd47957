import ShapeCheck.Unicode.Lookup

/-!
# Named classes of characters

The classes that patterns name: digits, blanks and word characters, each in an ASCII and a full
form, and the classes of ASCII characters that are named inside brackets.
-/

namespace ShapeCheck.Pattern

open Unicode

/-- The classes with an escape of their own. -/
inductive ShortClass where
  | digit
  | space
  | word
  deriving DecidableEq, Repr

/-- Digits in all scripts. -/
def digits : CodeSet := Category.codes .decimalNumber

/-- All blank characters. -/
def blanks : CodeSet := (ofBinaryName? "whitespace").getD .empty

/-- The characters of words: letters, marks, digits, connectors and joiners. -/
def wordChars : CodeSet :=
  CodeSet.unionAll
    [(ofBinaryName? "alphabetic").getD .empty, (ofCategoryName? "m").getD .empty, digits,
     Category.codes .connectorPunctuation, (ofBinaryName? "joincontrol").getD .empty]

/-- A set from ranges of ASCII characters. -/
def asciiRanges (ranges : List (Char × Char)) : CodeSet :=
  CodeSet.unionAll (ranges.map fun (low, high) => CodeSet.ofRange low.toNat high.toNat)

/-- The word characters of ASCII. -/
def asciiWordChars : CodeSet := asciiRanges [('0', '9'), ('A', 'Z'), ('_', '_'), ('a', 'z')]

/-- The blank characters of ASCII. -/
def asciiBlanks : CodeSet := asciiRanges [('\t', '\r'), (' ', ' ')]

namespace ShortClass

/-- The members of a class, over all characters or over ASCII. -/
def codes (k : ShortClass) (unicode : Bool) : CodeSet :=
  match k, unicode with
  | .digit, true => digits
  | .digit, false => asciiRanges [('0', '9')]
  | .space, true => blanks
  | .space, false => asciiBlanks
  | .word, true => wordChars
  | .word, false => asciiWordChars

end ShortClass

/-- The classes that are named between colons inside brackets. -/
def bracketClasses : List (String × CodeSet) :=
  [("alnum", asciiRanges [('0', '9'), ('A', 'Z'), ('a', 'z')]),
   ("alpha", asciiRanges [('A', 'Z'), ('a', 'z')]),
   ("ascii", .ofRange 0 0x7F),
   ("blank", asciiRanges [('\t', '\t'), (' ', ' ')]),
   ("cntrl", (CodeSet.ofRange 0 0x1F).union (.ofRange 0x7F 0x7F)),
   ("digit", asciiRanges [('0', '9')]),
   ("graph", asciiRanges [('!', '~')]),
   ("lower", asciiRanges [('a', 'z')]),
   ("print", asciiRanges [(' ', '~')]),
   ("punct", asciiRanges [('!', '/'), (':', '@'), ('[', '`'), ('\x7b', '~')]),
   ("space", asciiBlanks),
   ("upper", asciiRanges [('A', 'Z')]),
   ("word", asciiWordChars),
   ("xdigit", asciiRanges [('0', '9'), ('A', 'F'), ('a', 'f')])]

/-- Every code point that differs from another in case only, with those it differs from. -/
def cased : List (Nat × List Nat) :=
  let sources := caseFoldTable.flatMap fun r =>
    (List.range r.length).map fun i => r.start + i * r.stride
  let images := sources.map foldCode
  (sources ++ images).map fun code => (code, foldings code)

/-- A set with all characters that differ from a member in case only. -/
def ignoreCase (s : CodeSet) : CodeSet :=
  let added := cased.filter fun (code, others) =>
    !s.containsCode code && others.any s.containsCode
  CodeSet.unionAll (s :: added.map fun (code, _) => CodeSet.ofRange code code)

/-- A set with the other case of its ASCII letters. -/
def ignoreAsciiCase (s : CodeSet) : CodeSet :=
  let letters := (List.range 26).flatMap fun i => [(65 + i, 97 + i), (97 + i, 65 + i)]
  let added := letters.filter fun (_, other) => s.containsCode other
  CodeSet.unionAll (s :: added.map fun (code, _) => CodeSet.ofRange code code)

end ShapeCheck.Pattern
