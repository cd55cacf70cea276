import FrameTree.Text.Category
import FrameTree.Text.Flag
import FrameTree.Text.Script

/-!
# Properties of characters

A property is a group of general categories, a script, being part of words, or something else that
a character has or lacks.
Properties are named loosely: case, blanks, hyphens and low lines do not count, nor does a leading
`is`. A name alone is looked for among the flags first, then among the categories and the scripts;
a name can also be given together with the kind of property.

Main definitions: `Property.holds`, `Property.ofName?` and `Property.ofKind?`.
-/

namespace FrameTree.Text

/-! ## Words -/

/-- The character is part of words: it is alphabetic, a mark, a digit, a connecting punctuation mark
or one of the two joiners. -/
def isWordChar (c : Char) : Bool :=
  if c.toNat < 0x80 then c.isAlphanum || c == '_'
  else alphabetic.holds c || wordCategories.contains (category c) || joiners.contains c
where
  wordCategories : List Category :=
    [.nonspacingMark, .spacingMark, .enclosingMark, .decimalNumber, .connectorPunctuation]
  joiners : List Char := ['\u200c', '\u200d']

/-! ## Properties -/

/-- A property of characters. -/
inductive Property where
  | any
  | ascii
  | categories (all : List Category)
  | script (code : String)
  | flag (runs : Runs Bool)
  | word
deriving Repr, Inhabited

namespace Property

/-- The character has the property. -/
def holds : Property → Char → Bool
  | .any, _ => true
  | .ascii, c => c.toNat < 0x80
  | .categories cs, c => cs.contains (category c)
  | .script code, c => Text.script c == code
  | .flag runs, c => runs.holds c
  | .word, c => isWordChar c

/-! ## Names -/

/-- A name without what does not count. -/
def loose (name : String) : String :=
  let kept := name.toList.filter fun c => c.toNat < 0x80 && !(['_', '-', ' '].contains c)
  let lower := kept.map Char.toLower
  String.ofList <|
    match lower with
    | ['i', 's', 'c'] => lower
    | 'i' :: 's' :: rest => rest
    | _ => lower

/-- The names of the categories besides their codes. -/
def categoryNames : List (String × Category) := [
  ("uppercaseletter", .uppercaseLetter), ("lowercaseletter", .lowercaseLetter),
  ("titlecaseletter", .titlecaseLetter), ("modifierletter", .modifierLetter), ("otherletter",
  .otherLetter), ("nonspacingmark", .nonspacingMark), ("spacingmark", .spacingMark),
  ("enclosingmark", .enclosingMark), ("decimalnumber", .decimalNumber), ("digit", .decimalNumber),
  ("letternumber", .letterNumber), ("othernumber", .otherNumber), ("connectorpunctuation",
  .connectorPunctuation), ("dashpunctuation", .dashPunctuation), ("openpunctuation",
  .openPunctuation), ("closepunctuation", .closePunctuation), ("initialpunctuation",
  .initialPunctuation), ("finalpunctuation", .finalPunctuation), ("otherpunctuation",
  .otherPunctuation), ("mathsymbol", .mathSymbol), ("currencysymbol", .currencySymbol),
  ("modifiersymbol", .modifierSymbol), ("othersymbol", .otherSymbol), ("spaceseparator",
  .spaceSeparator), ("lineseparator", .lineSeparator), ("paragraphseparator",
  .paragraphSeparator), ("control", .control), ("cntrl", .control), ("format", .format),
  ("surrogate", .surrogate), ("privateuse", .privateUse), ("unassigned", .unassigned)]

/-- The names of the groups of categories besides the first letters of their codes. -/
def groupNames : List (String × String) := [
  ("letter", "L"), ("mark", "M"), ("combiningmark", "M"), ("number", "N"), ("punctuation", "P"),
  ("punct", "P"), ("separator", "Z"), ("symbol", "S"), ("other", "C")]

/-- The categories whose codes start with a letter. -/
def group (letter : String) : List Category := Category.all.filter (·.code.startsWith letter)

/-- The letters with a case. -/
def casedLetters : List Category := [.uppercaseLetter, .lowercaseLetter, .titlecaseLetter]

/-- The categories of a name in its loose form. -/
def ofCategory? (name : String) : Option Property :=
  if name == "any" then some .any
  else if name == "assigned" then some (.categories (Category.all.filter (· != .unassigned)))
  else if name == "ascii" then some .ascii
  else if name == "lc" || name == "casedletter" then some (.categories casedLetters)
  else
    let letter := (groupNames.lookup name).getD (name.map Char.toUpper)
    if letter.length == 1 then
      if (group letter).isEmpty then none else some (.categories (group letter))
    else
      ((Category.all.find? (loose ·.code == name)).or (categoryNames.lookup name)).map
        fun c => .categories [c]

/-- The script of a name in its loose form. -/
def ofScript? (name : String) : Option Property :=
  (Script.names.find? (·.any (loose · == name))).bind List.head? |>.map .script

/-- The property of a name alone. The codes of two categories are also names of other things. -/
def ofName? (name : String) : Option Property :=
  let name := loose name
  let flag := if name == "cf" || name == "lc" || name == "sc" then none else flagRuns? name
  (flag.map .flag).or ((ofCategory? name).or (ofScript? name))

/-- The property of a kind and a value. -/
def ofKind? (kind value : String) : Option Property :=
  if ["gc", "generalcategory", "category"].contains (loose kind) then ofCategory? (loose value)
  else if ["sc", "script"].contains (loose kind) then ofScript? (loose value)
  else none

end Property

end FrameTree.Text
