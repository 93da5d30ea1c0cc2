/-
The sets of characters that a pattern can name.

A property is found by its name with case, blanks, dashes and underscores left out,
and with an "is" before it dropped.  A single name is tried as a yes-or-no property,
then as a general category, then as a script.
-/
import AppBuild.Pattern.Error
import AppBuild.Pattern.Expr
import AppBuild.Unicode.Property
import AppBuild.Unicode.Script

namespace AppBuild.Pattern

open Unicode

/-- A name with case, blanks, dashes, underscores, all that is not ASCII and an "is" before it left
out. -/
def normalizeName (name : String) : String :=
  let kept (cs : List Char) : List Char :=
    (cs.filter fun c => c != ' ' && c != '_' && c != '-' && c.toNat < 128).map Char.toLower
  match name.toList with
  | a :: b :: rest =>
    if a.toLower == 'i' && b.toLower == 's' then
      -- A name that is only "isc" is a name of its own.
      if kept rest == ['c'] then "isc" else String.ofList (kept rest)
    else String.ofList (kept (a :: b :: rest))
  | cs => String.ofList (kept cs)

/-- The set with a name in a table. -/
def findNamed (name : String) (table : List (List String × CharSet)) : Option CharSet :=
  (table.find? (·.1.contains name)).map (·.2)

/-- The characters of ASCII. -/
def asciiSet : CharSet := .range 0 127

/-- The set of a general category, which may also be all characters, the assigned ones or ASCII. -/
def categorySet? (name : String) : Option CharSet :=
  if name == "any" then some .all
  else if name == "assigned" then some Category.unassigned.compl
  else if name == "ascii" then some asciiSet
  else findNamed name Category.named

/-- The script with a name. -/
def script? (name : String) : Option Script :=
  Script.table.find? (·.names.contains name)

/-- The names that mean a category although a property has them too. -/
def categoryFirst : List String := ["cf", "sc", "lc"]

/-- Names of properties whose values cannot be asked for. -/
def valuelessProperties : List String :=
  Property.named.flatMap (·.1) ++
  ["age", "gcb", "graphemeclusterbreak", "wb", "wordbreak", "sb", "sentencebreak", "blk", "block",
   "bc", "bidiclass", "ccc", "canonicalcombiningclass", "dt", "decompositiontype", "ea",
   "eastasianwidth", "hst", "hangulsyllabletype", "insc", "indicsyllabiccategory", "inpc",
   "indicpositionalcategory", "jg", "joininggroup", "jt", "joiningtype", "lb", "linebreak", "na",
   "name", "nt", "numerictype", "nv", "numericvalue", "vo", "verticalorientation", "lc",
   "lowercasemapping", "uc", "uppercasemapping", "tc", "titlecasemapping", "cf", "casefolding"]

/-- Names of categories and scripts that stand for no set of characters. -/
def namesWithoutSet : List String :=
  ["cs", "surrogate", "zzzz", "unknown", "hrkt", "katakanaorhiragana"]

/-- The set that a single name asks for. -/
def setOfName (name : String) : Except Error CharSet :=
  let name := normalizeName name
  let property := if categoryFirst.contains name then none else findNamed name Property.named
  match property.or ((categorySet? name).or ((script? name).map (·.members))) with
  | some set => .ok set
  | none =>
    if namesWithoutSet.contains name then .error .propertyValueNotFound
    else .error .propertyNotFound

/-- The set that a property with a value asks for. -/
def setOfValue (name value : String) : Except Error CharSet :=
  let name := normalizeName name
  let value := normalizeName value
  let found (set : Option CharSet) : Except Error CharSet :=
    match set with
    | some set => .ok set
    | none => .error .propertyValueNotFound
  if name == "gc" || name == "generalcategory" then found (categorySet? value)
  else if name == "sc" || name == "script" then found ((script? value).map (·.members))
  else if name == "scx" || name == "scriptextensions" then found ((script? value).map (·.extended))
  else if valuelessProperties.contains name then .error .propertyValueNotFound
  else .error .propertyNotFound

/-- The set that a query asks for. -/
def PropertyQuery.set : PropertyQuery → Except Error CharSet
  | .letter c => setOfName (String.singleton c)
  | .name n => setOfName n
  | .value n v => setOfValue n v

/-- The set of an ASCII class. -/
def AsciiClass.set : AsciiClass → CharSet
  | .alnum => .unions [.range 48 57, .range 65 90, .range 97 122]
  | .alpha => .unions [.range 65 90, .range 97 122]
  | .ascii => asciiSet
  | .blank => .unions [.range 9 9, .range 32 32]
  | .cntrl => .unions [.range 0 31, .range 127 127]
  | .digit => .range 48 57
  | .graph => .range 33 126
  | .lower => .range 97 122
  | .print => .range 32 126
  | .punct => .unions [.range 33 47, .range 58 64, .range 91 96, .range 123 126]
  | .space => .unions [.range 9 13, .range 32 32]
  | .upper => .range 65 90
  | .word => .unions [.range 48 57, .range 65 90, .range 95 95, .range 97 122]
  | .xdigit => .unions [.range 48 57, .range 65 70, .range 97 102]

/-- The set of a class of one letter, in Unicode or in ASCII alone. -/
def LetterClass.set (unicode : Bool) : LetterClass → CharSet
  | .digit => if unicode then Category.nd else AsciiClass.digit.set
  | .space => if unicode then Property.whiteSpace else AsciiClass.space.set
  | .word => if unicode then Property.word else AsciiClass.word.set

end AppBuild.Pattern
