import EntityMapper.Text.Blank
import EntityMapper.Text.CaseFolding
import EntityMapper.Text.Category
import EntityMapper.Text.Script

/-!
# Character classes

The sets of characters that patterns speak of, built from ranges and properties.
-/

namespace EntityMapper.Pattern

inductive CharClass where
  /-- The code points from the first to the second. -/
  | range (low high : Nat)
  | blank
  | decimalDigit
  | word
  /-- The characters of these general categories. -/
  | categories (codes : List String)
  | complement (a : CharClass)
  | union (a b : CharClass)
  | inter (a b : CharClass)
  /-- The characters that differ from one of the set at most in case. -/
  | folded (a : CharClass)
deriving Repr

namespace CharClass

def contains : CharClass → Char → Bool
  | range low high, c => low ≤ c.toNat && c.toNat ≤ high
  | blank, c => Text.isBlank c
  | decimalDigit, c => Text.isDecimalDigit c
  | word, c => Text.isWordChar c
  | categories codes, c => codes.contains (Text.category c)
  | complement a, c => !a.contains c
  | union a b, c => a.contains c || b.contains c
  | inter a b, c => a.contains c && b.contains c
  | folded a, c => (Text.caseVariants c).any a.contains

def single (c : Char) : CharClass := .range c.toNat c.toNat

def any : CharClass := .range 0 0x10FFFF

def none : CharClass := .complement any

def diff (a b : CharClass) : CharClass := .inter a (.complement b)

/-- The characters of exactly one of the two sets. -/
def symmetricDiff (a b : CharClass) : CharClass := .union (diff a b) (diff b a)

/-- The characters of these ranges. -/
def ranges (rs : List (Nat × Nat)) : CharClass :=
  rs.foldr (fun r rest => .union (.range r.1 r.2) rest) none

/-- The set or its complement. -/
def negatedIf (negated : Bool) (a : CharClass) : CharClass := if negated then .complement a else a

/-- The set, widened to all cases when case is to be left aside. -/
def foldedIf (ignoreCase : Bool) (a : CharClass) : CharClass := if ignoreCase then .folded a else a

/-! ## Named classes -/

def asciiDigit : CharClass := .range 48 57

def asciiWord : CharClass := ranges [(48, 57), (65, 90), (95, 95), (97, 122)]

def asciiBlank : CharClass := ranges [(9, 13), (32, 32)]

/-- The classes of ASCII characters that a bracket names as in `[:alpha:]`. -/
def ofAsciiName? (name : String) : Option CharClass :=
  (([("alnum", [(48, 57), (65, 90), (97, 122)]), ("alpha", [(65, 90), (97, 122)]),
    ("ascii", [(0, 127)]), ("blank", [(9, 9), (32, 32)]), ("cntrl", [(0, 31), (127, 127)]),
    ("digit", [(48, 57)]), ("graph", [(33, 126)]), ("lower", [(97, 122)]), ("print", [(32, 126)]),
    ("punct", [(33, 47), (58, 64), (91, 96), (123, 126)]), ("space", [(9, 13), (32, 32)]),
    ("upper", [(65, 90)]), ("word", [(48, 57), (65, 90), (95, 95), (97, 122)]),
    ("xdigit", [(48, 57), (65, 70), (97, 102)])] : List (String × List (Nat × Nat))).find?
      (·.1 == name)).map fun entry => ranges entry.2

/-- The general categories with their long names; groups of categories come after them. -/
def categoryNames : List (List String × List String) :=
  [ (["lu", "uppercaseletter"], ["Lu"]), (["ll", "lowercaseletter"], ["Ll"])
  , (["lt", "titlecaseletter"], ["Lt"]), (["lm", "modifierletter"], ["Lm"])
  , (["lo", "otherletter"], ["Lo"]), (["mn", "nonspacingmark"], ["Mn"])
  , (["mc", "spacingmark"], ["Mc"]), (["me", "enclosingmark"], ["Me"])
  , (["nd", "decimalnumber", "digit"], ["Nd"]), (["nl", "letternumber"], ["Nl"])
  , (["no", "othernumber"], ["No"]), (["pc", "connectorpunctuation"], ["Pc"])
  , (["pd", "dashpunctuation"], ["Pd"]), (["ps", "openpunctuation"], ["Ps"])
  , (["pe", "closepunctuation"], ["Pe"]), (["pi", "initialpunctuation"], ["Pi"])
  , (["pf", "finalpunctuation"], ["Pf"]), (["po", "otherpunctuation"], ["Po"])
  , (["sm", "mathsymbol"], ["Sm"]), (["sc", "currencysymbol"], ["Sc"])
  , (["sk", "modifiersymbol"], ["Sk"]), (["so", "othersymbol"], ["So"])
  , (["zs", "spaceseparator"], ["Zs"]), (["zl", "lineseparator"], ["Zl"])
  , (["zp", "paragraphseparator"], ["Zp"]), (["cc", "control", "cntrl"], ["Cc"])
  , (["cf", "format"], ["Cf"]), (["co", "privateuse"], ["Co"])
  , (["cn", "unassigned"], ["Cn"]), (["cs", "surrogate"], ["Cs"])
  , (["lc", "casedletter"], ["Lu", "Ll", "Lt"])
  , (["l", "letter"], ["Lu", "Ll", "Lt", "Lm", "Lo"])
  , (["m", "mark", "combiningmark"], ["Mn", "Mc", "Me"]), (["n", "number"], ["Nd", "Nl", "No"])
  , (["p", "punctuation", "punct"], ["Pc", "Pd", "Ps", "Pe", "Pi", "Pf", "Po"])
  , (["s", "symbol"], ["Sm", "Sc", "Sk", "So"]), (["z", "separator"], ["Zs", "Zl", "Zp"])
  , (["c", "other"], ["Cc", "Cf", "Cn", "Co", "Cs"]) ]

/-- A property's name without blanks, hyphens, underscores, case and a leading `is`. -/
def normalizedName (cs : List Char) : String :=
  let plain := (cs.filter fun c => c != ' ' && c != '-' && c != '_').map Char.toLower
  match plain with
  | 'i' :: 's' :: rest => if rest.isEmpty then "is" else String.ofList rest
  | _ => String.ofList plain

/-- The characters of ranges that are given by the first code point and the number of those in it. -/
def ofSpans (spans : List (Nat × Nat)) : CharClass :=
  ranges (spans.map fun span => (span.1, span.1 + span.2 - 1))

/-- The characters of a general category or a group of them. -/
def ofCategoryName? (name : String) : Option CharClass :=
  match name with
  | "any" => some any
  | "ascii" => some (.range 0 127)
  | "assigned" => some (.complement (.categories ["Cn"]))
  | name => (categoryNames.find? (·.1.contains name)).map fun entry => .categories entry.2

def ofScriptName? (name : String) : Option CharClass := (Text.script? name).map ofSpans

/-- The characters with a property that has no values. -/
def ofBinaryName? (name : String) : Option CharClass :=
  match name with
  | "whitespace" | "wspace" | "space" => some blank
  | name => (Text.letterKind? name).map ofSpans

/-- The characters with a property, in a category or of a script. -/
def ofPropertyName? (name : String) : Option CharClass :=
  ((ofBinaryName? name).or (ofCategoryName? name)).or (ofScriptName? name)

/-- The characters for which a property has a value. -/
def ofPropertyValue? (property value : String) : Option CharClass :=
  match property with
  | "gc" | "generalcategory" => ofCategoryName? value
  | "sc" | "script" => ofScriptName? value
  | _ => Option.none

end CharClass
end EntityMapper.Pattern
