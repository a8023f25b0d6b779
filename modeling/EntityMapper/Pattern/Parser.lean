import EntityMapper.Document
import EntityMapper.Pattern.Basic
import EntityMapper.Text.Decimal
import EntityMapper.Text.Hex

/-!
# Reading patterns

The syntax of patterns: alternatives, groups with flags or names, counted repetition, bracketed
classes with nesting and set operations, and escapes. Back-references and conditions on the
surrounding text are no part of it. Text that is no pattern is refused as a whole.

Of the properties of characters, general categories, scripts and a few binary properties are known; a
pattern that names another one is refused. How large a pattern may be is an estimate, too. What is
said of the rules of fields is therefore said for any engine of patterns, not only for this one.
-/

namespace EntityMapper.Pattern

/-- The flags in force at a place of a pattern. -/
structure Flags where
  ignoreCase : Bool := false
  multiLine : Bool := false
  dotMatchesAll : Bool := false
  crlf : Bool := false
  unicode : Bool := true
  /-- Blanks and comments are passed over. -/
  verbose : Bool := false

/-- Drops a comment up to the end of its line. -/
def dropComment (cs : List Char) : List Char := cs.dropWhile (· != '\n')

/-- Blanks and comments at the front of a text; `fuel` bounds the number of comments. -/
def dropIgnored : Nat → List Char → List Char
  | 0, cs => cs
  | fuel + 1, cs =>
    match Text.trimStart cs with
    | '#' :: rest => dropIgnored fuel (dropComment rest)
    | rest => rest

/-- The text after what the flags say to pass over. -/
def Flags.skip (f : Flags) (cs : List Char) : List Char :=
  if f.verbose then dropIgnored (cs.length + 1) cs else cs

/-! ## Flags -/

def Flags.set? (f : Flags) (letter : Char) (on : Bool) : Option Flags :=
  match letter with
  | 'i' => some { f with ignoreCase := on }
  | 'm' => some { f with multiLine := on }
  | 's' => some { f with dotMatchesAll := on }
  | 'R' => some { f with crlf := on }
  | 'u' => some { f with unicode := on }
  | 'x' => some { f with verbose := on }
  | 'U' => some f
  | _ => none

/-- Flags up to a colon or a closing parenthesis, which is left in place: letters, each at most
once, and at most one minus sign, with a letter after it. -/
def readFlags? (f : Flags) (seen : List Char) (on : Bool) :
    List Char → Option (Flags × List Char × List Char)
  | [] => none
  | ':' :: rest => if seen.head? = some '-' then none else some (f, seen, ':' :: rest)
  | ')' :: rest => if seen.head? = some '-' then none else some (f, seen, ')' :: rest)
  | '-' :: rest => if seen.contains '-' then none else readFlags? f ('-' :: seen) false rest
  | c :: rest =>
    if seen.contains c then none
    else (f.set? c on).bind fun f => readFlags? f (c :: seen) on rest

/-! ## Escapes -/

/-- One escape or one plain character. -/
inductive Primitive where
  | literal (c : Char)
  | anchor (a : Anchor)
  | set (cls : CharClass)

/-- Characters with a meaning of their own somewhere in the syntax, and all other ASCII characters
but letters, digits and angle brackets, may be escaped to stand for themselves. -/
def isEscapable (c : Char) : Bool :=
  c.toNat < 128 && !c.isAlphanum && c != '<' && c != '>'

/-- The value of a code point that is a character. -/
def charOf? (n : Nat) : Option Char := if n.isValidChar then some (Char.ofNat n) else none

/-- The value of hexadecimal digits. -/
def hexValue (ds : List Char) : Nat := ds.foldl (fun n d => 16 * n + (Text.Hex.digit? d).getD 0) 0

def isHexDigit (c : Char) : Bool := (Text.Hex.digit? c).isSome

/-- A number of hexadecimal digits. -/
def hexDigits? (f : Flags) : Nat → List Char → Option (List Char × List Char)
  | 0, cs => some ([], cs)
  | n + 1, cs =>
    match f.skip cs with
    | c :: rest =>
      if isHexDigit c then (hexDigits? f n rest).map fun (ds, after) => (c :: ds, after) else none
    | [] => none

/-- Hexadecimal digits up to a closing brace, which is taken. -/
def bracedHex? (cs : List Char) : Option (List Char × List Char) :=
  match cs.span isHexDigit with
  | ([], _) => none
  | (ds, '}' :: rest) => some (ds, rest)
  | _ => none

/-- A code point in braces or of a fixed number of hexadecimal digits. A byte in digits of its own is
no character above ASCII while the flags say that characters are bytes. -/
def hexEscape? (f : Flags) (width : Nat) (cs : List Char) : Option (Primitive × List Char) := do
  let (ds, rest) ← match f.skip cs with
    | '{' :: more => bracedHex? more
    | more => hexDigits? f width more
  let c ← charOf? (hexValue ds)
  if width = 2 ∧ !f.unicode ∧ 128 ≤ c.toNat ∧ c.toNat < 256 then none
  else some (.literal c, rest)

/-- The class of a property: `name`, `name=value`, `name:value` or `name!=value`. -/
def propertyClass? (cs : List Char) : Option CharClass :=
  let ofValue (property value : List Char) : Option CharClass :=
    CharClass.ofPropertyValue? (CharClass.normalizedName property) (CharClass.normalizedName value)
  match Text.cut '=' cs, Text.cut ':' cs with
  | some (before, value), _ =>
    match before.getLast? with
    | some '!' => (ofValue before.dropLast value).map .complement
    | _ => ofValue before value
  | none, some (before, value) => ofValue before value
  | none, none => CharClass.ofPropertyName? (CharClass.normalizedName cs)

/-- A property in braces or of one letter. -/
def propertyEscape? (f : Flags) (negated : Bool) (cs : List Char) :
    Option (Primitive × List Char) := do
  let (name, rest) ← match f.skip cs with
    | '{' :: more =>
      match more.span (· != '}') with
      | (name, '}' :: after) => some (name, after)
      | _ => none
    | '\\' :: _ => none
    | c :: more => some ([c], more)
    | [] => none
  if !f.unicode then none
  let cls ← propertyClass? name
  return (.set ((cls.foldedIf f.ignoreCase).negatedIf negated), rest)

/-- A class of one letter, whose capital is the complement. Bytes above ASCII are no characters, so
without Unicode there is no complement. -/
def letterClass? (f : Flags) (negated : Bool) (all ascii : CharClass) : Option Primitive :=
  if f.unicode then some (.set (all.negatedIf negated))
  else if negated then none
  else some (.set ascii)

/-- The edge of a word named in braces after `\b`; braces with anything but letters and hyphens are
left in place. -/
def wordEdge? (f : Flags) (cs : List Char) : Option (Primitive × List Char) :=
  let isPart (c : Char) : Bool := c.isAlpha || c == '-'
  let plain : Primitive := .anchor (.wordEdge !f.unicode)
  match cs with
  | '{' :: more =>
    match f.skip more with
    | [] => none
    | c :: rest =>
      if !isPart c then some (plain, cs)
      else
        match (c :: rest).span isPart with
        | (name, '}' :: after) =>
          match String.ofList name with
          | "start" => some (.anchor (.wordStart !f.unicode), after)
          | "end" => some (.anchor (.wordEnd !f.unicode), after)
          | "start-half" => some (.anchor (.wordStartHalf !f.unicode), after)
          | "end-half" => some (.anchor (.wordEndHalf !f.unicode), after)
          | _ => none
        | _ => none
  | _ => some (plain, cs)

/-- What follows a backslash. -/
def escape? (f : Flags) : List Char → Option (Primitive × List Char)
  | [] => none
  | c :: rest =>
    let withRest (p : Primitive) : Option (Primitive × List Char) := some (p, rest)
    match c with
    | 'x' => hexEscape? f 2 rest
    | 'u' => hexEscape? f 4 rest
    | 'U' => hexEscape? f 8 rest
    | 'p' => propertyEscape? f false rest
    | 'P' => propertyEscape? f true rest
    | 'd' => (letterClass? f false .decimalDigit .asciiDigit).bind withRest
    | 'D' => (letterClass? f true .decimalDigit .asciiDigit).bind withRest
    | 's' => (letterClass? f false .blank .asciiBlank).bind withRest
    | 'S' => (letterClass? f true .blank .asciiBlank).bind withRest
    | 'w' => (letterClass? f false .word .asciiWord).bind withRest
    | 'W' => (letterClass? f true .word .asciiWord).bind withRest
    | 'a' => withRest (.literal '\x07')
    | 'f' => withRest (.literal '\x0c')
    | 't' => withRest (.literal '\t')
    | 'n' => withRest (.literal '\n')
    | 'r' => withRest (.literal '\r')
    | 'v' => withRest (.literal '\x0b')
    | 'A' => withRest (.anchor .textStart)
    | 'z' => withRest (.anchor .textEnd)
    | 'b' => wordEdge? f rest
    | 'B' => withRest (.anchor (.notWordEdge !f.unicode))
    | '<' => withRest (.anchor (.wordStart !f.unicode))
    | '>' => withRest (.anchor (.wordEnd !f.unicode))
    | c => if isEscapable c then withRest (.literal c) else none

/-! ## Bracketed classes -/

/-- An operation on the two sets at its sides. -/
inductive SetOperation where
  | inter
  | diff
  | symmetricDiff

/-- What has been read of a bracketed class: the set to the left of the last operation, and the
union of what follows it, with how deep what stands on each side is nested. -/
structure OpenClass where
  left : Option (CharClass × SetOperation) := none
  leftDepth : Nat := 0
  items : CharClass := .none
  /-- The number of items. -/
  size : Nat := 0
  /-- The depth of the deepest item. -/
  deepest : Nat := 0

namespace OpenClass

def push (o : OpenClass) (cls : CharClass) (depth : Nat) : OpenClass :=
  { o with items := .union o.items cls, size := o.size + 1, deepest := max o.deepest depth }

/-- How deep the class is nested: several items and an operation each add one. -/
def depth (o : OpenClass) : Nat :=
  let right := if 1 < o.size then o.deepest + 1 else o.deepest
  match o.left with
  | none => right
  | some _ => max o.leftDepth right + 1

/-- The set of both sides. The operations apply from left to right. -/
def value (f : Flags) (o : OpenClass) : CharClass :=
  match o.left with
  | none => o.items
  | some (left, op) =>
    let a := left.foldedIf f.ignoreCase
    let b := o.items.foldedIf f.ignoreCase
    match op with
    | .inter => .inter a b
    | .diff => a.diff b
    | .symmetricDiff => a.symmetricDiff b

/-- Begins the right side of an operation. -/
def operate (f : Flags) (o : OpenClass) (op : SetOperation) : OpenClass :=
  { left := some (o.value f, op), leftDepth := o.depth }

end OpenClass

/-- A character or an escape inside a class. -/
def classItem? (f : Flags) : List Char → Option (Primitive × List Char)
  | [] => none
  | '\\' :: rest => escape? f rest
  | c :: rest => some (.literal c, rest)

/-- A character that may stand in a class: while characters are bytes, an ASCII one. -/
def classChar? (f : Flags) (c : Char) : Option Char :=
  if f.unicode || c.toNat < 128 then some c else none

/-- An item, or a range when a hyphen that is not the last of the class follows it. -/
def classRange? (f : Flags) (cs : List Char) : Option (CharClass × List Char) := do
  let (first, rest) ← classItem? f cs
  let rest := f.skip rest
  let alone : Option (CharClass × List Char) :=
    match first with
    | .literal c => (classChar? f c).map fun c => (.single c, rest)
    | .set cls => some (cls, rest)
    | .anchor _ => none
  match rest with
  | [] => none
  | '-' :: more =>
    match f.skip more with
    | ']' :: _ => alone
    | '-' :: _ => alone
    | [] => none
    | more =>
      let (last, after) ← classItem? f more
      match first, last with
      | .literal a, .literal b => do
        let a ← classChar? f a
        let b ← classChar? f b
        if a.toNat ≤ b.toNat then some (.range a.toNat b.toNat, after) else none
      | _, _ => none
  | _ => alone

/-- A class of ASCII characters by name, as in `[:alpha:]`, after its opening bracket; anything else
is left to be read as a nested class. -/
def asciiClass? (f : Flags) : List Char → Option (CharClass × List Char)
  | ':' :: more =>
    let (negated, more) := match more with
      | '^' :: rest => (true, rest)
      | rest => (false, rest)
    match more.span (· != ':') with
    | (name, ':' :: ']' :: after) =>
      (CharClass.ofAsciiName? (String.ofList name)).map fun cls =>
        ((cls.foldedIf f.ignoreCase).negatedIf negated, after)
    | _ => none
  | _ => none

/-- The hyphens at the beginning of a class stand for themselves. -/
def leadingHyphens (f : Flags) (fuel : Nat) (o : OpenClass) (cs : List Char) :
    OpenClass × List Char :=
  match fuel, cs with
  | fuel + 1, '-' :: rest => leadingHyphens f fuel (o.push (.single '-') 0) (f.skip rest)
  | _, cs => (o, cs)

/-- The beginning of a class after its bracket: whether it is a complement, and the characters that
stand for themselves only there. -/
def classHead (f : Flags) (cs : List Char) : Bool × OpenClass × List Char :=
  let (negated, cs) := match f.skip cs with
    | '^' :: rest => (true, f.skip rest)
    | rest => (false, rest)
  match cs with
  | ']' :: rest => (negated, OpenClass.push {} (.single ']') 0, rest)
  | _ =>
    let (o, cs) := leadingHyphens f cs.length {} cs
    (negated, o, cs)

/-- Whether a class holds ASCII characters only, as it must while characters are bytes. -/
def fitsBytes (f : Flags) (cls : CharClass) : Bool :=
  f.unicode || (List.range 128).all fun n => !cls.contains (Char.ofNat (128 + n))

/-- The rest of a class up to its closing bracket, and how deep the class is nested. -/
def classRest? (f : Flags) :
    Nat → Bool → OpenClass → List Char → Option ((CharClass × Nat) × List Char)
  | 0, _, _, _ => none
  | fuel + 1, negated, o, cs =>
    match f.skip cs with
    | [] => none
    | ']' :: rest =>
      let cls := ((o.value f).foldedIf f.ignoreCase).negatedIf negated
      if fitsBytes f cls then some ((cls, o.depth + 1), rest) else none
    | '[' :: rest =>
      match asciiClass? f rest with
      | some (cls, after) => classRest? f fuel negated (o.push cls 0) after
      | none =>
        let (inner, head, more) := classHead f rest
        (classRest? f fuel inner head more).bind fun ((cls, depth), after) =>
          classRest? f fuel negated (o.push cls depth) after
    | '&' :: '&' :: rest => classRest? f fuel negated (o.operate f .inter) rest
    | '-' :: '-' :: rest => classRest? f fuel negated (o.operate f .diff) rest
    | '~' :: '~' :: rest => classRest? f fuel negated (o.operate f .symmetricDiff) rest
    | cs => (classRange? f cs).bind fun (cls, after) => classRest? f fuel negated (o.push cls 0) after

/-! ## Repetition -/

/-- A decimal number with blanks around it. -/
def countNumber? (f : Flags) (cs : List Char) : Option (Nat × List Char) :=
  let rec digits : Nat → List Char → List Char × List Char
    | 0, cs => ([], cs)
    | fuel + 1, c :: rest =>
      if Text.Decimal.isDigit c then
        let (ds, after) := digits fuel (f.skip rest)
        (c :: ds, after)
      else ([], c :: rest)
    | _ + 1, [] => ([], [])
  let (ds, rest) := digits cs.length (Text.trimStart cs)
  let n := Text.Decimal.valueOf ds
  if ds.isEmpty || Document.maxCount < n then none else some (n, Text.trimStart rest)

/-- The bounds of a counted repetition after its opening brace; the closing brace is taken. -/
def counts? (f : Flags) (cs : List Char) : Option ((Nat × Option Nat) × List Char) := do
  let (least, rest) ← countNumber? f (f.skip cs)
  match rest with
  | '}' :: after => some ((least, some least), after)
  | ',' :: more =>
    match f.skip more with
    | '}' :: after => some ((least, none), after)
    | more => do
      let (most, rest) ← countNumber? f more
      match rest with
      | '}' :: after => if least ≤ most then some ((least, some most), after) else none
      | _ => none
  | _ => none

/-- A question mark after a repetition asks for few instead of many, which decides nothing here. -/
def dropLazyMark : List Char → List Char
  | '?' :: rest => rest
  | rest => rest

/-! ## Groups -/

/-- A part of an alternative: a pattern and how deep it is nested, or a change of flags, which can not
be repeated. -/
inductive Item where
  | part (p : Pattern) (depth : Nat)
  | flagChange

def Item.depth : Item → Nat
  | .part _ depth => depth
  | .flagChange => 0

/-- What has been read of a group: the finished alternatives and the parts of the current one, the
last first; the flags in force; and the group names used so far in the whole pattern. -/
structure OpenGroup where
  branches : List Pattern := []
  /-- The depth of the deepest finished alternative. -/
  deepest : Nat := 0
  items : List Item := []
  flags : Flags := {}
  names : List String := []

namespace OpenGroup

/-- Adds a part that is nested so deep. -/
def push (o : OpenGroup) (p : Pattern) (depth : Nat) : OpenGroup :=
  { o with items := .part p depth :: o.items }

/-- The parts of the current alternative in sequence. -/
def sequence (o : OpenGroup) : Pattern :=
  o.items.foldl (fun rest item =>
    match item with
    | .part p _ => .seq p rest
    | .flagChange => rest) .empty

/-- How deep the current alternative is nested: several parts add one. -/
def sequenceDepth (o : OpenGroup) : Nat :=
  match o.items with
  | [] => 0
  | [item] => item.depth
  | items => (items.map Item.depth).foldl max 0 + 1

def nextBranch (o : OpenGroup) : OpenGroup :=
  { o with
    branches := o.sequence :: o.branches
    deepest := max o.deepest o.sequenceDepth
    items := [] }

/-- All alternatives. -/
def value (o : OpenGroup) : Pattern :=
  o.branches.foldl (fun rest branch => .alt branch rest) o.sequence

/-- How deep all alternatives are nested: several of them add one. -/
def depth (o : OpenGroup) : Nat :=
  if o.branches.isEmpty then o.sequenceDepth else max o.deepest o.sequenceDepth + 1

/-- Repeats the last part, which has to be there. -/
def repeatLast? (o : OpenGroup) (least : Nat) (most : Option Nat) : Option OpenGroup :=
  match o.items with
  | .part p depth :: rest =>
    some { o with items := .part (.repeated p least most) (depth + 1) :: rest }
  | _ => none

def pushPrimitive (o : OpenGroup) : Primitive → OpenGroup
  | .literal c => o.push (.char ((CharClass.single c).foldedIf o.flags.ignoreCase)) 0
  | .anchor a => o.push (.anchor a) 0
  | .set cls => o.push (.char cls) 0

end OpenGroup

/-- The set that a dot stands for. -/
def dotClass? (f : Flags) : Option CharClass :=
  if !f.unicode then none
  else if f.dotMatchesAll then some .any
  else if f.crlf then some (.complement (.ranges [(10, 10), (13, 13)]))
  else some (.complement (.single '\n'))

def lineStart (f : Flags) : Anchor :=
  if f.multiLine then (if f.crlf then .crlfLineStart else .lineStart) else .textStart

def lineEnd (f : Flags) : Anchor :=
  if f.multiLine then (if f.crlf then .crlfLineEnd else .lineEnd) else .textEnd

/-- A letter, as the names of groups have them. -/
def isNameLetter (c : Char) : Bool :=
  ["Lu", "Ll", "Lt", "Lm", "Lo", "Nl"].contains (Text.category c) || Text.isEnclosedLetter c

/-- The name of a group up to a closing angle bracket, which is taken. -/
def groupName? (cs : List Char) : Option (String × List Char) :=
  let isPart (c : Char) : Bool :=
    c == '_' || c == '.' || c == '[' || c == ']' || isNameLetter c
      || ["Nd", "No"].contains (Text.category c)
  match cs.span (· != '>') with
  | (c :: name, '>' :: rest) =>
    if (c == '_' || isNameLetter c) && name.all isPart then
      some (String.ofList (c :: name), rest)
    else none
  | _ => none

/-- The beginning of a group: a change of flags that is already complete, or the group to be read. -/
inductive GroupHead where
  | flagsOnly (f : Flags)
  | opened (inner : OpenGroup)

/-- What follows an opening parenthesis. -/
def groupHead? (o : OpenGroup) (cs : List Char) : Option (GroupHead × List Char) :=
  let named (cs : List Char) : Option (GroupHead × List Char) := do
    let (name, rest) ← groupName? cs
    if o.names.contains name then none
    else some (.opened { flags := o.flags, names := name :: o.names }, rest)
  match cs with
  | '?' :: 'P' :: '<' :: rest => named rest
  | '?' :: '<' :: rest => named rest
  | '?' :: rest => do
    let (flags, seen, rest) ← readFlags? o.flags [] true rest
    match rest with
    | ')' :: after => if seen.isEmpty then none else some (.flagsOnly flags, after)
    | ':' :: after => some (.opened { flags, names := o.names }, after)
    | _ => none
  | rest => some (.opened { flags := o.flags, names := o.names }, rest)

/-- The rest of a group up to its closing parenthesis or the end of the text, which is left in
place. -/
def groupRest? : Nat → OpenGroup → List Char → Option (OpenGroup × List Char)
  | 0, _, _ => none
  | fuel + 1, o, cs =>
    let f := o.flags
    let repeated (least : Nat) (most : Option Nat) (rest : List Char) :
        Option (OpenGroup × List Char) :=
      (o.repeatLast? least most).bind fun o => groupRest? fuel o (dropLazyMark rest)
    match f.skip cs with
    | [] => some (o, [])
    | ')' :: rest => some (o, ')' :: rest)
    | '|' :: rest => groupRest? fuel o.nextBranch rest
    | '(' :: rest =>
      match groupHead? o (f.skip rest) with
      | none => none
      | some (.flagsOnly flags, after) =>
        groupRest? fuel { o with flags, items := .flagChange :: o.items } after
      | some (.opened inner, after) =>
        match groupRest? fuel inner after with
        | some (inner, ')' :: after) =>
          groupRest? fuel { o.push inner.value (inner.depth + 1) with names := inner.names } after
        | _ => none
    | '[' :: rest =>
      let (negated, head, more) := classHead f rest
      (classRest? f (cs.length + 1) negated head more).bind
        fun ((cls, depth), after) => groupRest? fuel (o.push (.char cls) depth) after
    | '?' :: rest => repeated 0 (some 1) rest
    | '*' :: rest => repeated 0 none rest
    | '+' :: rest => repeated 1 none rest
    | '{' :: rest =>
      (counts? f rest).bind fun ((least, most), after) => repeated least most (f.skip after)
    | '\\' :: rest =>
      (escape? f rest).bind fun (p, after) => groupRest? fuel (o.pushPrimitive p) after
    | '.' :: rest => (dotClass? f).bind fun cls => groupRest? fuel (o.push (.char cls) 0) rest
    | '^' :: rest => groupRest? fuel (o.push (.anchor (lineStart f)) 0) rest
    | '$' :: rest => groupRest? fuel (o.push (.anchor (lineEnd f)) 0) rest
    | c :: rest => groupRest? fuel (o.pushPrimitive (.literal c)) rest

/-! ## Size -/

/-- The weight of a class. Classes of all scripts weigh far more than a few ranges. -/
def classWeight : CharClass → Nat
  | .complement (.range 0 0x10FFFF) => 0
  | .word => 55000
  | .categories _ => 20000
  | .decimalDigit => 3000
  | .complement a => max 900 (classWeight a)
  | .union a b => max (classWeight a) (classWeight b)
  | .inter a b => max (classWeight a) (classWeight b)
  | .folded a => classWeight a
  | .blank => 500
  | .range low high => if high < 128 then 32 else if low = high then 128 else 400

/-- Whether some instance may have characters. -/
def consumes : Pattern → Bool
  | .empty => false
  | .char _ => true
  | .anchor _ => false
  | .seq p q => consumes p || consumes q
  | .alt p q => consumes p || consumes q
  | .repeated p _ most => consumes p && most != some 0

/-- The weight of a pattern: a counted repetition weighs as much as its part written out, unless the
part has no characters and is not worth repeating. -/
def weight : Pattern → Nat
  | .empty => 0
  | .char cls => classWeight cls
  | .anchor _ => 32
  | .seq p q => weight p + weight q
  | .alt p q => weight p + weight q + 64
  | .repeated p least most =>
    let times := if consumes p then most.getD (least + 1) else 1
    weight p * times + 32

/-- The greatest weight a pattern may have: ten binary millions. -/
def weightLimit : Nat := 10485760

/-- How deep a pattern may be nested. -/
def depthLimit : Nat := 250

/-- The pattern of a text. One that is nested too deep, or that is too large when its repetitions are
written out, is refused. -/
def parse? (text : String) : Option Pattern :=
  let cs := text.toList
  match groupRest? (cs.length + 1) {} cs with
  | some (o, []) =>
    if o.depth ≤ depthLimit ∧ weight o.value ≤ weightLimit then some o.value else none
  | _ => none

/-- An engine of patterns: the test of a text for an instance of the pattern, unless it refuses the
pattern. -/
abbrev Reader := String → Option (String → Bool)

/-- The engine of the patterns that are read here, which knows some of all properties only. -/
def standard : Reader := fun text => (parse? text).map occursIn

end EntityMapper.Pattern
