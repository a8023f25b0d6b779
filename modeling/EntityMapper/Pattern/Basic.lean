import EntityMapper.Pattern.CharClass

/-!
# Patterns

Regular expressions over characters, with anchors that look at the place between two characters.
`Pattern.occursIn` decides whether some part of a text is an instance.
-/

namespace EntityMapper

namespace Pattern

/-- A condition on a place in a text. -/
inductive Anchor where
  | textStart
  | textEnd
  | lineStart
  | lineEnd
  /-- Lines that end in a carriage return, a newline or both. -/
  | crlfLineStart
  | crlfLineEnd
  /-- Word characters of all scripts, or of ASCII alone, stand on one side of the place only. -/
  | wordEdge (ascii : Bool)
  | notWordEdge (ascii : Bool)
  | wordStart (ascii : Bool)
  | wordEnd (ascii : Bool)
  | wordStartHalf (ascii : Bool)
  | wordEndHalf (ascii : Bool)
deriving Repr

end Pattern

inductive Pattern where
  | empty
  | char (cls : Pattern.CharClass)
  | anchor (a : Pattern.Anchor)
  | seq (p q : Pattern)
  | alt (p q : Pattern)
  /-- At least `least` times and at most `most` times. -/
  | repeated (p : Pattern) (least : Nat) (most : Option Nat)
deriving Repr

namespace Pattern

/-- A place in a text: the number of characters before it, these characters, nearest first, and those
after it. -/
structure Place where
  index : Nat
  before : List Char
  after : List Char

def isWord (ascii : Bool) (c : Char) : Bool :=
  if ascii then CharClass.asciiWord.contains c else CharClass.word.contains c

/-- Whether the first character of a list is one of words. -/
def startsWithWord (ascii : Bool) : List Char → Bool
  | c :: _ => isWord ascii c
  | [] => false

def Anchor.holds (p : Place) : Anchor → Bool
  | .textStart => p.before.isEmpty
  | .textEnd => p.after.isEmpty
  | .lineStart => p.before.isEmpty || p.before.head? == some '\n'
  | .lineEnd => p.after.isEmpty || p.after.head? == some '\n'
  | .crlfLineStart =>
    p.before.isEmpty || p.before.head? == some '\n'
      || (p.before.head? == some '\r' && p.after.head? != some '\n')
  | .crlfLineEnd =>
    p.after.isEmpty || p.after.head? == some '\r'
      || (p.after.head? == some '\n' && p.before.head? != some '\r')
  | .wordEdge ascii => startsWithWord ascii p.before != startsWithWord ascii p.after
  | .notWordEdge ascii => startsWithWord ascii p.before == startsWithWord ascii p.after
  | .wordStart ascii => !startsWithWord ascii p.before && startsWithWord ascii p.after
  | .wordEnd ascii => startsWithWord ascii p.before && !startsWithWord ascii p.after
  | .wordStartHalf ascii => !startsWithWord ascii p.before
  | .wordEndHalf ascii => !startsWithWord ascii p.after

/-! ## Matching

A set of places in one text is a list in the order of their indices, without repetitions. -/

/-- The place after a character of the class. -/
def Place.advance? (cls : CharClass) (p : Place) : Option Place :=
  match p.after with
  | c :: rest => if cls.contains c then some ⟨p.index + 1, c :: p.before, rest⟩ else none
  | [] => none

/-- The places of an ordered list, each once. -/
def distinct : List Place → List Place
  | [] => []
  | p :: ps =>
    match distinct ps with
    | [] => [p]
    | q :: qs => if p.index = q.index then q :: qs else p :: q :: qs

/-- The places of both sets. -/
def both (ps qs : List Place) : List Place :=
  distinct (ps.merge qs fun p q => p.index ≤ q.index)

/-- The places of the first set that are not in the second. -/
def missing : List Place → List Place → List Place
  | [], _ => []
  | p :: ps, [] => p :: ps
  | p :: ps, q :: qs =>
    if p.index < q.index then p :: missing ps (q :: qs)
    else if p.index = q.index then missing ps qs
    else missing (p :: ps) qs
termination_by ps qs => ps.length + qs.length

/-- The set after exactly `n` steps; it is known as soon as a step changes nothing. -/
def stepTimes (step : List Place → List Place) : Nat → List Place → List Place
  | 0, ps => ps
  | n + 1, ps =>
    let next := step ps
    if next.map Place.index = ps.map Place.index then ps else stepTimes step n next

/-- The set after at most `n` steps: `seen` are those reached so far, `last` those that the latest
step added. -/
def stepUpTo (step : List Place → List Place) : Nat → List Place → List Place → List Place
  | 0, seen, _ => seen
  | n + 1, seen, last =>
    match missing (step last) seen with
    | [] => seen
    | more => stepUpTo step n (both seen more) more

/-- The places at which an instance can end that begins at a place of the set. -/
def ends : Pattern → List Place → List Place
  | empty, ps => ps
  | char cls, ps => ps.filterMap (Place.advance? cls)
  | anchor a, ps => ps.filter fun p => a.holds p
  | seq q r, ps => ends r (ends q ps)
  | alt q r, ps => both (ends q ps) (ends r ps)
  | repeated q least most, ps =>
    let start := stepTimes (ends q) least ps
    let places := (start.map fun p => p.after.length).foldl max 0
    let bound := match most with
      | some n => min (n - least) places
      | none => places
    stepUpTo (ends q) bound start start

/-- All places of a text, from one on: `before` are the characters before it. -/
def placesFrom : Nat → List Char → List Char → List Place
  | index, before, [] => [⟨index, before, []⟩]
  | index, before, c :: rest => ⟨index, before, c :: rest⟩ :: placesFrom (index + 1) (c :: before) rest

/-- Whether some part of the text is an instance. -/
def occursIn (q : Pattern) (text : String) : Bool :=
  !(ends q (placesFrom 0 [] text.toList)).isEmpty

end Pattern
end EntityMapper
