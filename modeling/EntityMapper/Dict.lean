/-!
# Dictionaries

A dictionary from text keys to values, kept as an association list whose keys increase strictly by
code point. `insert` keeps the order and lets the last value of a key win, so two dictionaries with
the same entries are the same list.
-/

namespace EntityMapper

universe u

/-- Entries in the order of their keys. -/
abbrev Dict (α : Type u) := List (String × α)

namespace Dict

variable {α : Type u}

/-- The keys increase strictly, so each occurs once. -/
def Sorted (d : Dict α) : Prop := (d.map Prod.fst).Pairwise (· < ·)

def get? : Dict α → String → Option α
  | [], _ => none
  | (k, v) :: rest, key => if k = key then some v else get? rest key

def contains (d : Dict α) (key : String) : Bool := (d.get? key).isSome

/-- Sets the value of `key`, in the place the order gives it. -/
def insert : Dict α → String → α → Dict α
  | [], key, value => [(key, value)]
  | (k, v) :: rest, key, value =>
    if key = k then (key, value) :: rest
    else if key < k then (key, value) :: (k, v) :: rest
    else (k, v) :: insert rest key value

def keys (d : Dict α) : List String := d.map Prod.fst

def values (d : Dict α) : List α := d.map Prod.snd

/-- Leaves out the entry of `key`. -/
def erase (d : Dict α) (key : String) : Dict α := d.filter (·.1 != key)

/-- Entries given in any order; of two entries with one key the later counts. -/
def ofList (entries : List (String × α)) : Dict α :=
  entries.foldl (fun d e => insert d e.1 e.2) []

/-- Adds a value to those of a key. -/
def push (d : Dict (List α)) (key : String) (value : α) : Dict (List α) :=
  insert d key ((d.get? key).getD [] ++ [value])

/-- Entries given in any order; all values of a key, in the order given. -/
def group (entries : List (String × α)) : Dict (List α) :=
  entries.foldl (fun d e => push d e.1 e.2) []

end Dict
end EntityMapper
