import EntityMapper.Double.Extended
import EntityMapper.Json.Basic

/-!
# Fields

A field is a typed column declaration of an entity: its kind with the rules of that kind, and the
flags every kind has. The setters of one kind's rules leave fields of other kinds as they are.
-/

namespace EntityMapper

/-- How the values of a primary key are produced: counted by the database, drawn at random, or made
by a registered handler. -/
inductive KeyFormat where
  | integer
  | uuid
  | custom
deriving DecidableEq, Repr

/-- What a change of a row does to the rows that point at it. -/
inductive ReferentialAction where
  | noAction
  | restrict
  | cascade
  | setNull
  | setDefault
deriving DecidableEq, Repr

def ReferentialAction.sql : ReferentialAction → String
  | .noAction => "NO ACTION"
  | .restrict => "RESTRICT"
  | .cascade => "CASCADE"
  | .setNull => "SET NULL"
  | .setDefault => "SET DEFAULT"

/-- A column that points at the primary key of another entity. -/
structure ForeignKey where
  target : String
  targetKey : String := "id"
  format : KeyFormat := .integer
  onDelete : ReferentialAction := .setNull
  onUpdate : ReferentialAction := .noAction
deriving DecidableEq, Repr

/-- The type of a field with the rules of that type. A virtual field has no column. -/
inductive FieldKind where
  | text (maxLength minLength : Option Nat) (pattern : Option String)
  | number (minimum maximum : Option Double.Extended)
  | boolean
  | date
  | datetime
  | json
  | blob
  | primary (format : KeyFormat) (handler : Option String)
  | relation (key : ForeignKey)
  | virtual
deriving BEq

/-- A field of an entity. `fillable` fields are those a caller may write, `hidden` ones are not shown
unless asked for. -/
structure Field where
  name : String
  kind : FieldKind
  required : Bool := false
  defaultValue : Option Json := none
  hidden : Bool := false
  fillable : Bool := true
deriving BEq

namespace Field

def text (name : String) : Field := ⟨name, .text none none none, false, none, false, true⟩

def number (name : String) : Field := ⟨name, .number none none, false, none, false, true⟩

def plain (name : String) (kind : FieldKind) : Field := ⟨name, kind, false, none, false, true⟩

/-- A virtual field; nobody writes it. -/
def virtual (name : String) : Field := ⟨name, .virtual, false, none, false, false⟩

/-- A primary key; callers do not write it. -/
def primary (name : String) (format : KeyFormat) : Field :=
  ⟨name, .primary format none, false, none, false, false⟩

/-- A primary key whose values the handler registered under `handler` makes. -/
def primaryCustom (name handler : String) : Field :=
  ⟨name, .primary .custom (some handler), false, none, false, false⟩

/-- A column pointing at the primary key of `target`. -/
def relation (name target : String) (format : KeyFormat) : Field :=
  plain name (.relation { target, format })

/-! ## Setters -/

def asRequired (f : Field) : Field := { f with required := true }

def withDefault (f : Field) (value : Json) : Field := { f with defaultValue := some value }

def asHidden (f : Field) : Field := { f with hidden := true }

def notFillable (f : Field) : Field := { f with fillable := false }

def withMaxLength (f : Field) (n : Nat) : Field :=
  match f.kind with
  | .text _ least pattern => { f with kind := .text (some n) least pattern }
  | _ => f

def withMinLength (f : Field) (n : Nat) : Field :=
  match f.kind with
  | .text most _ pattern => { f with kind := .text most (some n) pattern }
  | _ => f

def withPattern (f : Field) (pattern : String) : Field :=
  match f.kind with
  | .text most least _ => { f with kind := .text most least (some pattern) }
  | _ => f

def withRange (f : Field) (minimum maximum : Option Double.Extended) : Field :=
  match f.kind with
  | .number _ _ => { f with kind := .number minimum maximum }
  | _ => f

/-- Changes the foreign key of a relation field. -/
def mapForeignKey (f : Field) (change : ForeignKey → ForeignKey) : Field :=
  match f.kind with
  | .relation key => { f with kind := .relation (change key) }
  | _ => f

def withTargetKey (f : Field) (name : String) : Field :=
  f.mapForeignKey fun key => { key with targetKey := name }

def withOnDelete (f : Field) (action : ReferentialAction) : Field :=
  f.mapForeignKey fun key => { key with onDelete := action }

def withOnUpdate (f : Field) (action : ReferentialAction) : Field :=
  f.mapForeignKey fun key => { key with onUpdate := action }

/-! ## Properties -/

def isPrimary (f : Field) : Bool :=
  match f.kind with
  | .primary _ _ => true
  | _ => false

def isVirtual (f : Field) : Bool :=
  match f.kind with
  | .virtual => true
  | _ => false

/-- Whether the field has a column. -/
def isStored (f : Field) : Bool := !f.isVirtual

def typeName (f : Field) : String :=
  match f.kind with
  | .text _ _ _ => "text"
  | .number _ _ => "number"
  | .boolean => "boolean"
  | .date => "date"
  | .datetime => "datetime"
  | .json => "json"
  | .blob => "blob"
  | .primary _ _ => "primary"
  | .relation _ => "relation"
  | .virtual => "virtual"

/-- The format of the keys that a primary or relation field holds. -/
def keyFormat (f : Field) : Option KeyFormat :=
  match f.kind with
  | .primary format _ => some format
  | .relation key => some key.format
  | _ => none

end Field
end EntityMapper
