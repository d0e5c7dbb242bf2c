/-!
# Records in outside notations

A record is read from named fields, in whatever notation they come. What does
not depend on the notation is said once: the names, their order, and what
happens when a field is not there.
-/

namespace Rehearsal

/-- What a field that is not given means. -/
inductive Absence where
  /-- The field has to be given. -/
  | refused
  /-- Among named fields it may be left out, in a bare sequence it may not. -/
  | unnamed
  /-- It may be left out everywhere. -/
  | allowed
  deriving DecidableEq

/-- A field of a record: `put` reads it and stores what it reads. -/
structure Field (Put : Type) where
  name : String
  absent : Absence
  put : Put

/-- A record: the values that hold before any field is read, and the fields in order. -/
structure Shape (σ Put : Type) where
  name : String
  start : σ
  fields : List (Field Put)

namespace Shape

variable {σ Put : Type}

/-- The field of a name. -/
def field? (shape : Shape σ Put) (name : String) : Option (Field Put) :=
  shape.fields.find? fun f => f.name == name

/-- The first field that has to be given, named or not, and is not among those given. -/
def missing? (shape : Shape σ Put) (given : List String) : Option String :=
  (shape.fields.find? fun f => f.absent == .refused && !given.contains f.name).map Field.name

/-- The record as a message asks for it. -/
def wanted (shape : Shape σ Put) : String := s!"struct {shape.name}"

/-- The record as a message asks for it with all its fields. -/
def wantedWhole (shape : Shape σ Put) : String :=
  let count := shape.fields.length
  let unit := if count = 1 then "element" else "elements"
  s!"struct {shape.name} with {count} {unit}"

end Shape
end Rehearsal
