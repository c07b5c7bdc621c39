import ImageCatalog.Config.Basic
import ImageCatalog.Value.Entries

/-!
# Value maps

The values chosen for the parameters of a configuration are kept by the position of the parameter,
since names may be missing or repeated. A map starts with the default of every parameter.
-/

namespace ImageCatalog

open Config

/-- Values by the position of their parameter. -/
abbrev ValueMap := List (Nat × Value)

namespace ValueMap

/-- The value at a position. -/
def find? (index : Nat) (values : ValueMap) : Option Value :=
  Entries.find? index values

/-- The value at a position, unless it is null. -/
def present? (index : Nat) (values : ValueMap) : Option Value :=
  (values.find? index).filter fun value => !value.isNull

/-- The defaults of some parameters, from the given position on. -/
def seedFrom (index : Nat) : List Parameter → ValueMap
  | [] => []
  | parameter :: rest => (index, parameter.defaultValue) :: seedFrom (index + 1) rest

/-- The defaults of all parameters. -/
def seed (description : Description) : ValueMap :=
  seedFrom 0 description.parameters

end ValueMap

end ImageCatalog
