/-! # Name rules

    Every sheet has its own rules for names: a normal form that all names and
    variables are brought to, and a test that the normal form has to pass. -/

namespace Worksheet

/-- How a sheet treats the names of cells and variables. -/
structure NameRules where
  /-- Brings a name to its normal form. -/
  normalize : String → String
  /-- Tests a name in normal form. -/
  isValid : String → Bool

/-- A question put to the name rules. -/
inductive NameQuery where
  /-- What is the normal form of `raw`? -/
  | normalize (raw : String)
  /-- Is the normal form `name` allowed? -/
  | validate (name : String)
  deriving DecidableEq, Repr

namespace NameRules

/-- The rules that keep every name and allow every name. -/
def plain : NameRules where
  normalize name := name
  isValid _ := true

end NameRules

end Worksheet
