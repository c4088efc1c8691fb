/-! How YAML texts are read: strictly or with some tolerance, and by which rules for plain scalars. -/

namespace BoxTree.Yaml

/-- How much a reader lets pass. A tolerant one lets anchors be given again, keys be sequences or be left
out, and colons and question marks stand inside words, but no key twice in a mapping. -/
inductive Dialect where
  | strict
  | tolerant
deriving DecidableEq

/-- The edition of the rules for plain scalars. The second one knows fewer words for truth, no base sixty
and no octal numbers without a mark, and needs no point or sign in an exponent. The eased one is the first
one with `y` and `n` for truth and the exponents of the second. -/
inductive Edition where
  | first
  | eased
  | second
deriving DecidableEq

namespace Edition

def isEarly (edition : Edition) : Bool := edition != .second

end Edition

structure Rules where
  dialect : Dialect
  edition : Edition
deriving DecidableEq

namespace Dialect

def rules (dialect : Dialect) (version : Option (Nat × Nat)) : Rules :=
  match dialect, version with
  | strict, _ => ⟨strict, .first⟩
  | tolerant, some (1, 1) => ⟨tolerant, .eased⟩
  | tolerant, _ => ⟨tolerant, .second⟩

end Dialect

namespace Rules

def isTolerant (rules : Rules) : Bool := rules.dialect == .tolerant

/-- Whether keys may be left out, and colons and question marks may stand inside flow collections. -/
def isLoose (rules : Rules) : Bool := rules == ⟨.tolerant, .second⟩

end Rules
end BoxTree.Yaml
