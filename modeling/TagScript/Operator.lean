/-!
# Binary operators

The comparison and arithmetic operators of the language and the symbols that scripts and
diagnostics write for them.
-/

namespace TagScript

/-- A comparison of two values. -/
inductive Comparison
  | equal
  | notEqual
  | greater
  | less
  | greaterEqual
  | lessEqual
  deriving DecidableEq, Repr

/-- The sign a script writes. -/
def Comparison.symbol : Comparison → String
  | .equal => "=="
  | .notEqual => "!="
  | .greater => ">"
  | .less => "<"
  | .greaterEqual => ">="
  | .lessEqual => "<="

/-- An arithmetic operation on two values. -/
inductive Arithmetic
  | add
  | subtract
  | divide
  | multiply
  deriving DecidableEq, Repr

/-- The sign a script writes. -/
def Arithmetic.symbol : Arithmetic → String
  | .add => "+"
  | .subtract => "-"
  | .divide => "/"
  | .multiply => "*"

end TagScript
