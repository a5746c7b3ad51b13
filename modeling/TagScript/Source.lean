/-!
# Places in a source text

Lines and columns count characters from one. A fault found in a source text carries the place where
it was found; the file name joins it only when it is shown.
-/

namespace TagScript

/-- A place in a source text. -/
structure Position where
  line : Nat
  column : Nat
  deriving DecidableEq, Repr, Inhabited

namespace Position

/-- The first character's place. -/
def start : Position :=
  ⟨1, 1⟩

/-- The place after a character. -/
def next (place : Position) (c : Char) : Position :=
  if c = '\n' then ⟨place.line + 1, 1⟩ else ⟨place.line, place.column + 1⟩

/-- The place after a text. -/
def after (place : Position) (text : List Char) : Position :=
  text.foldl next place

/-- The place as diagnostics write it. -/
def toText (place : Position) : String :=
  s!"{place.line}:{place.column}"

end Position

/-- A cause with the place it was found at. -/
structure Located (Cause : Type) where
  position : Position
  cause : Cause
  deriving DecidableEq, Repr

/-- The diagnostic of a located cause in a file, given the wording of the cause. -/
def Located.message {Cause : Type} (wording : Cause → String) (file : String)
    (fault : Located Cause) : String :=
  s!"{file}:{fault.position.toText}: {wording fault.cause}"

end TagScript
