import TagScript.Fault

/-!
# Cells of nested arrays

A list of keys leads through nested arrays to one cell. Writing turns everything on the way into an
array and reports what it displaced; reading finds the empty value where a cell is missing and fails
where the way leads through something that is no array.
-/

namespace TagScript

namespace Cells

/-- The value of a key. -/
def get? (cells : Cells) (key : String) : Option Value :=
  Entries.get? cells key

/-- Sets the value of a key. -/
def insert (cells : Cells) (key : String) (value : Value) : Cells :=
  Entries.insert cells key value

/-- Writes a value at the end of a path. The second result lists the displaced values, outermost
first. An empty path writes nothing. -/
def write (cells : Cells) : List String → Value → Cells × List Value
  | [], _ => (cells, [])
  | [key], value => (cells.insert key value, (cells.get? key).toList)
  | key :: path, value =>
    let (inner, displaced) := match cells.get? key with
      | none => ([], [])
      | some (.array inner) => (inner, [])
      | some other => ([], [other])
    let (inner, further) := write inner path value
    (cells.insert key (.array inner), displaced ++ further)

/-- Reads the value at the end of a path. `trail` holds the keys already passed, innermost last, and
`name` the variable; both appear in the fault. An empty path reads the empty value. -/
def read (name : String) (trail : List String) (cells : Cells) :
    List String → Except Fault Value
  | [] => .ok .empty
  | key :: path =>
    match cells.get? key, path with
    | none, _ => .ok .empty
    | some value, [] => .ok value
    | some (.array inner), path => read name (trail ++ [key]) inner path
    | some _, _ =>
      let keys := "][".intercalate (trail ++ [key])
      .error (.notAnArray s!"{name}[{keys}]")

end Cells

end TagScript
