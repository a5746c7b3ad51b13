import TagScript.Table.Entries
import TagScript.Value.Number

/-!
# Values

A value is a scalar, an array of values under textual keys, or a handle to an object. Arrays are
copied when assigned; objects are shared through their handles.
-/

namespace TagScript

/-- The identity of an object: how many objects were allocated before it. -/
abbrev Handle := Nat

/-- A value without parts. -/
inductive Scalar
  | int (n : Int64)
  | float (x : Float)
  | text (content : String)

/-- A value of the language. -/
inductive Value
  | scalar (content : Scalar)
  /-- Cells in ascending order of their keys. -/
  | array (cells : List (String × Value))
  | object (handle : Handle)

/-- The cells of an array. -/
abbrev Cells := List (String × Value)

/-- The kind of a value, as diagnostics name it. -/
inductive Kind
  | text
  | array
  | object
  | int
  | float
  deriving DecidableEq, Repr

/-- The word for a kind in diagnostics. -/
def Kind.name : Kind → String
  | .text => "Const"
  | .array => "Array"
  | .object => "Object"
  | .int => "Int"
  | .float => "Float"

namespace Scalar

/-- The kind of a scalar. -/
def kind : Scalar → Kind
  | int _ => .int
  | float _ => .float
  | text _ => .text

/-- The text of a scalar, as echoed and as used for an array key. -/
def toText : Scalar → String
  | int n => toString n.toInt
  | float x => numberText x
  | text content => content

/-- Zero, the empty text and the text `0` count as false. -/
def isTruthy : Scalar → Bool
  | int n => n != 0
  | float x => x != 0
  | text content => content != "" && content != "0"

end Scalar

namespace Value

/-- The value of statements, of missing array cells, and of functions that end without `return`. -/
def empty : Value :=
  scalar (.text "")

instance : Inhabited Value := ⟨empty⟩

/-- A text value. -/
def text (content : String) : Value :=
  scalar (.text content)

/-- An integer value. -/
def int (n : Int64) : Value :=
  scalar (.int n)

/-- A floating point value. -/
def float (x : Float) : Value :=
  scalar (.float x)

/-- Truth as a value: the text `1` or `0`. -/
def bool (b : Bool) : Value :=
  text (if b then "1" else "0")

/-- The kind of a value. -/
def kind : Value → Kind
  | scalar s => s.kind
  | array _ => .array
  | object _ => .object

/-- What `echo` writes for a value. -/
def toText : Value → String
  | scalar s => s.toText
  | array _ => "Array"
  | object _ => "Object"

/-- Whether a condition holds of a value. -/
def isTruthy : Value → Bool
  | scalar s => s.isTruthy
  | array cells => !cells.isEmpty
  | object _ => true

/-- The handle of an object value. -/
def handle? : Value → Option Handle
  | object handle => some handle
  | _ => none

mutual

/-- Every handle in a value, each as often as it occurs, in the order of the keys. -/
def handles : Value → List Handle
  | scalar _ => []
  | array cells => cellHandles cells
  | object handle => [handle]

/-- Every handle in the cells of an array. -/
def cellHandles : List (String × Value) → List Handle
  | [] => []
  | (_, value) :: rest => value.handles ++ cellHandles rest

end

mutual

/-- Equality as scripts test it. Scalars are compared by their text, arrays cell by cell, objects by
identity; there is no numeric coercion. -/
def same : Value → Value → Bool
  | scalar s, scalar t => s.toText = t.toText
  | array cells, array others => sameCells cells others
  | object handle, object other => handle = other
  | _, _ => false

/-- Equality of arrays: the same keys with equal values. -/
def sameCells : List (String × Value) → List (String × Value) → Bool
  | [], [] => true
  | (key, value) :: rest, (other, value') :: rest' =>
    key = other && value.same value' && sameCells rest rest'
  | _, _ => false

end

end Value

end TagScript
