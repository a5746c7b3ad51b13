import TagScript.Machine.Run
import TagScript.Proofs.Separation

/-!
# Reading after writing in nested arrays

Two paths through nested arrays may be equal, one may lead on from where the other ends, or they may
part at some key. What is read at one of them after a value was written at the other depends on
that (`Cells.Overwritten`). Where they part, the write still shows if it had to replace something on
the way that both paths share.

The law is proved for all arrays first. A variable that holds no array counts as an empty one when
it is written, so the law holds for variables, too (`read_after_write`). There is one exception. The
write releases what it displaces, and an attribute of an object that goes then may be the variable
itself, because a variable variable can spell the name of a slot (`loses_written_cell`).
-/

namespace TagScript

/-- What further keys lead to inside of a value that was found at the end of a path. -/
def Value.readInside (name : String) (trail : List String) : Value → List String →
    Except Fault Value
  | .array cells, path => Cells.read name trail cells path
  | _, _ =>
    let keys := "][".intercalate trail
    .error (.notAnArray s!"{name}[{keys}]")

/-- An array, of whatever cells. -/
def Value.IsArray (value : Value) : Prop :=
  ∃ cells, value = .array cells

namespace Cells

/-- The cells of the array at a key. Where there is none, there are no cells. -/
def inner (cells : Cells) (key : String) : Cells :=
  match cells.get? key with
  | some (.array inner) => inner
  | _ => []

/-- The value at the end of a path, if there is one. -/
def cell? (cells : Cells) : List String → Option Value
  | [] => none
  | [key] => cells.get? key
  | key :: path => (cells.inner key).cell? path

/-- Something other than an array stands at the end of a way that two paths share. -/
def Blocks (cells : Cells) (path other : List String) : Prop :=
  ∃ common value, common ≠ [] ∧ common <+: path ∧ common <+: other ∧
    cells.cell? common = some value ∧ ¬ value.IsArray

/-- The result of reading at one path after a value was written at another one. The trail leads to
the array that both start from. -/
structure Overwritten (name : String) (trail : List String) (before : Cells)
    (path : List String) (value : Value) (other : List String) (result : Except Fault Value) :
    Prop where
  same : other = path → result = .ok value
  /-- The other path ends on the way to the value. -/
  above : other <+: path → other ≠ path → ∃ cells, result = .ok (.array cells)
  /-- The other path leads on into the value. -/
  below : ∀ more, more ≠ [] → other = path ++ more →
    result = value.readInside name (trail ++ path) more
  /-- The paths part, and the write has made room on the way that they share. -/
  blocked : ¬ other <+: path → ¬ path <+: other → before.Blocks path other →
    result = .ok .empty
  /-- The paths part, and the write does not show. -/
  apart : ¬ other <+: path → ¬ path <+: other → ¬ before.Blocks path other →
    result = read name trail before other

section Keys

variable (name : String) (trail : List String) (cells : Cells) (key : String)

theorem get?_insert (other : String) (value : Value) :
    (cells.insert key value).get? other = if key = other then some value else cells.get? other :=
  Entries.get?_insert cells key other value

theorem read_nil (path : List String) : read name trail [] path = .ok .empty := by
  cases path <;> rfl

theorem read_singleton : read name trail cells [key] = .ok ((cells.get? key).getD .empty) := by
  unfold read
  cases cells.get? key <;> rfl

/-- A path of several keys leads on from the value at the first one. -/
theorem read_cons {path : List String} (more : path ≠ []) :
    read name trail cells (key :: path) = (cells.get? key).elim (.ok .empty)
      fun value => value.readInside name (trail ++ [key]) path := by
  rcases List.exists_cons_of_ne_nil more with ⟨next, rest, rfl⟩
  unfold read
  cases cells.get? key with
  | none => rfl
  | some value => cases value <;> rfl

/-- Reading starts with one key, and does not look at others. -/
theorem read_insert_of_ne {other : String} (differs : key ≠ other) (value : Value)
    (path : List String) :
    read name trail (cells.insert key value) (other :: path) =
      read name trail cells (other :: path) := by
  have same : (cells.insert key value).get? other = cells.get? other := by
    rw [get?_insert, if_neg differs]
  by_cases last : path = []
  · rw [last, read_singleton, read_singleton, same]
  · rw [read_cons _ _ _ _ last, read_cons _ _ _ _ last, same]

/-- Writing at several keys makes an array of what is at the first one. -/
theorem write_cons {path : List String} (more : path ≠ []) (value : Value) :
    (cells.write (key :: path) value).1 =
      cells.insert key (.array ((cells.inner key).write path value).1) := by
  rw [write, inner]
  · cases cells.get? key with
    | none => rfl
    | some value => cases value <;> rfl
  · exact more

theorem read_write_of_ne {other : String} (differs : key ≠ other) (path path' : List String)
    (value : Value) :
    read name trail (cells.write (key :: path) value).1 (other :: path') =
      read name trail cells (other :: path') := by
  by_cases last : path = []
  · rw [last]
    exact read_insert_of_ne name trail cells key differs value path'
  · rw [write_cons _ _ last]
    exact read_insert_of_ne name trail cells key differs _ path'

/-- Nothing is displaced in an empty array. -/
theorem write_nil_snd (path : List String) (value : Value) : (write [] path value).2 = [] := by
  induction path with
  | nil => rfl
  | cons key path ih =>
    cases path with
    | nil => rfl
    | cons next rest => exact ih

/-- Behind a key that both paths start with, it is the array at that key that counts. -/
theorem read_write_cons {path other : List String} (more : path ≠ []) (more' : other ≠ [])
    (value : Value) :
    read name trail (cells.write (key :: path) value).1 (key :: other) =
      read name (trail ++ [key]) ((cells.inner key).write path value).1 other := by
  rw [write_cons _ _ more, read_cons _ _ _ _ more', get?_insert, if_pos rfl]
  rfl

end Keys

section Law

variable {name : String} {trail path other : List String} {cells : Cells} {value : Value}

theorem read_write_self (given : path ≠ []) :
    read name trail (cells.write path value).1 path = .ok value := by
  induction path generalizing trail cells with
  | nil => contradiction
  | cons key path ih =>
    by_cases last : path = []
    · rw [last, write, read_singleton, get?_insert, if_pos rfl]
      rfl
    · rw [read_write_cons _ _ _ _ last last]
      exact ih last

theorem read_write_above (given : other ≠ []) (front : other <+: path) (shorter : other ≠ path) :
    ∃ inside, read name trail (cells.write path value).1 other = .ok (.array inside) := by
  induction path generalizing trail cells other with
  | nil => exact absurd (List.prefix_nil.1 front) given
  | cons key path ih =>
    rcases List.exists_cons_of_ne_nil given with ⟨first, other, rfl⟩
    rcases List.cons_prefix_cons.1 front with ⟨rfl, behind⟩
    have differ : other ≠ path := fun same => shorter (congrArg _ same)
    have more : path ≠ [] := by
      rintro rfl
      exact differ (List.prefix_nil.1 behind)
    by_cases last : other = []
    · rw [last, write_cons _ _ more, read_singleton, get?_insert, if_pos rfl]
      exact ⟨_, rfl⟩
    · rw [read_write_cons _ _ _ _ more last]
      exact ih last behind differ

theorem read_write_below (given : path ≠ []) {more : List String} (further : more ≠ []) :
    read name trail (cells.write path value).1 (path ++ more) =
      value.readInside name (trail ++ path) more := by
  induction path generalizing trail cells with
  | nil => contradiction
  | cons key path ih =>
    by_cases last : path = []
    · rw [last, write]
      show read name trail (cells.insert key value) (key :: more) = _
      rw [read_cons _ _ _ _ further, get?_insert, if_pos rfl]
      rfl
    · rw [List.cons_append, read_write_cons _ _ _ _ last (List.append_ne_nil_of_left_ne_nil last _),
        ih last, List.append_assoc]
      rfl

/-- Behind the first key, the array at that key blocks the way, unless it is none. -/
theorem blocks_cons_iff {key : String} :
    cells.Blocks (key :: path) (key :: other) ↔
      (∃ value, cells.get? key = some value ∧ ¬ value.IsArray) ∨
        (cells.inner key).Blocks path other := by
  constructor
  · rintro ⟨common, value, given, front, front', found, scalar⟩
    rcases List.exists_cons_of_ne_nil given with ⟨first, common, rfl⟩
    rcases List.cons_prefix_cons.1 front with ⟨rfl, behind⟩
    have behind' := (List.cons_prefix_cons.1 front').2
    by_cases last : common = []
    · rw [last, cell?] at found
      exact .inl ⟨value, found, scalar⟩
    · rw [cell?] at found
      · exact .inr ⟨common, value, last, behind, behind', found, scalar⟩
      · exact last
  · rintro (⟨value, found, scalar⟩ | ⟨common, value, given, front, front', found, scalar⟩)
    · exact ⟨[key], value, List.cons_ne_nil _ _, List.prefix_append [key] path,
        List.prefix_append [key] other, found, scalar⟩
    · refine ⟨key :: common, value, List.cons_ne_nil _ _, List.cons_prefix_cons.2 ⟨rfl, front⟩,
        List.cons_prefix_cons.2 ⟨rfl, front'⟩, ?_, scalar⟩
      rw [cell?]
      · exact found
      · exact given

theorem not_blocks_nil : ¬ Blocks [] path other := by
  have missing (common : List String) : cell? [] common = none := by
    induction common with
    | nil => rfl
    | cons key common ih =>
      cases common with
      | nil => rfl
      | cons => exact ih
  rintro ⟨common, value, -, -, -, found, -⟩
  rw [missing] at found
  contradiction

theorem not_blocks_of_ne {key first : String} (differs : key ≠ first) :
    ¬ cells.Blocks (key :: path) (first :: other) := by
  rintro ⟨common, value, given, front, front', -⟩
  rcases List.exists_cons_of_ne_nil given with ⟨shared, common, rfl⟩
  exact differs ((List.cons_prefix_cons.1 front).1.symm.trans (List.cons_prefix_cons.1 front').1)

theorem inner_of_not_isArray {key : String} (found : cells.get? key = some value)
    (scalar : ¬ value.IsArray) : cells.inner key = [] := by
  unfold inner
  rw [found]
  cases value with
  | array inside => exact absurd ⟨inside, rfl⟩ scalar
  | scalar | object => rfl

/-- A path leads into the array at its first key, unless something else is there. -/
theorem read_inner {key : String} (more : path ≠ [])
    (free : ¬ ∃ value, cells.get? key = some value ∧ ¬ value.IsArray) :
    read name trail cells (key :: path) =
      read name (trail ++ [key]) (cells.inner key) path := by
  rw [read_cons _ _ _ _ more, inner]
  cases found : cells.get? key with
  | none => exact (read_nil name _ path).symm
  | some value =>
    by_cases array : value.IsArray
    · rcases array with ⟨inside, rfl⟩
      rfl
    · exact absurd ⟨value, found, array⟩ free

/-- Where two paths part, a write at one of them shows at the other if it had to make room. -/
theorem read_write_apart (left : ¬ other <+: path) (right : ¬ path <+: other) :
    (cells.Blocks path other →
      read name trail (cells.write path value).1 other = .ok .empty) ∧
    (¬ cells.Blocks path other →
      read name trail (cells.write path value).1 other = read name trail cells other) := by
  induction path generalizing trail cells other with
  | nil => exact absurd List.nil_prefix right
  | cons key path ih =>
    have given : other ≠ [] := by
      rintro rfl
      exact left List.nil_prefix
    rcases List.exists_cons_of_ne_nil given with ⟨first, other, rfl⟩
    by_cases same : key = first
    · subst same
      have left' : ¬ other <+: path := fun front => left (List.cons_prefix_cons.2 ⟨rfl, front⟩)
      have right' : ¬ path <+: other := fun front => right (List.cons_prefix_cons.2 ⟨rfl, front⟩)
      have more : path ≠ [] := by
        rintro rfl
        exact right' List.nil_prefix
      have more' : other ≠ [] := by
        rintro rfl
        exact left' List.nil_prefix
      rw [read_write_cons _ _ _ _ more more', blocks_cons_iff]
      have inside : ((cells.inner key).Blocks path other → read name (trail ++ [key])
          ((cells.inner key).write path value).1 other = .ok .empty) ∧ _ := ih left' right'
      constructor
      · rintro (⟨value, found, scalar⟩ | blocks)
        · -- The array that replaces the value starts out empty.
          rw [inner_of_not_isArray found scalar] at inside ⊢
          exact (inside.2 not_blocks_nil).trans (read_nil name _ other)
        · exact inside.1 blocks
      · intro free
        rcases not_or.1 free with ⟨here, below⟩
        exact (inside.2 below).trans (read_inner more' here).symm
    · exact ⟨fun blocks => absurd blocks (not_blocks_of_ne same),
        fun _ => read_write_of_ne name trail cells key same path other value⟩

theorem overwritten (given : path ≠ []) (given' : other ≠ []) :
    Overwritten name trail cells path value other
      (read name trail (cells.write path value).1 other) where
  same := by
    rintro rfl
    exact read_write_self given
  above := read_write_above given'
  below := by
    rintro more further rfl
    exact read_write_below given further
  blocked left right := (read_write_apart left right).1
  apart left right := (read_write_apart left right).2

end Law

end Cells

namespace State

section Arrays

variable {state : State} {scope name key : String} {cells : Cells}

/-- Each kind of values has places of its own. -/
theorem slot_of_get? {storage : Storage} {place : Binding} {value : Value}
    (stored : storage.get? place = some value) : place.slot = value.slot := by
  unfold Storage.get? at stored
  split at stored
  all_goals
    next kind =>
      rcases Option.map_eq_some_iff.1 stored with ⟨-, -, rfl⟩
      exact kind

/-- The array under a key is changed, and what it held at the path is let go. -/
theorem writeCells_of_stored (stored : state.storage.arrays.get? key = some cells)
    (path : List String) (value : Value) :
    state.writeCells key path value =
      ((cells.write path value).2.flatMap Value.handles,
        { state with
          storage := state.storage.insert key (.array (cells.write path value).1) }) := by
  unfold writeCells
  rw [stored]

theorem valueIn?_writeCells (bound : state.bindingIn? scope name = some ⟨.array, key⟩)
    (stored : state.storage.arrays.get? key = some cells) (path : List String) (value : Value) :
    (state.writeCells key path value).2.valueIn? scope name =
      some (.array (cells.write path value).1) := by
  rw [writeCells_of_stored stored]
  show (state.bindingIn? scope name).bind
    (state.storage.insert key (.array (cells.write path value).1)).get? = _
  rw [bound, Option.bind_some]
  exact (Storage.get?_insert _ key _ _).trans (if_pos rfl)

theorem openArray_of_bound (bound : state.bindingIn? scope name = some ⟨.array, key⟩) :
    state.openArray scope name = (key, state) := by
  unfold openArray
  rw [bound]

/-- A variable that is bound to anything else counts as an empty array when it is written. Nothing
is displaced in an empty array. -/
theorem writeCells_openArray_of_ne
    (other : ∀ key, state.bindingIn? scope name ≠ some ⟨.array, key⟩) (path : List String)
    (value : Value) :
    ((state.openArray scope name).2.writeCells (state.openArray scope name).1 path value).1 = [] ∧
      ((state.openArray scope name).2.writeCells (state.openArray scope name).1 path
        value).2.valueIn? scope name = some (.array (Cells.write [] path value).1) := by
  have opened : (state.openArray scope name).2.storage.arrays.get? (state.openArray scope name).1 =
      some [] := by
    unfold openArray
    split
    · next key bound => exact absurd bound (other key)
    · exact (Table.get?_insert _ _ _ _).trans (if_pos rfl)
  constructor
  · rw [writeCells_of_stored opened, Cells.write_nil_snd, List.flatMap_nil]
  · exact valueIn?_writeCells (bindingIn?_openArray state scope name) opened path value

theorem valueIn?_assignPath_of_ne {scope : Option String}
    (other : ∀ key, state.bindingIn? (scope.getD state.frame.scope) name ≠ some ⟨.array, key⟩)
    (path : List String) (value : Value) :
    (state.assignPath name path value scope).valueIn? (scope.getD state.frame.scope) name =
      some (.array (Cells.write [] path value).1) := by
  rcases @writeCells_openArray_of_ne (state.retain value) _ _ other path value with
    ⟨nothing, held⟩
  unfold assignPath
  dsimp only
  rw [nothing, release_nil]
  exact held

theorem classOf?_retainAll (state : State) (handles : List Handle) (other : Handle) :
    { state with heap := state.heap.retainAll handles }.classOf? other = state.classOf? other := by
  induction handles generalizing state with
  | nil => rfl
  | cons handle handles ih =>
    exact (ih { state with heap := state.heap.retain handle }).trans
      (classOf?_modify state handle other fun _ => rfl)

theorem bindingIn?_writeCells (state : State) (key : String) (path : List String) (value : Value)
    (scope name : String) :
    (state.writeCells key path value).2.bindingIn? scope name = state.bindingIn? scope name := by
  unfold writeCells
  split <;> rfl

/-- What is vacated is a matter of objects and bindings, not of counts and stored values. -/
theorem vacated_writeCells_iff (state : State) (key : String) (path : List String) (value : Value)
    {after : State} {place : Binding} :
    Vacated ((state.retain value).writeCells key path value).2 after place ↔
      Vacated state after place := by
  have alive (handle : Handle) :
      ((state.retain value).writeCells key path value).2.classOf? handle =
        state.classOf? handle := by
    rw [classOf?, heap_writeCells]
    exact classOf?_retainAll state value.handles handle
  have slots (handle : Handle) (className : String) :
      ((state.retain value).writeCells key path value).2.attributeSlots handle className =
        state.attributeSlots handle className := by
    unfold writeCells
    split <;> rfl
  simp only [Vacated, alive, slots, bindingIn?_writeCells]
  rfl

/-- A variable whose place stays leads to the same value. -/
theorem Reclaims.valueIn? {first second : State} {place : Binding}
    (reclaims : Reclaims first second) (bound : first.bindingIn? scope name = some place)
    (stays : ¬ Vacated first second place) :
    second.valueIn? scope name = first.valueIn? scope name := by
  unfold State.valueIn?
  rw [bound, reclaims.kept bound (.inr stays), Option.bind_some, Option.bind_some,
    reclaims.stored stays]

section Bound

variable {scope : Option String}
  (bound : state.bindingIn? (scope.getD state.frame.scope) name = some ⟨.array, key⟩)
include bound

/-- Writing to a variable that is bound to an array changes the array where it is, and releases what
is displaced. -/
theorem assignPath_of_bound (path : List String) (value : Value) :
    state.assignPath name path value scope =
      ((state.retain value).writeCells key path value).2.release
        ((state.retain value).writeCells key path value).1 := by
  have opened : (state.retain value).openArray (scope.getD state.frame.scope) name =
      (key, state.retain value) := openArray_of_bound bound
  unfold assignPath
  dsimp only
  rw [opened]

/-- The variable holds the array that the write makes of its cells, unless its place has gone with
an object. -/
theorem valueIn?_assignPath_of_not_vacated (stored : state.storage.arrays.get? key = some cells)
    {path : List String} {value : Value}
    (stays : ¬ Vacated state (state.assignPath name path value scope) ⟨.array, key⟩) :
    (state.assignPath name path value scope).valueIn? (scope.getD state.frame.scope) name =
      some (.array (cells.write path value).1) := by
  rw [assignPath_of_bound bound, ← vacated_writeCells_iff state key path value] at stays
  have written : ((state.retain value).writeCells key path value).2.bindingIn?
      (scope.getD state.frame.scope) name = some ⟨.array, key⟩ :=
    (bindingIn?_writeCells _ _ _ _ _ _).trans bound
  rw [assignPath_of_bound bound, (Reclaims.release _).valueIn? written stays]
  exact @valueIn?_writeCells (state.retain value) _ _ _ _ bound stored path value

/-- Where the place has gone, nothing is stored, and in the global scope the variable may not even
be bound. -/
theorem unstored_assignPath_of_vacated {path : List String} {value : Value}
    (goes : Vacated state (state.assignPath name path value scope) ⟨.array, key⟩) :
    (state.assignPath name path value scope).storage.get? ⟨.array, key⟩ = none ∧
      ((state.assignPath name path value scope).bindingIn? (scope.getD state.frame.scope) name =
          some ⟨.array, key⟩ ∨
        scope.getD state.frame.scope = globalScope ∧
          (state.assignPath name path value scope).bindingIn? globalScope name = none) := by
  rw [assignPath_of_bound bound, ← vacated_writeCells_iff state key path value] at goes
  have written : ((state.retain value).writeCells key path value).2.bindingIn?
      (scope.getD state.frame.scope) name = some ⟨.array, key⟩ :=
    (bindingIn?_writeCells _ _ _ _ _ _).trans bound
  rw [assignPath_of_bound bound]
  have reclaims : Reclaims ((state.retain value).writeCells key path value).2
      (((state.retain value).writeCells key path value).2.release
        ((state.retain value).writeCells key path value).1) := .release _
  refine ⟨reclaims.vacated goes, ?_⟩
  by_cases isGlobal : scope.getD state.frame.scope = globalScope
  · rw [isGlobal] at written ⊢
    cases left : (((state.retain value).writeCells key path value).2.release
        ((state.retain value).writeCells key path value).1).bindingIn? globalScope name with
    | none => exact .inr ⟨rfl, rfl⟩
    | some place => exact .inl ((reclaims.bound left).symm.trans written)
  · exact .inl (reclaims.kept written (.inl isGlobal))

end Bound

end Arrays

section Read

variable {state : State} {scope name : String} {reader : Option String} {spelling : String}

/-- Reading at a path starts from the cells of the array that a variable holds. -/
theorem readPath_of_valueIn? {cells : Cells} (spelled : state.link spelling = .ok name)
    (means : state.Means reader scope name)
    (held : state.valueIn? scope name = some (.array cells)) (path : List String) :
    state.readPath spelling path reader = Cells.read name [] cells path := by
  rcases Option.bind_eq_some_iff.1 held with ⟨⟨slot, key⟩, bound, stored⟩
  obtain rfl : slot = .array := slot_of_get? stored
  rcases Option.map_eq_some_iff.1 stored with ⟨cells', found, same⟩
  cases same
  unfold readPath
  rw [spelled]
  simp only [Bind.bind, Except.bind, binding?_of_means means bound, found]

theorem readPath_of_unbound (spelled : state.link spelling = .ok name)
    (here : reader.getD state.frame.scope = globalScope)
    (unbound : state.bindingIn? globalScope name = none) (path : List String) :
    state.readPath spelling path reader = .error (.variableNotFound name) := by
  have missing : state.binding? name reader = none := by
    rw [binding?, here, unbound]
    rfl
  unfold readPath
  rw [spelled]
  simp only [Bind.bind, Except.bind, missing]

theorem readPath_of_unstored {key : String} (spelled : state.link spelling = .ok name)
    (bound : state.bindingIn? (reader.getD state.frame.scope) name = some ⟨.array, key⟩)
    (unstored : state.storage.get? ⟨.array, key⟩ = none) (path : List String) :
    state.readPath spelling path reader = .error (.variableNotFound name) := by
  have missing : state.storage.arrays.get? key = none := Option.map_eq_none_iff.1 unstored
  unfold readPath
  rw [spelled]
  simp only [Bind.bind, Except.bind, binding?_of_means (.inl rfl) bound, missing]

end Read

end State

open State

/-- What is read at a path after a value was written at another one, as `Cells.Overwritten` tells:
in any array, and in any variable of any state. The cells of a variable that is not bound to an
array are those of an empty one. A variable that is bound to an array is read as told unless the
write has let go of the last reference to an object that has the variable for an attribute. Then it
is gone with the object. -/
theorem read_after_write {path other : List String} (given : path ≠ []) (given' : other ≠ [])
    (name : String) (value : Value) :
    (∀ (trail : List String) (cells : Cells), Cells.Overwritten name trail cells path value other
      (Cells.read name trail (cells.write path value).1 other)) ∧
    ∀ (state later : State) (scope : Option String) (spelling : String),
      later = state.assignPath name path value scope → later.link spelling = .ok name →
      ((∀ key, state.bindingIn? (scope.getD state.frame.scope) name ≠ some ⟨.array, key⟩) →
        Cells.Overwritten name [] [] path value other (later.readPath spelling other scope)) ∧
      ∀ key cells, state.bindingIn? (scope.getD state.frame.scope) name = some ⟨.array, key⟩ →
        state.storage.arrays.get? key = some cells →
        (¬ Vacated state later ⟨.array, key⟩ →
          Cells.Overwritten name [] cells path value other (later.readPath spelling other scope)) ∧
        (Vacated state later ⟨.array, key⟩ →
          later.readPath spelling other scope = .error (.variableNotFound name)) ∧
        ∀ earlier, state.link earlier = .ok name →
          state.readPath earlier other scope = Cells.read name [] cells other := by
  refine ⟨fun trail cells => Cells.overwritten given given', ?_⟩
  rintro state _ scope spelling rfl spelled
  have frame : (state.assignPath name path value scope).frame = state.frame :=
    frame_assignPath state name path value scope
  have means : (state.assignPath name path value scope).Means scope
      (scope.getD state.frame.scope) name := .inl (by rw [frame])
  constructor
  · intro unbound
    rw [readPath_of_valueIn? spelled means (valueIn?_assignPath_of_ne unbound path value)]
    exact Cells.overwritten given given'
  · intro key cells bound stored
    refine ⟨fun stays => ?_, fun goes => ?_, fun earlier spelled => ?_⟩
    · rw [readPath_of_valueIn? spelled means
        (valueIn?_assignPath_of_not_vacated bound stored stays)]
      exact Cells.overwritten given given'
    · rcases unstored_assignPath_of_vacated bound goes with
        ⟨unstored, still | ⟨isGlobal, unbound⟩⟩
      · rw [← frame] at still
        exact readPath_of_unstored spelled still unstored other
      · rw [← frame] at isGlobal
        exact readPath_of_unbound spelled isGlobal unbound other
    · have held : state.valueIn? (scope.getD state.frame.scope) name = some (.array cells) := by
        rw [valueIn?, bound]
        exact congrArg (Option.map Value.array) stored
      exact readPath_of_valueIn? spelled (.inl rfl) held other

/-- A row of a table has a number where a cell is written. The write replaces it by an array, and
the cell next to the written one, which could not be read before, is empty afterwards. -/
theorem read_after_write_of_tabled :
    State.tabled.readPath "t" ["k", "l", "n"] (some "f") = .error (.notAnArray "t[k][l]") ∧
    (State.tabled.assignPath "t" ["k", "l", "m"] (.int 2) (some "f")).readPath "t" ["k", "l", "n"]
      (some "f") = .ok .empty := by
  have bound : State.tabled.bindingIn? "f" "t" = some ⟨.array, "f#t"⟩ := by cbv
  have stored : State.tabled.storage.arrays.get? "f#t" =
      some [("k", .array [("l", .int 1)])] := by cbv
  have direct : IsDirect "t" := by decide
  have law := read_after_write (List.cons_ne_nil "k" ["l", "m"]) (List.cons_ne_nil "k" ["l", "n"])
    "t" (.int 2)
  rcases (law.2 State.tabled _ (some "f") "t" rfl (link_of_isDirect direct _)).2 _ _ bound stored
    with ⟨after, -, before⟩
  constructor
  · rw [before "t" (link_of_isDirect direct _)]
    cbv
  · have stays : ¬ Vacated State.tabled
        (State.tabled.assignPath "t" ["k", "l", "m"] (.int 2) (some "f")) ⟨.array, "f#t"⟩ := by
      rintro ⟨handle, className, slot, alive, -⟩
      contradiction
    apply (after stays).blocked (by decide) (by decide)
    refine ⟨["k", "l"], .int 1, by decide, by decide, by decide, rfl, ?_⟩
    rintro ⟨cells, impossible⟩
    contradiction

/-- Makes an array that holds an object an attribute of that object, lets go of all other
references, and computes the name of the slot. -/
def Script.enclosing : String :=
  "<? class C \x7b public $a; \x7d $o = new C(); $t['k'] = $o; $o->a = $t; $t = 0; $o = 0; " ++
    "$n = '0::a';"

/-- A variable variable gives access to the array. The write succeeds, but with the cell that it
overwrites the object goes, and the array with it. -/
theorem loses_written_cell : ∃ machine later result flow,
    Machine.runSource? {} Script.enclosing = some (result, machine) ∧
    (Eval.exec 2 (.arrayAssign "$n" (.key (.text "k")) (.integer 5))).outcome? machine =
      some (.ok flow, later) ∧
    machine.state.readPath "$n" ["k"] none = .ok (.object 0) ∧
    later.state.readPath "$n" ["k"] none = .error (.variableNotFound "0::a") := by
  have ends : ((Machine.runSource? {} Script.enclosing).bind fun ran =>
      ((Eval.exec 2 (.arrayAssign "$n" (.key (.text "k")) (.integer 5))).outcome? ran.2).map
        fun next => (next.1.toOption.isSome, ran.2.state.readPath "$n" ["k"] none,
          next.2.state.readPath "$n" ["k"] none)) =
      some (true, .ok (.object 0), .error (.variableNotFound "0::a")) := by cbv
  rcases Option.bind_eq_some_iff.1 ends with ⟨⟨result, machine⟩, ran, rest⟩
  rcases Option.map_eq_some_iff.1 rest with ⟨⟨result', later⟩, written, shown⟩
  simp only [Prod.mk.injEq] at shown
  rcases shown with ⟨succeeds, before, after⟩
  cases result' with
  | error fault => contradiction
  | ok flow => exact ⟨machine, later, result, flow, ran, written, before, after⟩

end TagScript
