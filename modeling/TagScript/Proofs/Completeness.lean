import TagScript.Proofs.References
import TagScript.Proofs.Steadiness

/-!
# Live objects are complete

A new object gets all attributes that its class declares before anything else happens to it, and it
keeps them as long as it lives. Attributes share the global scope with the variables, and their
slots are unbound and bound again all the time: by assignments, to the attribute or to a variable
that happens to have the name of the slot, and by the cascade that an assignment sets off. Still no
change of the state loses a slot of an object that survives the change (`State.Spares`). Slots go
with their objects only.

So whatever sources have been run on a machine, and whether they have succeeded or failed, every
attribute that the class of a live object declares can be read (`readAttribute_of_live`).
-/

namespace TagScript

open State Eval

namespace State

/-- The slot of an attribute is bound in the global scope, be it as an attribute or as a variable of
that name. -/
def BindsSlot (state : State) (handle : Handle) (name : String) : Prop :=
  (state.bindingIn? globalScope (attributeSlot handle name)).isSome

/-- No object appears or changes its class, and objects that are still there keep their slots. -/
structure Spares (before after : State) : Prop where
  live : ∀ {handle className}, after.classOf? handle = some className →
    before.classOf? handle = some className
  slots : ∀ {handle name}, (after.classOf? handle).isSome → before.BindsSlot handle name →
    after.BindsSlot handle name

namespace Spares

variable {first second third state : State}

theorem refl : Spares state state :=
  ⟨id, fun _ => id⟩

theorem trans (one : Spares first second) (two : Spares second third) : Spares first third where
  live alive := one.live (two.live alive)
  slots alive binds := by
    obtain ⟨className, found⟩ := Option.isSome_iff_exists.1 alive
    exact two.slots alive (one.slots (Option.isSome_of_mem (two.live found)) binds)

/-- Stored values and the frame do not matter. -/
theorem store (storage : Storage) (frame : Frame) : Spares state { state with storage, frame } :=
  ⟨id, fun _ => id⟩

/-- Counts do not matter either. -/
theorem modify (handle : Handle) {change : Instance → Instance}
    (same : ∀ object, (change object).className = object.className) :
    Spares state { state with heap := state.heap.modify handle change } := by
  refine ⟨fun {other className} alive => ?_, fun _ => id⟩
  rw [← alive, classOf?_modify state handle other same]

theorem modifyAll (handles : List Handle) {change : Instance → Instance}
    (same : ∀ object, (change object).className = object.className) :
    Spares state { state with
      heap := handles.foldl (fun heap handle => heap.modify handle change) state.heap } := by
  induction handles generalizing state with
  | nil => exact refl
  | cons handle handles ih => exact (modify handle same).trans ih

theorem retain (value : Value) : Spares state (state.retain value) :=
  modifyAll value.handles fun _ => rfl

theorem disown (value : Value) : Spares state (state.disown value) :=
  modifyAll value.handles fun _ => rfl

/-- An object that is reclaimed takes along slots of its own only. -/
theorem reclaim (handle : Handle) (className : String) :
    Spares state (state.reclaim handle className).2 := by
  constructor
  · intro other className' alive
    rw [classOf?_reclaim] at alive
    split at alive
    · cases alive
    · exact alive
  · intro other name alive binds
    have differs : handle ≠ other := by
      rintro rfl
      rw [classOf?_reclaim, if_pos rfl] at alive
      cases alive
    have outside : attributeSlot other name ∉ state.attributeSlots handle className := by
      intro inside
      rcases exists_of_mem_attributeSlots inside with ⟨-, -, member, -, same⟩
      exact differs (attributeSlot_inj same).1.symm
    have kept : (state.reclaim handle className).2.bindingIn? globalScope
        (attributeSlot other name) = state.bindingIn? globalScope (attributeSlot other name) :=
      bindingIn?_takeAll_of_not_mem fun _ => outside
    unfold BindsSlot
    rwa [kept]

theorem release (handles : List Handle) : Spares state (state.release handles) := by
  apply release_induction (motive := fun _ later => Spares state later)
  · intro later handle handles spares _
    exact spares.trans (modify handle fun _ => rfl)
  · intro later handle handles object spares _ _
    have counted : Spares later { later with heap := later.heap.decrement handle } :=
      modify handle fun _ => rfl
    exact spares.trans (counted.trans (reclaim handle _))
  · exact refl

theorem discardHandle (handle : Handle) : Spares state (state.discardHandle handle) := by
  unfold State.discardHandle
  split
  · exact refl
  · split
    · exact (reclaim handle _).trans (release _)
    · exact refl

/-- A name that is unbound and bound again loses nothing. In between its slot may be missing, and
what it held before is released, but that does not touch other slots of surviving objects. -/
theorem rebind (scope name key : String) (value : Value) :
    Spares state ((state.unlink scope name).setBinding scope name key value) := by
  have released : Spares (state.take scope name).2 (state.unlink scope name) := by
    rw [unlink_eq]
    exact release _
  have heap : (state.take scope name).2.heap = state.heap := heap_take state scope name
  constructor
  · intro handle className alive
    have before := released.live alive
    rwa [classOf?, heap] at before
  · intro handle name' alive binds
    unfold BindsSlot
    rw [bindingIn?_setBinding]
    split
    · rfl
    · next differs =>
      apply released.slots alive
      unfold BindsSlot
      rwa [bindingIn?_take, if_neg differs]

theorem bind (scope name key : String) (value : Value) :
    Spares state (state.bind scope name key value) :=
  (retain value).trans (rebind scope name key value)

theorem openArray (scope name : String) : Spares state (state.openArray scope name).2 := by
  unfold State.openArray
  split
  · exact refl
  · exact rebind scope name _ _

theorem writeCells (key : String) (path : List String) (value : Value) :
    Spares state (state.writeCells key path value).2 := by
  unfold State.writeCells
  split
  · exact refl
  · exact store _ state.frame

theorem assignPath (name : String) (path : List String) (value : Value) (scope : Option String) :
    Spares state (state.assignPath name path value scope) :=
  (retain value).trans ((openArray _ name).trans ((writeCells _ path value).trans (release _)))

theorem clear (places : List Binding) : Spares state (state.clear places) := by
  induction places generalizing state with
  | nil => exact refl
  | cons place places ih =>
    unfold State.clear
    split
    · exact ih
    · exact (store _ state.frame).trans ((release _).trans ih)

/-- Scopes other than the global one hold no slots. -/
theorem eraseScope {scope : String} (named : scope ≠ globalScope) (storage : Storage) :
    Spares state { state with storage, scopes := state.scopes.erase scope } := by
  refine ⟨id, fun _ binds => ?_⟩
  unfold BindsSlot
  rwa [bindingIn?_erase, if_neg named]

theorem drop {scope : String} (named : scope ≠ globalScope) : Spares state (state.drop scope) := by
  unfold State.drop
  split
  · exact refl
  · exact (eraseScope named state.storage).trans (clear _)

theorem suspend {scope : String} (named : scope ≠ globalScope) :
    Spares state (state.suspend scope).2 := by
  unfold State.suspend
  split
  · exact refl
  · exact eraseScope named _

theorem resumeEarlier {scope : String} (named : scope ≠ globalScope) :
    Spares second (second.resumeEarlier (first.suspend scope).1) := by
  cases given : (first.suspend scope).1 with
  | none => exact refl
  | some suspended =>
    refine ⟨id, fun _ binds => ?_⟩
    show ((second.resume suspended).bindingIn? globalScope _).isSome
    rwa [bindingIn?_resume (from_of_suspend given), if_neg named]

theorem holdReceiver (receiver : Option Receiver) :
    Spares state (state.holdReceiver receiver) := by
  cases receiver with
  | none => exact refl
  | some receiver => exact modify receiver.handle fun _ => rfl

theorem holdResult (result : Option Value) : Spares state (state.holdResult result) := by
  cases result with
  | none => exact refl
  | some value => exact retain value

theorem disownResult (result : Option Value) : Spares state (state.disownResult result) := by
  cases result with
  | none => exact refl
  | some value => exact disown value

theorem letGoReceiver (result : Option Value) (receiver : Option Receiver) :
    Spares state (state.letGoReceiver result receiver) := by
  cases receiver with
  | none => exact refl
  | some receiver =>
    unfold State.letGoReceiver State.letGo
    dsimp only
    split
    · exact modify receiver.handle fun _ => rfl
    · exact release _

theorem foldl {change : State → Value → State}
    (each : ∀ {state : State} value, Spares state (change state value)) (values : List Value) :
    Spares state (values.foldl change state) := by
  induction values generalizing state with
  | nil => exact refl
  | cons value values ih => exact (each value).trans ih

theorem bindArguments (params : List String) (values : List Value) :
    Spares state (state.bindArguments params values) :=
  (foldl (fun value => (bind _ _ _ value).trans (store _ _)) values).trans (foldl disown values)

theorem beginCall {frame : Frame} (named : frame.scope ≠ globalScope)
    (receiver : Option Receiver) : Spares state (state.beginCall frame receiver).2 := by
  rw [beginCall_eq]
  exact (holdReceiver receiver).trans ((suspend named).trans (store _ frame))

theorem endCall {frame : Frame} (named : frame.scope ≠ globalScope)
    (receiver : Option Receiver) (result : Option Value) :
    Spares second (second.endCall (first.beginCall frame receiver).1 result) := by
  rw [beginCall_eq, endCall_eq]
  exact (holdResult result).trans ((drop named).trans ((resumeEarlier named).trans
    ((store _ _).trans ((letGoReceiver result receiver).trans (disownResult result)))))

end Spares

/-- The class of an object is declared, and all attributes that it declares are bound. -/
def Furnished (classes : Table ClassDecl) (handle : Handle) (className : String)
    (state : State) : Prop :=
  ∃ decl, classes.get? className = some decl ∧
    ∀ member ∈ decl.attributes, state.BindsSlot handle member.name

theorem Spares.furnished {before after : State} (spares : Spares before after)
    {classes : Table ClassDecl} {handle : Handle} {className : String}
    (alive : after.classOf? handle = some className)
    (furnished : before.Furnished classes handle className) :
    after.Furnished classes handle className := by
  rcases furnished with ⟨decl, found, binds⟩
  exact ⟨decl, found, fun member inside =>
    spares.slots (Option.isSome_of_mem alive) (binds member inside)⟩

/-- Every live object is furnished. -/
def Complete (classes : Table ClassDecl) (state : State) : Prop :=
  ∀ handle className, state.classOf? handle = some className →
    state.Furnished classes handle className

theorem Spares.complete {before after : State} (spares : Spares before after)
    {classes : Table ClassDecl} (complete : before.Complete classes) : after.Complete classes :=
  fun handle className alive =>
    spares.furnished alive (complete handle className (spares.live alive))

/-- A class that is declared later has another name than the classes of the objects. -/
theorem Complete.declareClass {state later : State} (complete : state.Complete state.classes)
    {decl : ClassDecl} (declares : state.declareClass decl = .ok later) :
    later.Complete later.classes := by
  have new : state.classes.get? decl.name = none := by
    unfold State.declareClass at declares
    split at declares
    · cases declares
    · next unknown => simpa [Table.contains] using unknown
  rw [eq_of_declareClass declares]
  intro handle className alive
  rcases complete handle className alive with ⟨known, found, binds⟩
  refine ⟨known, ?_, binds⟩
  have differs : decl.name ≠ className := by
    rintro rfl
    rw [new] at found
    cases found
  rw [Table.get?_insert, if_neg differs, found]

/-- States in which nodes may run: the declarations are fixed, and live objects are furnished. -/
structure Whole (functions : Table FunctionDecl) (classes : Table ClassDecl) (state : State) :
    Prop where
  declared : state.functions = functions ∧ state.classes = classes
  complete : state.Complete classes

/-- States in which one object is being made: it has the attributes in the list, if it is still
there. All others are furnished. -/
structure Making (functions : Table FunctionDecl) (classes : Table ClassDecl) (decl : ClassDecl)
    (handle : Handle) (members : List AttributeDecl) (state : State) : Prop where
  declared : state.functions = functions ∧ state.classes = classes
  own : ∀ className, state.classOf? handle = some className →
    className = decl.name ∧ ∀ member ∈ members, state.BindsSlot handle member.name
  others : ∀ other className, other ≠ handle → state.classOf? other = some className →
    state.Furnished classes other className

section Whole

variable {functions : Table FunctionDecl} {classes : Table ClassDecl} {decl : ClassDecl}
  {handle : Handle} {members : List AttributeDecl} {state before after : State}

theorem Whole.step (whole : before.Whole functions classes)
    (declared : after.functions = functions ∧ after.classes = classes)
    (spares : Spares before after) : after.Whole functions classes ∧ True :=
  ⟨⟨declared, spares.complete whole.complete⟩, trivial⟩

/-- A new object has no attributes yet. -/
theorem Whole.allocate (whole : state.Whole functions classes) :
    { state with heap := state.heap.allocate decl.name }.Making functions classes decl
      state.heap.next [] where
  declared := whole.declared
  own className alive := by
    rw [classOf?, Heap.get?_allocate, if_pos rfl] at alive
    cases alive
    exact ⟨rfl, fun _ => List.not_mem_nil.elim⟩
  others other className differs alive := by
    rw [classOf?, Heap.get?_allocate, if_neg differs] at alive
    exact whole.complete other className alive

/-- Setting an attribute adds it to those that the object has. -/
theorem Making.assignAttribute (making : state.Making functions classes decl handle members)
    (member : AttributeDecl) (value : Value) :
    (state.assignAttribute handle member.name value).Making functions classes decl handle
      (members ++ [member]) := by
  have unlinked : Sheds [] state
      ((state.retain value).unlink globalScope (attributeSlot handle member.name)) :=
    (Sheds.retain value).trans (.unlink _ _)
  have spares : Spares state (state.assignAttribute handle member.name value) := .bind _ _ _ _
  have binds : (state.assignAttribute handle member.name value).BindsSlot handle member.name := by
    unfold BindsSlot State.assignAttribute State.bind
    rw [bindingIn?_setBinding, if_pos ⟨rfl, rfl⟩]
    rfl
  refine ⟨unlinked.declared making.declared, ?_, ?_⟩
  · intro className alive
    have before := making.own className (spares.live alive)
    refine ⟨before.1, List.forall_mem_append.2 ⟨fun other inside => ?_, ?_⟩⟩
    · exact spares.slots (Option.isSome_of_mem alive) (before.2 other inside)
    · exact List.forall_mem_singleton.2 binds
  · intro other className differs alive
    exact spares.furnished alive (making.others other className differs (spares.live alive))

/-- An object with all its attributes is furnished like the others. -/
theorem Making.whole (making : state.Making functions classes decl handle decl.attributes)
    (found : classes.get? decl.name = some decl) : state.Whole functions classes := by
  refine ⟨making.declared, fun other className alive => ?_⟩
  by_cases here : other = handle
  · subst here
    rcases making.own className alive with ⟨rfl, binds⟩
    exact ⟨decl, found, binds⟩
  · exact making.others other className here alive

end Whole

end State

/-- While nodes run, live objects are complete, except for one that is being made. -/
def completeness (functions : Table FunctionDecl) (classes : Table ClassDecl)
    (named : functions.get? globalScope = none) : Discipline where
  functions := functions
  classes := classes
  ready := Whole functions classes
  related _ _ := True
  known _ _ := True
  admitted frame := frame.scope ≠ globalScope
  built := (ownership functions classes named fun _ => False).built
  declared ready := ready.declared
  refl _ := trivial
  trans _ _ := trivial
  kept _ _ := trivial
  reached _ _ _ := trivial
  retain ready value := ready.step ready.declared (.retain value)
  disown ready value := ready.step ready.declared (.disown value)
  release ready handles :=
    ready.step ((steadiness functions classes).release ready.declared handles).1 (.release handles)
  discardHandle ready handle :=
    ready.step ((steadiness functions classes).discardHandle ready.declared handle).1
      (.discardHandle handle)
  assign ready name value known :=
    ready.step ((steadiness functions classes).assign ready.declared name known).1 (.bind _ _ _ _)
  assignPath ready name path value known :=
    ready.step ((steadiness functions classes).assignPath ready.declared name path known).1
      (.assignPath name path value none)
  call := by
    intro state ready frame named running receiver params values passed
    obtain ⟨begun, ended⟩ := (steadiness functions classes).call ready.declared trivial running
      receiver params passed
    have spares : Spares state
        ((state.beginCall frame receiver).2.bindArguments params values) :=
      (Spares.beginCall named receiver).trans (.bindArguments params values)
    refine ⟨(ready.step begun spares).1, fun {later} ready' _ result returned => ?_⟩
    have back := declared_endCall ready'.declared (state.beginCall frame receiver).1 result
    exact ⟨ready'.step back (.endCall named receiver result), fun _ _ => trivial⟩

namespace Eval

variable {functions : Table FunctionDecl} {classes : Table ClassDecl}
  {named : functions.get? globalScope = none}

section Instantiate

variable {run : Node → Eval Flow}
  (constants : ∀ node : Node, node.isConstant →
    Harmless (run node) fun flow => flow.value.IsScalar)
include constants

/-- A new object gets one attribute after the other. None of the initial values can fail. -/
theorem making_setAttributes {decl : ClassDecl} {handle : Handle}
    {members rest : List AttributeDecl}
    (constant : ∀ member ∈ rest, ∀ node, member.init = some node → node.isConstant) :
    Meets (Making functions classes decl handle members) (setAttributes run handle rest)
      fun result state => result = .ok () ∧
        state.Making functions classes decl handle (members ++ rest) := by
  induction rest generalizing members with
  | nil =>
    apply meets_pure
    intro state making
    rw [List.append_nil]
    exact ⟨rfl, making⟩
  | cons member rest ih =>
    rw [List.forall_mem_cons] at constant
    have initial : Meets (Making functions classes decl handle members)
        (initialValue run member) fun result state =>
          (∃ value, result = .ok value) ∧ state.Making functions classes decl handle members := by
      intro machine result later making ran
      rcases Harmless.initialValue constants constant.1 _ _ _ ran with ⟨rfl, value, ended, -⟩
      exact ⟨⟨value, ended⟩, making⟩
    refine initial.bind (fun value => ?_) ?_
    · have assigned : Meets (Making functions classes decl handle members)
          (update (·.assignAttribute handle member.name value)) fun result state =>
            result = .ok () ∧
              state.Making functions classes decl handle (members ++ [member]) :=
        meets_update fun state making => ⟨rfl, making.assignAttribute member value⟩
      have others : Meets (Making functions classes decl handle (members ++ [member]))
          (setAttributes run handle rest) fun result state => result = .ok () ∧
            state.Making functions classes decl handle (members ++ member :: rest) := by
        rw [List.append_cons members member rest]
        exact ih constant.2
      exact (assigned.bind (fun _ => others.strengthen fun _ => And.right)
        fun _ _ impossible => (by cases impossible.1)).strengthen fun _ => And.right
    · rintro fault state ⟨⟨value, impossible⟩, -⟩
      cases impossible

/-- Making an object of a declared class leaves all objects complete, the new one included. -/
theorem completeness_instantiate {decl : ClassDecl} (found : classes.get? decl.name = some decl) :
    (completeness functions classes named).Allows [] (instantiate run decl)
      fun handle => { handles := [handle] } := by
  intro machine result later ready _ ran
  unfold instantiate at ran
  split at ran
  · cases ran
    exact ⟨⟨ready, trivial⟩, nofun⟩
  · next unconstant =>
    have constant : ∀ member ∈ decl.attributes, ∀ node, member.init = some node →
        node.isConstant := by
      intro member inside node given
      have none := List.find?_eq_none.1 unconstant member inside
      simpa [given] using none
    rcases outcome_of_bind ran with ⟨fault, failed, -⟩ | ⟨handle, middle, ended, rest⟩
    · cases failed
    · cases ended
      have made : Meets (Making functions classes decl machine.state.heap.next [])
          (do
            setAttributes run machine.state.heap.next decl.attributes
            return machine.state.heap.next)
          fun _ state => state.Whole functions classes := by
        refine (making_setAttributes constants constant).bind (fun _ => ?_) ?_
        · exact meets_pure fun state making => making.2.whole found
        · rintro fault state ⟨impossible, -⟩
          cases impossible
      have whole := made _ _ _ ready.allocate rest
      exact ⟨⟨whole, trivial⟩, fun _ _ => ⟨trivial, fun _ _ => trivial⟩⟩

end Instantiate

/-- Running a node leaves live objects complete, however many nested steps it may take. -/
theorem completeness_exec
    (keyed : ∀ {name decl}, classes.get? name = some decl → decl.name = name) (steps : Nat) :
    (completeness functions classes named).Runs (exec steps) := by
  induction steps with
  | zero => exact fun _ => Discipline.allows_cutOff
  | succ steps ih =>
    intro node
    have constants : ∀ node : Node, node.isConstant →
        Harmless (exec steps node) fun flow => flow.value.IsScalar := by
      rw [← watched_true]
      exact harmless_watched _ steps
    have runs := Discipline.runs_iff.2 ih
    apply Discipline.allows_iff.1
    apply Coupling.step runs
    · intro decl className found
      exact Discipline.allows_iff.2 (completeness_instantiate constants (keyed found ▸ found))
    · intro target member expression _
      apply Coupling.assignMember runs
      rintro state _ ⟨rfl, ready⟩ handle name declares value known
      have declared := ((steadiness_writesFreely functions classes).assignAttribute
        ready.declared handle declares known).1
      exact Discipline.Admits.moves (ready.step declared (.bind _ _ _ _))

end Eval

/-- What is bound is stored between two programs, so it can be read. -/
theorem State.readAttribute_of_bindsSlot {state : State} (keyed : state.WellKeyed [])
    {handle : Handle} {name : String} (binds : state.BindsSlot handle name) :
    ∃ value, state.readAttribute handle name = .ok value := by
  obtain ⟨place, found⟩ := Option.isSome_iff_exists.1 binds
  obtain ⟨value, stored⟩ := Option.isSome_iff_exists.1 (keyed.stored found)
  refine ⟨value, ?_⟩
  simp only [readAttribute, found, Option.bind_some, stored]

namespace Machine

theorem complete_declare (program : Program) :
    Meets (fun state => state.Complete state.classes)
      (declare program.functions program.classes) fun _ state => state.Complete state.classes := by
  apply meets_declare
  · intro decl _ state later complete declares
    rw [eq_of_declareFunction declares]
    exact complete
  · intro decl _ state later complete declares
    exact complete.declareClass declares

/-- Running a source leaves live objects complete. -/
theorem complete_of_runSource? {machine later : Machine} {source : String} {steps : Nat}
    {result : Except Failure Unit} (rests : machine.state.Rests ⟨False, False⟩)
    (complete : machine.state.Complete machine.state.classes)
    (ran : machine.runSource? source steps = some (result, later)) :
    later.state.Complete later.state.classes := by
  unfold runSource? afterParsing at ran
  split at ran
  · cases ran
    exact complete
  · next program read =>
    obtain ⟨⟨inner, later⟩, ended, ⟨⟩⟩ := Option.map_eq_some_iff.1 ran
    have proper := Program.isProper_ofSource read
    have ends : Meets
        (fun state => state.Rests ⟨False, False⟩ ∧ state.Complete state.classes)
        (programWith (exec steps) program) fun _ state => state.Complete state.classes := by
      apply meets_programWith
      · intro machine result later given ran
        exact ⟨rests_declare proper False.elim _ _ _ given.1 ran,
          complete_declare program _ _ _ given.2 ran⟩
      · rintro state ⟨rests, complete⟩
        have named := get?_globalScope_of_declared rests.declared
        refine ⟨completeness state.functions state.classes named,
          completeness_exec (fun found => (rests.declared.className found).1) steps,
          ⟨⟨rfl, rfl⟩, complete⟩, fun later whole => ?_⟩
        rw [whole.declared.2]
        exact whole.complete
    exact ends _ _ _ ⟨rests, complete⟩ ended

/-- Declaring what a source declares touches no object. -/
theorem complete_of_declareSource? {machine later : Machine} {source : String}
    {result : Except Failure Unit} (complete : machine.state.Complete machine.state.classes)
    (ran : machine.declareSource? source = some (result, later)) :
    later.state.Complete later.state.classes := by
  unfold declareSource? afterParsing at ran
  split at ran
  · cases ran
    exact complete
  · next program read =>
    obtain ⟨⟨inner, later⟩, ended, ⟨⟩⟩ := Option.map_eq_some_iff.1 ran
    exact complete_declare program _ _ _ complete ended

/-- Whatever sources have been run on a machine, its live objects are complete. -/
theorem Reachable.complete {machine : Machine} (reachable : machine.Reachable) :
    machine.state.Complete machine.state.classes := by
  induction reachable with
  | fresh =>
    intro handle className alive
    cases alive
  | run earlier ran ih => exact complete_of_runSource? earlier.rests ih ran
  | declare earlier ran ih => exact complete_of_declareSource? ih ran
  | takeOutput earlier ih => exact ih

end Machine

/-- After any runs of sources, successful or not, the class of every live object is declared, and
each attribute that it declares can be read. -/
theorem readAttribute_of_live {machine : Machine} (reachable : machine.Reachable)
    {handle : Handle} {object : Instance} (live : machine.state.heap.get? handle = some object) :
    ∃ decl, machine.state.classes.get? object.className = some decl ∧
      ∀ member ∈ decl.attributes, ∃ value,
        machine.state.readAttribute handle member.name = .ok value := by
  have alive : machine.state.classOf? handle = some object.className := by
    rw [classOf?, live, Option.map_some]
  rcases reachable.complete handle object.className alive with ⟨decl, found, binds⟩
  refine ⟨decl, found, fun member inside => ?_⟩
  exact readAttribute_of_bindsSlot reachable.rests.keyed (binds member inside)

/-- Makes an object, gives the name of one of its slots to a variable, and fails. -/
def Script.masking : String :=
  "<? class C \x7b public $a = 1; private $b; \x7d " ++
    "$o = new C(); $n = '0::a'; $$n = new C(); f();"

/-- Assigns to the attribute, which reclaims the other object. -/
def Script.unmasking : String :=
  "<? $o->a = $o;"

/-- Two runs on one machine, the first of which fails. The slot that a variable has taken over is
still the slot of the attribute, and both attributes can be read in the end. -/
theorem readAttribute_of_live_in_masking : ∃ failure first result second decl,
    Machine.runSource? {} Script.masking = some (.error failure, first) ∧
    first.runSource? Script.unmasking = some (result, second) ∧
    second.state.heap.get? 0 = some ⟨0, "C", 2⟩ ∧
    second.state.classes.get? "C" = some decl ∧
    decl.attributes.map AttributeDecl.name = ["a", "b"] ∧
    ∀ member ∈ decl.attributes, ∃ value,
      second.state.readAttribute 0 member.name = .ok value := by
  have ends : ((Machine.runSource? {} Script.masking).bind fun one =>
      (one.2.runSource? Script.unmasking).map fun two => (one.1.toOption,
        two.2.state.heap.get? 0, (two.2.state.classes.get? "C").map fun decl =>
          decl.attributes.map AttributeDecl.name)) =
        some (none, some ⟨0, "C", 2⟩, some ["a", "b"]) := by cbv
  obtain ⟨⟨failed, first⟩, ran, rest⟩ := Option.bind_eq_some_iff.1 ends
  obtain ⟨⟨result, second⟩, ran', shown⟩ := Option.map_eq_some_iff.1 rest
  simp only [Prod.mk.injEq] at shown
  obtain ⟨isError, live, names⟩ := shown
  cases failed with
  | ok value => cases isError
  | error failure =>
    have reachable : second.Reachable := (Machine.Reachable.fresh.run ran).run ran'
    obtain ⟨decl, found, reads⟩ := readAttribute_of_live reachable live
    have attributes : decl.attributes.map AttributeDecl.name = ["a", "b"] := by
      simpa [found] using names
    exact ⟨failure, first, result, second, decl, ran, ran', live, found, attributes, reads⟩

end TagScript
