import TagScript.Proofs.Ownership

/-!
# Running code keeps its frame

A call makes its own frame the running one and counts the arguments that it binds in it. Whatever
happens in its body, the frame of the caller is put back when the call ends. Nothing else sets the
frame, so code that goes on after a node goes on in the frame that the node started in. That
matters most where a fault is caught: an assignment may evaluate its expression a second time after
the first attempt has failed deep inside of some call.
-/

namespace TagScript

open State

/-- Ending a call leaves the declarations as they are, whatever it puts back. -/
theorem State.declared_endCall {state : State} {functions : Table FunctionDecl}
    {classes : Table ClassDecl} (given : state.functions = functions ∧ state.classes = classes)
    (call : Call) (result : Option Value) :
    (state.endCall call result).functions = functions ∧
      (state.endCall call result).classes = classes := by
  rw [endCall_eq]
  have dropped : Sheds [] state ((state.holdResult result).drop call.scope) :=
    (Sheds.holdResult result).trans (.drop call.scope)
  have resumed {earlier : State}
      (given : earlier.functions = functions ∧ earlier.classes = classes) :
      (earlier.resumeEarlier call.suspended).functions = functions ∧
        (earlier.resumeEarlier call.suspended).classes = classes := by
    cases call.suspended <;> exact given
  have ended {earlier : State} : Sheds [] earlier
      (((earlier.enter call.caller).letGoReceiver result call.receiver).disownResult result) :=
    (Sheds.enter _).trans ((Sheds.letGoReceiver _ _).trans (.disownResult _))
  exact ended.declared (resumed (dropped.declared given))

/-- The declarations are fixed while nodes run, and running code keeps its frame. -/
def steadiness (functions : Table FunctionDecl) (classes : Table ClassDecl) : Discipline where
  functions := functions
  classes := classes
  ready state := state.functions = functions ∧ state.classes = classes
  related before after := after.frame = before.frame
  known _ _ := True
  admitted _ := True
  built _ := trivial
  declared := id
  refl _ := rfl
  trans one two := two.trans one
  kept _ _ := trivial
  reached _ _ _ := trivial
  retain ready _ := ⟨ready, rfl⟩
  disown ready _ := ⟨ready, rfl⟩
  release {state} ready handles :=
    have sheds : Sheds [] state (state.release handles) := .release handles
    ⟨sheds.declared ready, frame_release _ _⟩
  discardHandle {state} ready handle :=
    have sheds : Sheds [] state (state.discardHandle handle) := .discardHandle handle
    ⟨sheds.declared ready, frame_discardHandle _ _⟩
  assign ready name value _ :=
    ⟨(Sheds.bindVariable _ name value).declared ready, frame_assign _ _ _ _⟩
  assignPath ready name path value _ :=
    ⟨(Sheds.assignPath name path value none).declared ready, frame_assignPath _ _ _ _ _⟩
  call := by
    intro state ready frame _ _ receiver params values _
    have begun : Sheds (values.flatMap Value.handles) state
        ((state.beginCall frame receiver).2.bindArguments params values) :=
      (Sheds.beginCall frame receiver).trans (.bindArguments params values)
    refine ⟨begun.declared ready, fun {later} ready' _ result _ => ⟨⟨?_, ?_⟩, fun _ _ => trivial⟩⟩
    · exact declared_endCall ready' _ result
    · rw [frame_endCall, beginCall_eq]

theorem steadiness_writesFreely (functions : Table FunctionDecl) (classes : Table ClassDecl) :
    (steadiness functions classes).WritesFreely where
  allocate ready _ := ⟨⟨ready, rfl⟩, trivial⟩
  assignAttribute {state} ready handle name _ value _ := by
    have unlinked : Sheds [] state
        ((state.retain value).unlink globalScope (attributeSlot handle name)) :=
      (Sheds.retain value).trans (.unlink _ _)
    exact ⟨unlinked.declared ready, frame_assignAttribute _ _ _ _⟩

/-- A node that ends, with a value, by returning or with a fault, leaves the frame that it was run
in. Nothing is asked of the state. -/
theorem exec_keeps_frame (steps : Nat) (node : Node) {machine later : Machine}
    {result : Except Fault Flow}
    (ran : (Eval.exec steps node).outcome? machine = some (result, later)) :
    later.state.frame = machine.state.frame := by
  have runs := Discipline.exec
    (steadiness_writesFreely machine.state.functions machine.state.classes) steps
  obtain ⟨⟨-, frame⟩, -⟩ := runs node machine result later ⟨rfl, rfl⟩
    (fun _ => List.not_mem_nil.elim) ran
  exact frame

/-- Calls itself without the argument that it asks for: `function f($a) { return f(); }`. -/
def careless : FunctionDecl where
  name := "f"
  params := ["a"]
  body := [.exit (some (.call (.written "f") []))]

/-- The frame of a method that was passed two arguments. -/
def insideMethod : Frame :=
  { scope := "C::m", className := some "C", receiver := some 0, passed := 2 }

/-- A fault of the inner one of two calls ends both, and the method that made the outer call, in an
assignment, is running again. -/
theorem exec_keeps_frame_of_careless : ∃ later,
    (Eval.exec 9 (.assign "x" (.call (.written "f") [.integer 1]))).outcome?
        { state := { functions := (∅ : Table FunctionDecl).insert "f" careless
                     frame := insideMethod } } =
      some (.error (.tooFewArguments "f" 1 0), later) ∧
    later.state.frame = insideMethod := by
  have ends : ((Eval.exec 9 (.assign "x" (.call (.written "f") [.integer 1]))).outcome?
      { state := { functions := (∅ : Table FunctionDecl).insert "f" careless
                   frame := insideMethod } }).map Prod.fst =
        some (.error (.tooFewArguments "f" 1 0)) := by rfl
  obtain ⟨⟨result, later⟩, ran, rfl⟩ := Option.map_eq_some_iff.1 ends
  exact ⟨later, ran, exec_keeps_frame 9 _ ran⟩

end TagScript
