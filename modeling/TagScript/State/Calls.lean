import TagScript.State.Scopes
import TagScript.State.Variables

/-!
# The frame of a call

What a call does to the state before and after its body runs. The receiver is held for the duration
of the call, and a value that is returned is held until the scope that it may come from is gone.
-/

namespace TagScript

/-- The object that a method runs on. -/
structure Receiver where
  handle : Handle
  /-- A constructor runs on an object that nothing refers to yet; it has to survive. -/
  survives : Bool

/-- What a call restores when it ends. -/
structure Call where
  scope : String
  receiver : Option Receiver
  suspended : Option Suspended
  caller : Frame

namespace State

/-- Starts a call: the receiver is held, an earlier activation of the same function is suspended,
and the frame of the call becomes the running one. -/
def beginCall (state : State) (frame : Frame) (receiver : Option Receiver) : Call × State :=
  let held := match receiver with
    | some receiver => { state with heap := state.heap.retain receiver.handle }
    | none => state
  let (suspended, cleared) := held.suspend frame.scope
  (⟨frame.scope, receiver, suspended, state.frame⟩, cleared.enter frame)

/-- Lets go of a receiver. It survives if it must, or if the returned value holds it. -/
def letGo (state : State) (receiver : Receiver) (result : Option Value) : State :=
  let returned := (result.map Value.handles).getD []
  if receiver.survives || returned.contains receiver.handle then
    { state with heap := state.heap.decrement receiver.handle }
  else state.release [receiver.handle]

/-- Ends a call with the value it returns, if it did not fail. -/
def endCall (state : State) (call : Call) (result : Option Value) : State :=
  let state := match result with
    | some value => state.retain value
    | none => state
  let state := state.drop call.scope
  let state := match call.suspended with
    | some suspended => state.resume suspended
    | none => state
  let state := state.enter call.caller
  let state := match call.receiver with
    | some receiver => state.letGo receiver result
    | none => state
  match result with
  | some value => state.disown value
  | none => state

/-- The name that an argument is bound to: its parameter, or a name for its place. -/
def argumentName (params : List String) (place : Nat) : String :=
  params[place]?.getD s!".arg{place}"

/-- Binds the next argument. -/
def bindArgument (params : List String) (state : State) (value : Value) : State :=
  let place := state.frame.passed
  let state := state.assign (argumentName params place) value none
  state.enter { state.frame with passed := place + 1 }

/-- Binds arguments that are held by the caller, which then lets go of them. -/
def bindArguments (state : State) (params : List String) (values : List Value) : State :=
  let state := values.foldl (bindArgument params) state
  values.foldl disown state

end State

end TagScript
