import TagScript.Machine.Evaluation
import TagScript.State.Calls
import TagScript.State.Members

/-!
# Functions, methods and objects

Calls and object operations, given how a node is run.
-/

namespace TagScript.Eval

variable (run : Node → Eval Flow)

/-- Binds the arguments of a call and runs its body. A body that does not return has the empty
value. -/
def runBody (decl : FunctionDecl) (values : List Value) : Eval Value := do
  update (·.bindArguments decl.params values)
  let frame ← inspect State.frame
  if frame.passed < decl.params.length then
    throw (.tooFewArguments frame.scope decl.params.length frame.passed)
  match ← block run decl.body with
  | .returned value => return value
  | .normal _ => return .empty

/-- Calls a function in a frame, with arguments that are held. -/
def invoke (decl : FunctionDecl) (frame : Frame) (values : List Value)
    (receiver : Option Receiver) : Eval Value := do
  let call ← updateWith (·.beginCall frame receiver)
  let result ← observe (runBody run decl values)
  update (·.endCall call result.toOption)
  ofExcept result

/-- Calls a declared function. -/
def callFunction (function : Name) (args : List Node) : Eval Value := do
  let name ← callableName run function
  match ← inspect (·.functions.get? name) with
  | none => throw (.functionNotFound name)
  | some decl =>
    let values ← arguments run [] args
    invoke run decl { scope := name } values none

/-- The scope of a method. -/
def methodScope (decl : ClassDecl) (name : String) : String :=
  s!"{decl.name}::{name}"

/-- The frame of a method that runs on an object. -/
def methodFrame (decl : ClassDecl) (name : String) (handle : Handle) : Frame :=
  { scope := methodScope decl name, className := some decl.name, receiver := some handle }

/-- The initial value of an attribute. -/
def initialValue (member : AttributeDecl) : Eval Value :=
  match member.init with
  | some node => evaluate run node
  | none => return .empty

/-- Sets the attributes of a new object. -/
def setAttributes (handle : Handle) : List AttributeDecl → Eval Unit
  | [] => return
  | member :: members => do
    let value ← initialValue run member
    update (·.assignAttribute handle member.name value)
    setAttributes handle members

/-- Makes an object of a class, which nothing refers to yet. All initial values have to be constant
expressions; that is checked before anything is done. -/
def instantiate (decl : ClassDecl) : Eval Handle := do
  match decl.attributes.find? fun member => member.init.any fun node => !node.isConstant with
  | some member => throw (.initializerNotConstant member.name decl.name)
  | none =>
    let handle ← updateWith fun state =>
      (state.heap.next, { state with heap := state.heap.allocate decl.name })
    setAttributes run handle decl.attributes
    return handle

/-- Runs the constructor of a class on a new object, if there is one. -/
def construct (decl : ClassDecl) (handle : Handle) (args : List Node) : Eval Unit := do
  match decl.constructor? with
  | none => return
  | some method =>
    let values ← arguments run [] args
    let _ ← invoke run method.function (methodFrame decl method.function.name handle) values
      (some { handle, survives := true })

/-- Makes and constructs an object. If the constructor fails, the object goes unless something
refers to it. -/
def newObject (className : Name) (args : List Node) : Eval Value := do
  let name ← memberName run className
  match ← inspect (·.classes.get? name) with
  | none => throw (.classNotFound name)
  | some decl =>
    let handle ← instantiate run decl
    onFault (construct run decl handle args) (·.discardHandle handle)
    return .object handle

/-- Whether a node is the receiver variable. -/
def isReceiver : Node → Bool
  | .var name => name = receiverName
  | _ => false

/-- The object that a node stands for; the fault depends on the kind of value found instead. Outside
a method the receiver variable stands for nothing. -/
def target (node : Node) (fault : Option Kind → Fault) : Eval Handle := do
  if isReceiver node && (← inspect (·.frame.receiver)).isNone then throw (fault none)
  else
    match ← evaluate run node with
    | .object handle => return handle
    | other => throw (fault (some other.kind))

/-- Calls a method of an object. -/
def callMethod (node : Node) (method : Name) (args : List Node) : Eval Value := do
  let handle ← target run node .callTargetNotObject
  match ← inspect (·.classOf? handle) with
  | none => throw (.callTargetNotObject none)
  | some className =>
    match ← inspect (·.classes.get? className) with
    | none => throw (.classNotFound className)
    | some decl =>
      let name ← callableName run method
      match decl.method? name with
      | none => throw (.methodNotFound decl.name name)
      | some member =>
        examine fun state => decl.checkVisible state.frame.className name
        let values ← arguments run [] args
        invoke run member.function (methodFrame decl name handle) values
          (some { handle, survives := false })

/-- The name of an attribute that the running code may use. -/
def visibleAttribute (handle : Handle) (member : Name) : Eval String := do
  let name ← memberName run member
  match ← inspect fun state => (state.classOf? handle).bind state.classes.get? with
  | none => throw .attributeTargetNotObject
  | some decl =>
    examine fun state => decl.checkVisible state.frame.className name
    return name

/-- Reclaims an object that only the expression at hand produced, but not what a value holds. -/
def dropTarget (handle : Handle) (value : Value) : Eval Unit :=
  update fun state => ((state.retain value).discardHandle handle).disown value

/-- Reads an attribute of an object. -/
def fetchMember (node : Node) (member : Name) : Eval Value := do
  let handle ← target run node fun _ => .attributeTargetNotObject
  let name ← visibleAttribute run handle member
  let value ← examine (·.readAttribute handle name)
  dropTarget handle value
  return value

/-- Writes an attribute of an object. -/
def assignMember (node : Node) (member : Name) (expression : Node) : Eval Value := do
  let handle ← target run node fun _ => .attributeTargetNotObject
  let name ← visibleAttribute run handle member
  let value ← evaluateFor run name (·.assignAttribute handle name (.int 0)) expression
  update (·.assignAttribute handle name value)
  dropTarget handle value
  return value

end TagScript.Eval
