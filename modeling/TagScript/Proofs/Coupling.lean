import TagScript.Machine.Step
import TagScript.Proofs.Agreement
import TagScript.Proofs.Contracts
import TagScript.Proofs.Occurrences

/-!
# Two runs of the same code

Code that runs twice, from states that look alike to it, does the same both times. A `Coupling` is a
condition on pairs of states that all changes made by the evaluator respect, together with a
relation between the state before and the state after, which holds in each of the two runs.
`Coupling.step` goes through all kinds of nodes once and for all: whatever a coupling promises of
the single changes holds from the beginning to the end of both runs, and they end alike.

What is true of a single run is the case in which both runs are the same one. The other way round,
two runs from the same state may differ in how they run the parts of a node; they go alike as long as
these do (`Coupling.RunsAlike`).

Two kinds of computations write attributes: making an object, and assigning to a member. Not every
coupling allows that without further care, so `Coupling.step` asks how they fare;
`Coupling.instantiate` and `Coupling.assignMember` answer where any attribute may be written.
-/

namespace TagScript

theorem ClassDecl.mem_methods_of_constructor? (decl : ClassDecl) {method : MethodDecl}
    (constructor : decl.constructor? = some method) : method ∈ decl.methods := by
  unfold constructor? at constructor
  cases found : decl.method? "__construct" with
  | some first =>
    rw [found] at constructor
    cases constructor
    exact List.mem_of_find?_eq_some found
  | none =>
    rw [found] at constructor
    exact List.mem_of_find?_eq_some constructor

namespace Eval

variable {run : Node → Eval Flow} {decl : FunctionDecl} {frame : Frame} {values : List Value}
  {receiver : Option Receiver}

/-- A call runs its body in between of what it does at its start and at its end. -/
theorem outcome?_invoke (machine : Machine) :
    (invoke run decl frame values receiver).outcome? machine =
      ((runBody run decl values).outcome?
          { machine with state := (machine.state.beginCall frame receiver).2 }).map
        fun (result, inner) => (result, { inner with
          state := inner.state.endCall (machine.state.beginCall frame receiver).1
            result.toOption }) := by
  unfold invoke
  rw [outcome?_bind, outcome?_updateWith, Option.bind_some]
  simp only [outcome?_bind, outcome?_observe, outcome?_update, outcome?_ofExcept]
  cases (runBody run decl values).outcome?
      { machine with state := (machine.state.beginCall frame receiver).2 } <;> rfl

/-- What a call does around its body. -/
theorem body_of_invoke {machine later : Machine} {result : Except Fault Value}
    (ran : (invoke run decl frame values receiver).outcome? machine = some (result, later)) :
    ∃ inner : Machine,
      (runBody run decl values).outcome?
          { machine with state := (machine.state.beginCall frame receiver).2 } =
        some (result, inner) ∧
      later = { inner with
        state := inner.state.endCall (machine.state.beginCall frame receiver).1
          result.toOption } := by
  rw [outcome?_invoke] at ran
  obtain ⟨⟨result', inner⟩, body, same⟩ := Option.map_eq_some_iff.1 ran
  obtain ⟨rfl, rfl⟩ := Prod.mk.inj same
  exact ⟨inner, body, rfl⟩

end Eval

/-- The outcome of an operator: a scalar, or a fault about an operand. -/
inductive IsComputed : Except Fault Value → Prop
  | scalar (content : Scalar) : IsComputed (.ok (.scalar content))
  | unsupported (symbol : String) (found : Kind) :
    IsComputed (.error (.unsupportedOperand symbol found))

namespace IsComputed

theorem bind_declaredNumber (symbol : String) (operand : Value) {next : Number → Except Fault Value}
    (computed : ∀ number, IsComputed (next number)) :
    IsComputed (operand.declaredNumber symbol >>= next) := by
  cases operand with
  | scalar content => cases content <;> exact computed _
  | array cells => exact unsupported _ _
  | object handle => exact unsupported _ _

theorem bind_looseNumber (symbol : String) (operand : Value) {next : Float → Except Fault Value}
    (computed : ∀ number, IsComputed (next number)) :
    IsComputed (operand.looseNumber symbol >>= next) := by
  cases operand with
  | scalar content => cases content <;> exact computed _
  | array cells => exact unsupported _ _
  | object handle => exact unsupported _ _

theorem comparison (op : Comparison) (left right : Value) : IsComputed (op.apply left right) := by
  have ordered : IsComputed (do
      let a ← left.declaredNumber op.symbol
      let b ← right.declaredNumber op.symbol
      return .bool (op.holds a b)) :=
    bind_declaredNumber _ _ fun _ => bind_declaredNumber _ _ fun _ => scalar _
  cases op with
  | equal => exact scalar _
  | notEqual => exact scalar _
  | greater => exact ordered
  | less => exact ordered
  | greaterEqual => exact ordered
  | lessEqual => exact ordered

theorem arithmetic (op : Arithmetic) (left right : Value) : IsComputed (op.apply left right) := by
  have onFloats (f : Float → Float → Float) :
      IsComputed (Arithmetic.apply.onFloats op left right f) :=
    bind_looseNumber _ _ fun _ => bind_looseNumber _ _ fun _ => scalar _
  cases op with
  | add => exact bind_declaredNumber _ _ fun _ => bind_declaredNumber _ _ fun _ => scalar _
  | subtract => exact onFloats _
  | divide => exact onFloats _
  | multiply => exact onFloats _

theorem negate (operand : Value) : IsComputed operand.negate :=
  bind_looseNumber _ _ fun _ => scalar _

theorem handles {result : Except Fault Value} (computed : IsComputed result) {value : Value}
    (ended : result = .ok value) : value.handles = [] := by
  subst ended
  cases computed with
  | scalar content => rfl

end IsComputed

/-- The name of an attribute or method that one of these classes declares. -/
def Table.DeclaresMember (classes : Table ClassDecl) (name : String) : Prop :=
  ∃ className decl, classes.get? className = some decl ∧ (decl.visibility? name).isSome

section Members

variable {classes : Table ClassDecl} {decl : ClassDecl} {className : String}
  (found : classes.get? className = some decl)
include found

theorem Table.declaresMember_of_visible {invoker : Option String} {name : String}
    (visible : decl.checkVisible invoker name = .ok ()) : classes.DeclaresMember name := by
  refine ⟨className, decl, found, ?_⟩
  cases declared : decl.visibility? name with
  | some visibility => rfl
  | none =>
    simp [ClassDecl.checkVisible, ClassDecl.isVisible, declared, bind, Except.bind] at visible

theorem Table.declaresMember_of_mem {member : AttributeDecl} (inside : member ∈ decl.attributes) :
    classes.DeclaresMember member.name := by
  refine ⟨className, decl, found, ?_⟩
  have named : (decl.attribute? member.name).isSome := by
    rw [ClassDecl.attribute?, List.find?_isSome]
    exact ⟨member, inside, by simp⟩
  obtain ⟨declared, same⟩ := Option.isSome_iff_exists.1 named
  simp only [ClassDecl.visibility?, same, Option.map_some]
  cases decl.method? member.name <;> rfl

end Members

/-- A frame that a call of a declared function or method runs in. -/
inductive Frame.IsBuilt (functions : Table FunctionDecl) (classes : Table ClassDecl) :
    Frame → Prop
  | function {name decl} (found : functions.get? name = some decl) :
    IsBuilt functions classes { scope := name }
  | method {className decl} (found : classes.get? className = some decl) {method : MethodDecl}
    (declared : method ∈ decl.methods) (handle : Handle) :
    IsBuilt functions classes (Eval.methodFrame decl method.function.name handle)

/-- The scopes that running code sees. -/
def State.InSight (state : State) (scope : String) : Prop :=
  scope = globalScope ∨ scope = state.frame.scope

/-- What is asked of two runs of the same code. The declarations are fixed while nodes run. -/
structure Pairing where
  functions : Table FunctionDecl
  classes : Table ClassDecl
  /-- The pairs of states in which nodes may run. -/
  ready : State → State → Prop
  /-- What has to hold between the state before and the state after, in either run. -/
  related : State → State → Prop
  /-- The handles that running code may have in hand. -/
  known : State → Handle → Prop
  /-- How the outputs of the two runs compare. -/
  outputs : String → String → Prop
  /-- The frames that calls may run in. -/
  admitted : Frame → Prop

/-- A change of both states that is allowed. -/
structure Pairing.Moves (P : Pairing) (first second first' second' : State) : Prop where
  ready : P.ready first' second'
  related₁ : P.related first first'
  related₂ : P.related second second'

/-- Conditions on pairs of states that the evaluator respects. -/
structure Coupling extends Pairing where
  built : ∀ {frame : Frame}, frame.IsBuilt functions classes → admitted frame
  declared : ∀ {first second}, ready first second →
    first.functions = functions ∧ first.classes = classes
  agrees : ∀ {first second}, ready first second → first.Agrees first.InSight [] second
  refl : ∀ {first second}, ready first second → related first first ∧ related second second
  trans : ∀ {first second third}, related first second → related second third →
    related first third
  kept : ∀ {before after handle}, related before after → known before handle → known after handle
  reached : ∀ {first second}, ready first second → ∀ {handle}, first.Reaches handle →
    known first handle
  append : ∀ {output output'}, outputs output output' → ∀ text,
    outputs (output ++ text) (output' ++ text)
  retain : ∀ {first second}, ready first second → ∀ value,
    toPairing.Moves first second (first.retain value) (second.retain value)
  disown : ∀ {first second}, ready first second → ∀ value,
    toPairing.Moves first second (first.disown value) (second.disown value)
  release : ∀ {first second}, ready first second → ∀ handles,
    toPairing.Moves first second (first.release handles) (second.release handles)
  discardHandle : ∀ {first second}, ready first second → ∀ handle,
    toPairing.Moves first second (first.discardHandle handle) (second.discardHandle handle)
  assign : ∀ {first second}, ready first second → ∀ name {value : Value},
    (∀ handle ∈ value.handles, known first handle) →
    toPairing.Moves first second (first.assign name value none) (second.assign name value none)
  assignPath : ∀ {first second}, ready first second → ∀ name path {value : Value},
    (∀ handle ∈ value.handles, known first handle) →
    toPairing.Moves first second (first.assignPath name path value none)
      (second.assignPath name path value none)
  /-- The body of a call starts in states that are ready, and if it respects the relation, so does
  the call. What was known at the end of the body is known after the call. -/
  call : ∀ {first second}, ready first second → ∀ {frame}, admitted frame →
    (∀ handle, frame.receiver = some handle → known first handle) →
    ∀ receiver params {values : List Value},
      (∀ handle ∈ values.flatMap Value.handles, known first handle) →
      ready ((first.beginCall frame receiver).2.bindArguments params values)
          ((second.beginCall frame receiver).2.bindArguments params values) ∧
        ∀ {later₁ later₂}, ready later₁ later₂ →
          related ((first.beginCall frame receiver).2.bindArguments params values) later₁ →
          related ((second.beginCall frame receiver).2.bindArguments params values) later₂ →
          ∀ {result : Option Value},
            (∀ value ∈ result, ∀ handle ∈ value.handles, known later₁ handle) →
            toPairing.Moves first second
                (later₁.endCall (first.beginCall frame receiver).1 result)
                (later₂.endCall (second.beginCall frame receiver).1 result) ∧
              ∀ handle, known later₁ handle →
                known (later₁.endCall (first.beginCall frame receiver).1 result) handle

namespace Pairing.Moves

variable {C : Coupling} {first second first' second' first'' second'' : State}

theorem refl (ready : C.ready first second) : C.Moves first second first second :=
  ⟨ready, (C.refl ready).1, (C.refl ready).2⟩

theorem trans (one : C.Moves first second first' second')
    (two : C.Moves first' second' first'' second'') : C.Moves first second first'' second'' :=
  ⟨two.ready, C.trans one.related₁ two.related₁, C.trans one.related₂ two.related₂⟩

end Pairing.Moves

/-- What is known of a result: handles that may be in hand from then on, and a fact. -/
structure Yield where
  handles : List Handle := []
  fact : Prop := True

namespace Coupling

variable (C : Coupling) {α β : Type}

/-- Two machines side by side. -/
structure Coupled (first second : Machine) : Prop where
  ready : C.ready first.state second.state
  outputs : C.outputs first.output second.output

/-- Both runs have ended, with the same result. -/
structure Ends (first second : Machine) (yields : α → Yield)
    (one two : Except Fault α × Machine) : Prop where
  same : two.1 = one.1
  coupled : C.Coupled one.2 two.2
  related₁ : C.related first.state one.2.state
  related₂ : C.related second.state two.2.state
  known : ∀ value, one.1 = .ok value → ∀ handle ∈ (yields value).handles,
    C.known one.2.state handle
  fact : ∀ value, one.1 = .ok value → (yields value).fact

/-- With these handles in hand, two computations go alike: both end, or neither does. -/
def Matches (held : List Handle) (x x' : Eval α) (yields : α → Yield) : Prop :=
  ∀ first second, C.Coupled first second → (∀ handle ∈ held, C.known first.state handle) →
    Option.Rel (C.Ends first second yields) (x.outcome? first) (x'.outcome? second)

/-- Two runs of one computation go alike. -/
def Allows (held : List Handle) (x : Eval α) (yields : α → Yield) : Prop :=
  C.Matches held x x yields

variable {C} {held : List Handle} {yields : α → Yield}

/-- A computation that has just changed the states. -/
theorem Coupled.ends {first second : Machine} {one two : Except Fault α × Machine}
    (coupled : C.Coupled first second) (same : two.1 = one.1)
    (moves : C.Moves first.state second.state one.2.state two.2.state)
    (output₁ : one.2.output = first.output) (output₂ : two.2.output = second.output)
    (holds : ∀ value, one.1 = .ok value → (yields value).fact ∧
      ∀ handle ∈ (yields value).handles, C.known one.2.state handle) :
    C.Ends first second yields one two where
  same := same
  coupled := ⟨moves.ready, by rw [output₁, output₂]; exact coupled.outputs⟩
  related₁ := moves.related₁
  related₂ := moves.related₂
  known value ok := (holds value ok).2
  fact value ok := (holds value ok).1

theorem Matches.mono {x x' : Eval α} {held' : List Handle} {yields' : α → Yield}
    (alike : C.Matches held x x' yields) (more : ∀ handle ∈ held, handle ∈ held')
    (weaken : ∀ value, (yields value).fact →
      (yields' value).fact ∧ ∀ handle ∈ (yields' value).handles, handle ∈ (yields value).handles) :
    C.Matches held' x x' yields' := by
  intro first second coupled known
  have ended := alike first second coupled fun handle inside => known handle (more handle inside)
  generalize x.outcome? first = one at ended ⊢
  generalize x'.outcome? second = two at ended ⊢
  cases ended with
  | none => exact .none
  | some ends =>
    exact .some ⟨ends.same, ends.coupled, ends.related₁, ends.related₂,
      fun value ok handle inside =>
        ends.known value ok handle ((weaken value (ends.fact value ok)).2 handle inside),
      fun value ok => (weaken value (ends.fact value ok)).1⟩

/-- More handles may be in hand than a computation asks for. -/
theorem Matches.carry {x x' : Eval α} {held' : List Handle} (alike : C.Matches held x x' yields)
    (more : ∀ handle ∈ held, handle ∈ held') : C.Matches held' x x' yields :=
  alike.mono more fun _ fact => ⟨fact, fun _ => id⟩

theorem allows_pure {value : α} (fact : (yields value).fact)
    (inHand : ∀ handle ∈ (yields value).handles, handle ∈ held) :
    C.Allows held (pure value) yields := by
  intro first second coupled known
  refine .some (coupled.ends rfl (.refl coupled.ready) rfl rfl fun value' ok => ?_)
  cases ok
  exact ⟨fact, fun handle inside => known handle (inHand handle inside)⟩

/-- A result without handles. -/
theorem allows_return {value : α} : C.Allows held (pure value) fun _ => {} :=
  allows_pure trivial fun _ => List.not_mem_nil.elim

theorem allows_throw (fault : Fault) : C.Allows held (throw fault : Eval α) yields := by
  intro first second coupled _
  refine .some (coupled.ends rfl (.refl coupled.ready) rfl rfl fun value ok => ?_)
  cases ok

theorem allows_cutOff : C.Allows held (Eval.cutOff : Eval α) yields :=
  fun _ _ _ _ => .none

theorem allows_examine {view : State → Except Fault α}
    (same : ∀ {first second}, C.ready first second → view second = view first)
    (holds : ∀ {first second value}, C.ready first second → view first = .ok value →
      (yields value).fact ∧ ∀ handle ∈ (yields value).handles, C.known first handle) :
    C.Allows held (Eval.examine view) yields := by
  intro first second coupled _
  rw [Eval.outcome?_examine, Eval.outcome?_examine]
  exact .some (coupled.ends (same coupled.ready) (.refl coupled.ready) rfl rfl
    fun value ok => holds coupled.ready ok)

/-- What is found in a state can be handed on. -/
theorem allows_inspect {view : State → α}
    (same : ∀ {first second}, C.ready first second → view second = view first) :
    C.Allows held (Eval.inspect view) fun value =>
      { fact := ∃ first second, C.ready first second ∧ view first = value } := by
  intro first second coupled _
  rw [Eval.outcome?_inspect, Eval.outcome?_inspect]
  refine .some (coupled.ends (congrArg Except.ok (same coupled.ready)) (.refl coupled.ready) rfl rfl
    fun value ok => ?_)
  cases ok
  exact ⟨⟨_, _, coupled.ready, rfl⟩, fun _ => List.not_mem_nil.elim⟩

theorem allows_ofExcept {result : Except Fault α}
    (holds : ∀ value, result = .ok value →
      (yields value).fact ∧ ∀ handle ∈ (yields value).handles, handle ∈ held) :
    C.Allows held (Eval.ofExcept result) yields := by
  cases result with
  | error fault => exact allows_throw fault
  | ok value => exact allows_pure (holds value rfl).1 (holds value rfl).2

theorem allows_write (text : String) : C.Allows held (Eval.write text) fun _ => {} := by
  intro first second coupled _
  exact .some ⟨rfl, ⟨coupled.ready, C.append coupled.outputs text⟩, (C.refl coupled.ready).1,
    (C.refl coupled.ready).2, fun _ _ _ => List.not_mem_nil.elim, fun _ _ => trivial⟩

theorem allows_update {change : State → State}
    (moves : ∀ {first second}, C.ready first second → (∀ handle ∈ held, C.known first handle) →
      C.Moves first second (change first) (change second)) :
    C.Allows held (Eval.update change) fun _ => {} := by
  intro first second coupled known
  rw [Eval.outcome?_update, Eval.outcome?_update]
  exact .some (coupled.ends rfl (moves coupled.ready known) rfl rfl
    fun _ _ => ⟨trivial, fun _ => List.not_mem_nil.elim⟩)

/-- Computations in sequence. The second one has in hand what the first one brought. -/
theorem Matches.bind {x x' : Eval α} {next next' : α → Eval β} {yields' : β → Yield}
    (one : C.Matches held x x' yields)
    (two : ∀ value, (yields value).fact →
      C.Matches ((yields value).handles ++ held) (next value) (next' value) yields') :
    C.Matches held (x >>= next) (x' >>= next') yields' := by
  intro first second coupled known
  have ended := one first second coupled known
  rw [Eval.outcome?_bind, Eval.outcome?_bind]
  generalize x.outcome? first = outcome at ended ⊢
  generalize x'.outcome? second = outcome' at ended ⊢
  cases ended with
  | none => exact .none
  | @some middle middle' ends =>
    obtain ⟨result, middle⟩ := middle
    obtain ⟨result', middle'⟩ := middle'
    obtain ⟨same, coupled', related₁, related₂, brought, fact⟩ := ends
    dsimp only at same coupled' related₁ related₂ brought fact
    subst same
    cases result' with
    | error fault =>
      exact .some ⟨rfl, coupled', related₁, related₂, nofun, nofun⟩
    | ok value =>
      have inHand : ∀ handle ∈ (yields value).handles ++ held, C.known middle.state handle := by
        intro handle inside
        obtain inside | inside := List.mem_append.1 inside
        · exact brought value rfl handle inside
        · exact C.kept related₁ (known handle inside)
      have rest := two value (fact value rfl) middle middle' coupled' inHand
      simp only [Option.bind_some]
      generalize (next value).outcome? middle = outcome at rest ⊢
      generalize (next' value).outcome? middle' = outcome' at rest ⊢
      cases rest with
      | none => exact .none
      | some ends =>
        exact .some ⟨ends.same, ends.coupled, C.trans related₁ ends.related₁,
          C.trans related₂ ends.related₂, ends.known, ends.fact⟩

/-- Computations in sequence, of which the first one brings nothing. -/
theorem Matches.next {x x' : Eval α} {next next' : α → Eval β} {yields' : β → Yield}
    (one : C.Matches held x x' fun _ => {})
    (two : ∀ value, C.Matches held (next value) (next' value) yields') :
    C.Matches held (x >>= next) (x' >>= next') yields' :=
  one.bind fun value _ => two value

theorem Matches.tryCatch {x x' : Eval α} {handler handler' : Fault → Eval α}
    (one : C.Matches held x x' yields)
    (two : ∀ fault, C.Matches held (handler fault) (handler' fault) yields) :
    C.Matches held (tryCatch x handler) (tryCatch x' handler') yields := by
  intro first second coupled known
  have ended := one first second coupled known
  rw [Eval.outcome?_tryCatch, Eval.outcome?_tryCatch]
  generalize x.outcome? first = outcome at ended ⊢
  generalize x'.outcome? second = outcome' at ended ⊢
  cases ended with
  | none => exact .none
  | @some middle middle' ends =>
    obtain ⟨result, middle⟩ := middle
    obtain ⟨result', middle'⟩ := middle'
    obtain ⟨same, coupled', related₁, related₂, brought, fact⟩ := ends
    dsimp only at same coupled' related₁ related₂ brought fact
    subst same
    cases result' with
    | ok value => exact .some ⟨rfl, coupled', related₁, related₂, brought, fact⟩
    | error fault =>
      have rest := two fault middle middle' coupled' fun handle inside =>
        C.kept related₁ (known handle inside)
      simp only [Option.bind_some]
      generalize (handler fault).outcome? middle = outcome at rest ⊢
      generalize (handler' fault).outcome? middle' = outcome' at rest ⊢
      cases rest with
      | none => exact .none
      | some ends =>
        exact .some ⟨ends.same, ends.coupled, C.trans related₁ ends.related₁,
          C.trans related₂ ends.related₂, ends.known, ends.fact⟩

theorem Matches.onFault {x x' : Eval α} {change : State → State}
    (one : C.Matches held x x' yields)
    (moves : ∀ {first second}, C.ready first second →
      C.Moves first second (change first) (change second)) :
    C.Matches held (Eval.onFault x change) (Eval.onFault x' change) yields :=
  one.tryCatch fun fault =>
    (allows_update fun ready _ => moves ready).bind fun _ _ => allows_throw fault

theorem discard {first second : State} (ready : C.ready first second) (value : Value) :
    C.Moves first second (first.discard value) (second.discard value) := by
  unfold State.discard
  induction value.handles generalizing first second with
  | nil => exact .refl ready
  | cons handle handles ih =>
    have one := C.discardHandle ready handle
    exact one.trans (ih one.ready)

theorem allows_discard (value : Value) :
    C.Allows held (Eval.update (·.discard value)) fun _ => {} :=
  allows_update fun ready _ => discard ready value

theorem foldl_releaseValue {first second : State} (ready : C.ready first second)
    (values : List Value) :
    C.Moves first second (values.foldl State.releaseValue first)
      (values.foldl State.releaseValue second) := by
  induction values generalizing first second with
  | nil => exact .refl ready
  | cons value values ih =>
    have one : C.Moves first second (first.releaseValue value) (second.releaseValue value) :=
      C.release ready value.handles
    exact one.trans (ih one.ready)

/-- Two ways to run nodes that go alike. What a node yields may be in hand. -/
def RunsAlike (C : Coupling) (run run' : Node → Eval Flow) : Prop :=
  ∀ node, C.Matches [] (run node) (run' node) fun flow => { handles := flow.value.handles }

/-- How nodes have to be run. -/
def Runs (C : Coupling) (run : Node → Eval Flow) : Prop :=
  C.RunsAlike run run

section Evaluation

variable {run run' : Node → Eval Flow} (runs : C.RunsAlike run run')
include runs

theorem evaluate (node : Node) :
    C.Matches held (Eval.evaluate run node) (Eval.evaluate run' node) fun value =>
      { handles := value.handles } := by
  refine ((runs node).carry fun _ => List.not_mem_nil.elim).bind fun flow _ => ?_
  exact allows_pure trivial fun _ => List.mem_append_left held

theorem consume (node : Node) :
    C.Matches held (Eval.consume run node) (Eval.consume run' node) fun _ => {} := by
  refine (evaluate runs node).bind fun value _ => ?_
  exact (allows_discard value).bind fun _ _ => allows_return

theorem statement (node : Node) :
    C.Matches held (Eval.statement run node) (Eval.statement run' node) fun flow =>
      { handles := flow.value.handles } := by
  refine ((runs node).carry fun _ => List.not_mem_nil.elim).bind fun flow _ => ?_
  have ends : C.Allows (flow.value.handles ++ held) (pure flow : Eval Flow) fun flow =>
      { handles := flow.value.handles } := allows_pure trivial fun _ => List.mem_append_left held
  cases flow with
  | normal value => exact (allows_discard value).bind fun _ _ => ends
  | returned value =>
    have skipped {held : List Handle} : C.Allows held (pure () : Eval Unit) fun _ => {} :=
      allows_return
    exact skipped.bind fun _ _ => ends

theorem block (nodes : List Node) :
    C.Matches held (Eval.block run nodes) (Eval.block run' nodes) fun flow =>
      { handles := flow.value.handles } := by
  induction nodes generalizing held with
  | nil => exact allows_pure trivial fun _ => List.not_mem_nil.elim
  | cons node nodes ih =>
    refine (statement runs node).bind fun flow _ => ?_
    cases flow with
    | normal value => exact ih
    | returned value => exact allows_pure trivial fun _ => List.mem_append_left held

/-- Arguments that were evaluated before are still in hand. -/
theorem arguments (values : List Value) (nodes : List Node)
    (inHand : ∀ handle ∈ values.flatMap Value.handles, handle ∈ held) :
    C.Matches held (Eval.arguments run values nodes) (Eval.arguments run' values nodes)
      fun values => { handles := values.flatMap Value.handles } := by
  induction nodes generalizing values held with
  | nil => exact allows_pure trivial inHand
  | cons node nodes ih =>
    refine ((evaluate runs node).onFault fun ready => foldl_releaseValue ready values).bind
      fun value _ => ?_
    refine (allows_update fun ready _ => C.retain ready value).bind fun _ _ => ih _ ?_
    intro handle inside
    rw [List.flatMap_append, List.mem_append] at inside
    obtain inside | inside := inside
    · exact List.mem_append_right _ (List.mem_append_right _ (inHand handle inside))
    · refine List.mem_append_right _ (List.mem_append_left _ ?_)
      simpa using inside

theorem keys (nodes : List Node) :
    C.Matches held (Eval.keys run nodes) (Eval.keys run' nodes) fun _ => {} := by
  induction nodes generalizing held with
  | nil => exact allows_return
  | cons node nodes ih =>
    refine (evaluate runs node).bind fun value _ => ?_
    have key {held : List Handle} : C.Allows held (Eval.ofExcept value.key) fun _ => {} :=
      allows_ofExcept fun _ _ => ⟨trivial, fun _ => List.not_mem_nil.elim⟩
    exact key.bind fun key _ => ih.bind fun _ _ => allows_return

theorem callableName (name : Name) :
    C.Matches held (Eval.callableName run name) (Eval.callableName run' name) fun _ => {} := by
  cases name with
  | written name => exact allows_return
  | computed node =>
    refine (evaluate runs node).bind fun value _ => ?_
    split
    · exact allows_return
    · exact allows_throw _

theorem memberName (name : Name) :
    C.Matches held (Eval.memberName run name) (Eval.memberName run' name) fun _ => {} := by
  cases name with
  | written name => exact allows_return
  | computed node =>
    refine (evaluate runs node).bind fun value _ => ?_
    exact allows_ofExcept fun _ _ => ⟨trivial, fun _ => List.not_mem_nil.elim⟩

theorem evaluateFor (name : String) {start : State → State}
    (moves : ∀ {first second}, C.ready first second →
      C.Moves first second (start first) (start second)) (node : Node) :
    C.Matches held (Eval.evaluateFor run name start node) (Eval.evaluateFor run' name start node)
      fun value => { handles := value.handles } := by
  refine (evaluate runs node).tryCatch fun fault => ?_
  split
  · exact (allows_update fun ready _ => moves ready).bind fun _ _ => evaluate runs node
  · exact allows_throw fault

/-- A body goes alike from the states on in which the arguments are bound. -/
theorem runBody (decl : FunctionDecl) (values : List Value) (first second : Machine)
    (ready : C.ready (first.state.bindArguments decl.params values)
      (second.state.bindArguments decl.params values))
    (outputs : C.outputs first.output second.output) :
    Option.Rel
      (C.Ends { first with state := first.state.bindArguments decl.params values }
        { second with state := second.state.bindArguments decl.params values }
        fun value => { handles := value.handles })
      ((Eval.runBody run decl values).outcome? first)
      ((Eval.runBody run' decl values).outcome? second) := by
  unfold Eval.runBody
  rw [Eval.outcome?_bind, Eval.outcome?_bind, Eval.outcome?_update, Eval.outcome?_update,
    Option.bind_some, Option.bind_some]
  have of {x x' : Eval Value}
      (alike : C.Matches [] x x' fun value => { handles := value.handles }) :=
    alike { first with state := first.state.bindArguments decl.params values }
      { second with state := second.state.bindArguments decl.params values } ⟨ready, outputs⟩
      fun _ => List.not_mem_nil.elim
  refine of ?_
  have frame : C.Allows [] (Eval.inspect State.frame) _ :=
    allows_inspect fun ready => (C.agrees ready).frame
  refine frame.bind fun frame _ => ?_
  split
  · have never (fault : Fault) :
        C.Allows [] (throw fault : Eval PUnit) fun _ => { fact := False } := allows_throw fault
    exact (never _).bind fun _ impossible => impossible.elim
  · refine (block runs decl.body).bind fun flow _ => ?_
    cases flow with
    | normal value => exact allows_pure trivial fun _ => List.not_mem_nil.elim
    | returned value => exact allows_pure trivial fun _ => List.mem_append_left _

/-- The rule for calls carries over from states to computations. -/
theorem invoke (decl : FunctionDecl) {frame : Frame} (admitted : C.admitted frame)
    {values : List Value} (receiver : Option Receiver)
    (running : ∀ handle, frame.receiver = some handle → handle ∈ held)
    (passed : ∀ handle ∈ values.flatMap Value.handles, handle ∈ held) :
    C.Matches held (Eval.invoke run decl frame values receiver)
      (Eval.invoke run' decl frame values receiver) fun value => { handles := value.handles } := by
  intro first second coupled known
  obtain ⟨begun, ended⟩ := C.call coupled.ready admitted
    (fun handle given => known handle (running handle given)) receiver decl.params
    fun handle inside => known handle (passed handle inside)
  rw [Eval.outcome?_invoke, Eval.outcome?_invoke]
  have body := runBody runs decl values
    { first with state := (first.state.beginCall frame receiver).2 }
    { second with state := (second.state.beginCall frame receiver).2 } begun
    coupled.outputs
  generalize (Eval.runBody run decl values).outcome? _ = outcome at body ⊢
  generalize (Eval.runBody run' decl values).outcome? _ = outcome' at body ⊢
  cases body with
  | none => exact .none
  | @some inner inner' ends =>
    obtain ⟨result, inner⟩ := inner
    obtain ⟨result', inner'⟩ := inner'
    obtain ⟨same, coupled', related₁, related₂, brought, -⟩ := ends
    dsimp only at same coupled' related₁ related₂ brought
    subst same
    have returned : ∀ value ∈ result'.toOption, ∀ handle ∈ value.handles,
        C.known inner.state handle := by
      intro value given
      cases result' with
      | error fault => cases given
      | ok value' =>
        cases given
        exact brought _ rfl
    obtain ⟨moves, still⟩ := ended coupled'.ready related₁ related₂ returned
    exact .some ⟨rfl, ⟨moves.ready, coupled'.outputs⟩, moves.related₁, moves.related₂,
      fun value ok handle inside => still handle (brought value ok handle inside),
      fun _ _ => trivial⟩

theorem callFunction (function : Name) (args : List Node) :
    C.Matches held (Eval.callFunction run function args) (Eval.callFunction run' function args)
      fun value => { handles := value.handles } := by
  refine (callableName runs function).bind fun name _ => ?_
  have looked {held : List Handle} :
      C.Allows held (Eval.inspect (·.functions.get? name)) _ :=
    allows_inspect fun ready => by rw [(C.agrees ready).functions]
  refine looked.bind fun found seen => ?_
  obtain ⟨state, other, ready, rfl⟩ := seen
  rw [(C.declared ready).1]
  split
  · exact allows_throw _
  · next decl found =>
    refine (arguments runs [] args fun _ => List.not_mem_nil.elim).bind fun values _ => ?_
    exact invoke runs decl (C.built (.function found)) none (fun _ given => by cases given)
      fun _ => List.mem_append_left _

theorem construct {decl : ClassDecl} {className : String}
    (found : C.classes.get? className = some decl) {handle : Handle} (inHand : handle ∈ held)
    (args : List Node) :
    C.Matches held (Eval.construct run decl handle args) (Eval.construct run' decl handle args)
      fun _ => {} := by
  unfold Eval.construct
  split
  · exact allows_return
  · next method constructor =>
    have inside := decl.mem_methods_of_constructor? constructor
    refine (arguments runs [] args fun _ => List.not_mem_nil.elim).bind fun values _ => ?_
    refine (invoke runs method.function (C.built (.method found inside handle)) _ ?_
      fun _ => List.mem_append_left _).bind fun _ _ => allows_return
    intro other given
    cases given
    exact List.mem_append_right _ inHand

/-- A new object, given how it is made. -/
theorem newObject
    (instantiates : ∀ {decl className}, C.classes.get? className = some decl →
      C.Matches [] (Eval.instantiate run decl) (Eval.instantiate run' decl) fun handle =>
        { handles := [handle] })
    (className : Name) (args : List Node) :
    C.Matches held (Eval.newObject run className args) (Eval.newObject run' className args)
      fun value => { handles := value.handles } := by
  refine (memberName runs className).bind fun name _ => ?_
  have looked {held : List Handle} : C.Allows held (Eval.inspect (·.classes.get? name)) _ :=
    allows_inspect fun ready => by rw [(C.agrees ready).classes]
  refine looked.bind fun found seen => ?_
  obtain ⟨state, other, ready, rfl⟩ := seen
  rw [(C.declared ready).2]
  split
  · exact allows_throw _
  · next decl found =>
    refine ((instantiates found).carry fun _ => List.not_mem_nil.elim).bind fun handle _ => ?_
    have constructed : C.Matches ([handle] ++ held) (Eval.construct run decl handle args)
        (Eval.construct run' decl handle args) fun _ => {} :=
      construct runs found (List.mem_append_left _ List.mem_cons_self) args
    refine (constructed.onFault fun ready => C.discardHandle ready handle).next fun _ => ?_
    exact allows_pure trivial fun _ inside => List.mem_append_left _ inside

theorem target (node : Node) (fault : Option Kind → Fault) :
    C.Matches held (Eval.target run node fault) (Eval.target run' node fault) fun handle =>
      { handles := [handle] } := by
  have looked {held : List Handle} : C.Allows held (Eval.inspect (·.frame.receiver)) _ :=
    allows_inspect fun ready => by rw [(C.agrees ready).frame]
  refine looked.bind fun receiver _ => ?_
  split
  · exact allows_throw _
  · refine (evaluate runs node).bind fun value _ => ?_
    split
    · exact allows_pure trivial fun _ => List.mem_append_left _
    · exact allows_throw _

omit runs in
/-- What is looked up by way of the heap, the declarations and the frame is found in both runs. -/
theorem allows_checkVisible (decl : ClassDecl) (name : String) :
    C.Allows held (Eval.examine fun state => decl.checkVisible state.frame.className name)
      fun _ => { fact := ∃ invoker, decl.checkVisible invoker name = .ok () } :=
  allows_examine (fun ready => by rw [(C.agrees ready).frame])
    fun _ visible => ⟨⟨_, visible⟩, fun _ => List.not_mem_nil.elim⟩

theorem callMethod (node : Node) (method : Name) (args : List Node) :
    C.Matches held (Eval.callMethod run node method args) (Eval.callMethod run' node method args)
      fun value => { handles := value.handles } := by
  refine (target runs node _).bind fun handle _ => ?_
  have classOf {held : List Handle} : C.Allows held (Eval.inspect (·.classOf? handle)) _ :=
    allows_inspect fun ready => by simp only [State.classOf?, (C.agrees ready).heap]
  refine classOf.bind fun className _ => ?_
  split
  · exact allows_throw _
  · next className _ =>
    have looked {held : List Handle} :
        C.Allows held (Eval.inspect (·.classes.get? className)) _ :=
      allows_inspect fun ready => by rw [(C.agrees ready).classes]
    refine looked.bind fun found seen => ?_
    obtain ⟨state, other, ready, rfl⟩ := seen
    rw [(C.declared ready).2]
    split
    · exact allows_throw _
    · next decl found =>
      refine (callableName runs method).bind fun name _ => ?_
      split
      · exact allows_throw _
      · next member declared =>
        have named : member.function.name = name := by
          simpa using List.find?_some declared
        refine (allows_checkVisible decl name).bind fun _ _ => ?_
        refine (arguments runs [] args fun _ => List.not_mem_nil.elim).bind fun values _ => ?_
        rw [← named]
        refine invoke runs member.function
          (C.built (.method found (List.mem_of_find?_eq_some declared) handle)) _ ?_
          fun _ => List.mem_append_left _
        intro other given
        cases given
        simp

/-- An attribute that may be used is declared. -/
theorem visibleAttribute (handle : Handle) (member : Name) :
    C.Matches held (Eval.visibleAttribute run handle member)
      (Eval.visibleAttribute run' handle member)
      fun name => { fact := C.classes.DeclaresMember name } := by
  refine (memberName runs member).bind fun name _ => ?_
  have looked {held : List Handle} : C.Allows held
      (Eval.inspect fun state => (state.classOf? handle).bind state.classes.get?) _ :=
    allows_inspect fun ready => by
      simp only [State.classOf?, (C.agrees ready).heap, (C.agrees ready).classes]
  refine looked.bind fun found seen => ?_
  obtain ⟨state, other, ready, rfl⟩ := seen
  rw [(C.declared ready).2]
  split
  · exact allows_throw _
  · next decl found =>
    obtain ⟨className, -, found⟩ := Option.bind_eq_some_iff.1 found
    refine (allows_checkVisible decl name).bind fun _ visible => ?_
    obtain ⟨invoker, visible⟩ := visible
    exact allows_pure (Table.declaresMember_of_visible found visible)
      fun _ => List.not_mem_nil.elim

omit runs in
theorem dropTarget (handle : Handle) (value : Value) :
    C.Allows held (Eval.dropTarget handle value) fun _ => {} := by
  refine allows_update fun ready _ => ?_
  have retained := C.retain ready value
  have discarded := retained.trans (C.discardHandle retained.ready handle)
  exact discarded.trans (C.disown discarded.ready value)

theorem fetchMember (node : Node) (member : Name) :
    C.Matches held (Eval.fetchMember run node member) (Eval.fetchMember run' node member)
      fun value => { handles := value.handles } := by
  refine (target runs node _).bind fun handle _ => ?_
  refine (visibleAttribute runs handle member).bind fun name _ => ?_
  have read {held : List Handle} : C.Allows held (Eval.examine (·.readAttribute handle name))
      fun value => { handles := value.handles } := by
    refine allows_examine (fun ready => (C.agrees ready).readAttribute (.inl rfl) _ _)
      fun ready found => ⟨trivial, fun other inside => C.reached ready ?_⟩
    obtain ⟨place, stored⟩ := State.stored_of_readAttribute found
    exact State.reaches_of_get? stored inside
  refine read.bind fun value _ => ?_
  refine (dropTarget handle value).next fun _ => ?_
  exact allows_pure trivial fun _ => List.mem_append_left _

omit runs in
theorem assignable (name : String) : C.Allows held (Eval.assignable name) fun _ => {} := by
  have linked {held : List Handle} : C.Allows held (Eval.examine (·.link name)) fun _ => {} :=
    allows_examine (fun ready => (C.agrees ready).link (.inl rfl) (.inr rfl) name)
      fun _ _ => ⟨trivial, fun _ => List.not_mem_nil.elim⟩
  refine linked.bind fun name _ => ?_
  split
  · exact allows_throw _
  · exact allows_return

theorem assignTo (name : String) (expression : Node) :
    C.Matches held (Eval.assign run name expression) (Eval.assign run' name expression) fun value =>
      { handles := value.handles } := by
  refine (assignable name).bind fun name _ => ?_
  refine (evaluateFor runs name (fun ready => C.assign ready name fun _ => List.not_mem_nil.elim)
    expression).bind fun value _ => ?_
  refine (allows_update fun ready known => C.assign ready name fun handle inside =>
    known handle (List.mem_append_left _ inside)).next fun _ => ?_
  exact allows_pure trivial fun _ => List.mem_append_left _

theorem assignCell (name : String) (index : Index) (expression : Node) :
    C.Matches held (Eval.assignCell run name index expression)
      (Eval.assignCell run' name index expression) fun value => { handles := value.handles } := by
  refine (assignable name).bind fun name _ => ?_
  refine (keys runs index.keys).bind fun path _ => ?_
  refine (evaluate runs expression).bind fun value _ => ?_
  refine (allows_update fun ready known => C.assignPath ready name path fun handle inside =>
    known handle (List.mem_append_left _ inside)).next fun _ => ?_
  exact allows_pure trivial fun _ => List.mem_append_left _

theorem operands (left right : Node) :
    C.Matches held (Eval.operands run left right) (Eval.operands run' left right) fun _ => {} := by
  refine (consume runs left).bind fun first _ => ?_
  exact (consume runs right).bind fun second _ => allows_return

theorem test (condition : Node) :
    C.Matches held (Eval.test run condition) (Eval.test run' condition) fun _ => {} :=
  (consume runs condition).bind fun _ _ => allows_return

omit runs in
/-- A computation whose value is the value of the node. -/
theorem Matches.normal {x x' : Eval Value}
    (alike : C.Matches held x x' fun value => { handles := value.handles }) :
    C.Matches held (do return Flow.normal (← x)) (do return Flow.normal (← x'))
      fun flow => { handles := flow.value.handles } :=
  alike.bind fun _ _ => allows_pure trivial fun _ inside => List.mem_append_left _ inside

omit runs in
/-- An operator yields no object. -/
theorem allows_computed {result : Except Fault Value} (computed : IsComputed result) :
    C.Allows held (Eval.ofExcept result) fun value => { handles := value.handles } :=
  allows_ofExcept fun value ok => ⟨trivial, by simp [computed.handles ok]⟩

/-- One step goes alike in both runs if the runs of the parts do. -/
theorem step
    (instantiates : ∀ {decl className}, C.classes.get? className = some decl →
      C.Matches [] (Eval.instantiate run decl) (Eval.instantiate run' decl) fun handle =>
        { handles := [handle] })
    {node : Node}
    (assigns : ∀ target member expression, node = .memberAssign target member expression →
      C.Matches [] (Eval.assignMember run target member expression)
        (Eval.assignMember run' target member expression)
        fun value => { handles := value.handles }) :
    C.Matches [] (Eval.step run node) (Eval.step run' node) fun flow =>
      { handles := flow.value.handles } := by
  have nothing {held : List Handle} {flow : Flow} (empty : flow.value.handles = []) :
      C.Allows held (pure flow : Eval Flow) fun flow => { handles := flow.value.handles } :=
    allows_pure trivial (by simp [empty])
  cases node with
  | var name =>
    refine (allows_examine (fun ready => (C.agrees ready).resolve (.inl rfl) (.inr rfl) name)
      fun ready found => ⟨trivial, fun handle inside => ?_⟩).normal
    exact C.reached ready (State.reaches_of_resolve found inside)
  | text content => exact nothing rfl
  | integer n => exact nothing rfl
  | float x => exact nothing rfl
  | sequence nodes => exact block runs nodes
  | ifThen condition thenBranch =>
    refine (test runs condition).bind fun holds _ => ?_
    cases holds
    · exact nothing rfl
    · exact statement runs thenBranch
  | ifElse condition thenBranch elseBranch =>
    refine (test runs condition).bind fun holds _ => ?_
    cases holds
    · exact statement runs elseBranch
    · exact statement runs thenBranch
  | whileDo condition body =>
    refine (test runs condition).bind fun holds _ => ?_
    cases holds
    · exact nothing rfl
    · refine (statement runs body).bind fun flow _ => ?_
      cases flow
      · exact (runs _).carry fun _ => List.not_mem_nil.elim
      · exact allows_pure trivial fun _ => List.mem_append_left _
  | doWhile body condition =>
    refine (statement runs body).bind fun flow _ => ?_
    cases flow
    · refine (test runs condition).bind fun holds _ => ?_
      cases holds
      · exact nothing rfl
      · exact (runs _).carry fun _ => List.not_mem_nil.elim
    · exact allows_pure trivial fun _ => List.mem_append_left _
  | exit value =>
    cases value with
    | none => exact nothing rfl
    | some expression =>
      exact (evaluate runs expression).bind fun _ _ =>
        allows_pure trivial fun _ => List.mem_append_left _
  | echo expression =>
    refine (evaluate runs expression).bind fun value _ => ?_
    refine (allows_write _).bind fun _ _ => ?_
    exact (allows_discard value).bind fun _ _ => nothing rfl
  | assign name expression => exact (assignTo runs name expression).normal
  | arrayAssign name index expression => exact (assignCell runs name index expression).normal
  | arrayFetch name index =>
    refine (keys runs index.keys).bind fun path _ => ?_
    refine (allows_examine (fun ready => (C.agrees ready).readPath (.inl rfl) (.inr rfl) name path)
      fun ready found => ⟨trivial, fun handle inside => ?_⟩).normal
    exact C.reached ready (.inl (State.occurrences_of_readPath found inside))
  | call function args => exact (callFunction runs function args).normal
  | new className args => exact (newObject runs instantiates className args).normal
  | methodCall target method args => exact (callMethod runs target method args).normal
  | memberFetch target member => exact (fetchMember runs target member).normal
  | memberAssign target member expression =>
    exact (assigns target member expression rfl).normal
  | compare op left right =>
    exact (operands runs left right).bind fun _ _ => (allows_computed (.comparison op _ _)).normal
  | arithmetic op left right =>
    exact (operands runs left right).bind fun _ _ => (allows_computed (.arithmetic op _ _)).normal
  | negate operand =>
    exact (consume runs operand).bind fun _ _ => (allows_computed (.negate _)).normal
  | concat left right =>
    exact (operands runs left right).bind fun _ _ => nothing rfl

/-- Assigning to a member goes alike in both runs if writing any declared attribute does. -/
theorem assignMember
    (writes : ∀ {first second}, C.ready first second → ∀ handle {name},
      C.classes.DeclaresMember name → ∀ {value : Value},
      (∀ handle ∈ value.handles, C.known first handle) →
      C.Moves first second (first.assignAttribute handle name value)
        (second.assignAttribute handle name value))
    (node : Node) (member : Name) (expression : Node) :
    C.Matches held (Eval.assignMember run node member expression)
      (Eval.assignMember run' node member expression)
      fun value => { handles := value.handles } := by
  refine (target runs node _).bind fun handle _ => ?_
  refine (visibleAttribute runs handle member).bind fun name declared => ?_
  refine (evaluateFor runs name (fun ready => writes ready handle declared
    fun _ => List.not_mem_nil.elim) expression).bind fun value _ => ?_
  refine (allows_update fun ready known => writes ready handle declared
    fun handle inside => known handle (List.mem_append_left _ inside)).next fun _ => ?_
  refine (dropTarget handle value).next fun _ => ?_
  exact allows_pure trivial fun _ => List.mem_append_left _

end Evaluation

/-- Couplings under which any object may be made and any declared attribute written. -/
structure WritesFreely (C : Coupling) : Prop where
  allocate : ∀ {first second}, C.ready first second → ∀ className,
    C.Moves first second { first with heap := first.heap.allocate className }
        { second with heap := second.heap.allocate className } ∧
      C.known { first with heap := first.heap.allocate className } first.heap.next
  assignAttribute : ∀ {first second}, C.ready first second → ∀ handle {name},
    C.classes.DeclaresMember name → ∀ {value : Value},
    (∀ handle ∈ value.handles, C.known first handle) →
    C.Moves first second (first.assignAttribute handle name value)
      (second.assignAttribute handle name value)

section Writing

variable (writes : C.WritesFreely) {run run' : Node → Eval Flow} (runs : C.RunsAlike run run')
include writes runs

theorem setAttributes (handle : Handle) {members : List AttributeDecl}
    (declared : ∀ member ∈ members, C.classes.DeclaresMember member.name) :
    C.Matches held (Eval.setAttributes run handle members) (Eval.setAttributes run' handle members)
      fun _ => {} := by
  induction members generalizing held with
  | nil => exact allows_return
  | cons member members ih =>
    have initial {held : List Handle} :
        C.Matches held (Eval.initialValue run member) (Eval.initialValue run' member) fun value =>
          { handles := value.handles } := by
      unfold Eval.initialValue
      split
      · exact evaluate runs _
      · exact allows_pure trivial fun _ => List.not_mem_nil.elim
    refine initial.bind fun value _ => ?_
    refine (allows_update fun ready known => writes.assignAttribute ready handle
      (declared member List.mem_cons_self) fun handle inside =>
        known handle (List.mem_append_left _ inside)).bind fun _ _ => ?_
    exact ih fun member inside => declared member (List.mem_cons_of_mem _ inside)

theorem instantiate {decl : ClassDecl} {className : String}
    (found : C.classes.get? className = some decl) :
    C.Matches held (Eval.instantiate run decl) (Eval.instantiate run' decl) fun handle =>
      { handles := [handle] } := by
  unfold Eval.instantiate
  split
  · exact allows_throw _
  · have allocated {held : List Handle} : C.Allows held (Eval.updateWith fun state =>
        (state.heap.next, { state with heap := state.heap.allocate decl.name }))
        fun handle => { handles := [handle] } := by
      intro first second coupled _
      rw [Eval.outcome?_updateWith, Eval.outcome?_updateWith]
      obtain ⟨moves, known⟩ := writes.allocate coupled.ready decl.name
      have same : second.state.heap.next = first.state.heap.next := by
        rw [(C.agrees coupled.ready).heap]
      refine .some (coupled.ends (congrArg Except.ok same) moves rfl rfl fun handle ok => ?_)
      cases ok
      refine ⟨trivial, fun other inside => ?_⟩
      obtain rfl := List.mem_singleton.1 inside
      exact known
    refine allocated.bind fun handle _ => ?_
    refine (setAttributes writes runs handle fun member inside =>
      Table.declaresMember_of_mem found inside).bind fun _ _ => ?_
    exact allows_pure trivial fun _ => List.mem_append_left _

theorem stepFreely : C.RunsAlike (Eval.step run) (Eval.step run') := fun _ =>
  step runs (fun found => instantiate writes runs found)
    fun target member expression _ =>
      assignMember runs writes.assignAttribute target member expression

end Writing

/-- Two runs of a node go alike, however many nested steps they may take. -/
theorem exec (writes : C.WritesFreely) (steps : Nat) : C.Runs (Eval.exec steps) := by
  induction steps with
  | zero => exact fun _ => allows_cutOff
  | succ steps ih => exact stepFreely writes ih

end Coupling

end TagScript
