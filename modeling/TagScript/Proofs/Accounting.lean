import TagScript.Proofs.Calls
import TagScript.Proofs.Contracts

/-!
# The evaluator keeps its accounts

Every function of the evaluator is given a contract in terms of balanced states: what it takes over
from the ledger, what it leaves in hand, and what a fault leaves behind. The contracts are for one
level of the evaluator, given that nodes are run as they should be one level below; `Regime.Runs`
says what that means.
-/

namespace TagScript

open State Eval

/-- A fault that an assignment can recover from. -/
def Fault.IsMissing : Fault → Prop
  | .variableNotFound _ => True
  | _ => False

/-- A fault of the computation is never a missing variable. -/
def Eval.NeverMisses {α : Type} (x : Eval α) : Prop :=
  Meets (fun _ => True) x fun result _ => ∀ fault, result = .error fault → ¬ fault.IsMissing

/-- Whether a frame is that of a constructor. -/
def Frame.isConstructor (classes : Table ClassDecl) (frame : Frame) : Bool :=
  (frame.className.bind classes.get?).any fun decl =>
    decl.constructor?.any fun method => frame.scope = methodScope decl method.function.name

namespace Regime

variable {R : Regime} {ledger : Ledger} {state : State}

/-- Tidiness is only asked for after faults that can be recovered from. -/
def after (R : Regime) (fault : Fault) : Regime :=
  { R with
    tidy := R.tidy ∧ fault.IsMissing
    distinct tidy := R.distinct tidy.1 }

/-- How a computation ends that may fail: the ledger is what it was. -/
def Ends {α : Type} (R : Regime) (ledger : Ledger) (yields : α → State → Prop) :
    Except Fault α → State → Prop
  | .ok value, state => yields value state
  | .error fault, state => (R.after fault).Balanced ledger state

/-- How a node ends: a returned value can be used, any other value may be gone. -/
def Leaves (R : Regime) (ledger : Ledger) : Flow → State → Prop
  | .normal value, state =>
    R.Balanced (ledger.carry value.handles) state ∧ ∀ handle ∈ value.handles, handle ∉ ledger.kept
  | .returned value, state => R.Produces ledger value state

/-- Where tidiness is asked for, a constructor returns no object but its receiver. -/
def ReturnsOwn (R : Regime) (ledger : Ledger) : Flow → Prop
  | .normal _ => True
  | .returned value => R.tidy → ledger.frame.isConstructor R.classes →
    ∀ handle ∈ value.handles, ledger.frame.receiver = some handle

/-- How a statement ends: nothing is in hand but a returned value. -/
structure Settles (R : Regime) (ledger : Ledger) (flow : Flow) (state : State) : Prop where
  leaves : R.Leaves ledger flow state
  own : R.ReturnsOwn ledger flow
  settled : ∀ {value}, flow = .normal value → R.Balanced ledger state

/-- How an expression ends: its value can be used. -/
def Yields (R : Regime) (ledger : Ledger) (flow : Flow) (state : State) : Prop :=
  ∃ value, flow = .normal value ∧ R.Produces ledger value state

/-- What has to be known about how nodes are run. -/
structure Runs (R : Regime) (run : Node → Eval Flow) : Prop where
  expression : ∀ {ledger node}, node.IsExpression →
    Meets (R.Balanced ledger) (run node) (R.Ends ledger (R.Yields ledger))
  statement : ∀ {ledger node}, node.IsStatement →
    Meets (R.Balanced ledger) (run node) (R.Ends ledger fun flow state =>
      R.Leaves ledger flow state ∧ R.ReturnsOwn ledger flow)
  constant : ∀ {node}, node.isConstant → NeverMisses (run node)
  disciplined : ∀ {D : Discipline}, D.WritesFreely → D.Runs run

namespace Balanced

theorem weaken (balanced : R.Balanced ledger state) (fault : Fault) :
    (R.after fault).Balanced ledger state :=
  ⟨balanced.functions, balanced.classes, balanced.frame, balanced.keyed,
    fun handle => (balanced.counts handle).weaken id And.left⟩

/-- A fault that can be recovered from leaves everything as tidy as it was. -/
theorem recover {fault : Fault} (missing : fault.IsMissing)
    (balanced : (R.after fault).Balanced ledger state) : R.Balanced ledger state :=
  ⟨balanced.functions, balanced.classes, balanced.frame, balanced.keyed,
    fun handle => (balanced.counts handle).weaken id fun tidy => ⟨tidy, missing⟩⟩

/-- After any other fault nobody asks what was in hand. -/
theorem giveUp {fault : Fault} {handles : List Handle} (final : ¬ fault.IsMissing)
    (balanced : R.Balanced (ledger.carry handles) state) :
    (R.after fault).Balanced ledger state :=
  (balanced.weaken fault).abandon fun tidy => final tidy.2

/-- No object has the next handle, so it need not be left alone. -/
theorem next_not_kept (balanced : R.Balanced ledger state) : state.heap.next ∉ ledger.kept := by
  intro inside
  have unreferenced := (balanced.counts state.heap.next).kept inside
  exact Nat.lt_irrefl _ (Heap.lt_next_of_references? unreferenced)

/-- An object in hand may be stored if it is live and need not be left alone. -/
theorem produces_object {handle : Handle} (balanced : R.Balanced (ledger.carry [handle]) state)
    (unkept : handle ∉ ledger.kept) (live : R.alive → (state.heap.references? handle).isSome) :
    R.Produces ledger (.object handle) state := by
  refine ⟨balanced, fun other same => ?_⟩
  obtain rfl := List.mem_singleton.1 same
  exact ⟨unkept, live⟩

/-- Values that are held are let go. -/
theorem foldl_releaseValue {values : List Value}
    (balanced : R.Balanced (ledger.hold (values.flatMap Value.handles)) state) :
    R.Balanced ledger (values.foldl State.releaseValue state) := by
  induction values generalizing state with
  | nil => exact balanced
  | cons value values ih =>
    rw [List.flatMap_cons, Ledger.hold_append] at balanced
    exact ih balanced.release

end Balanced

section Rules

variable {α β : Type} {before : State → Prop}

/-- Computations in sequence that leave the same ledger when they fail. -/
theorem bind {x : Eval α} {next : α → Eval β} {middle : α → State → Prop}
    {yields : β → State → Prop} (first : Meets before x (R.Ends ledger middle))
    (second : ∀ value, Meets (middle value) (next value) (R.Ends ledger yields)) :
    Meets before (x >>= next) (R.Ends ledger yields) :=
  first.bind second fun _ _ => id

/-- A change of the state. -/
theorem update {change : State → State} {yields : State → Prop}
    (holds : ∀ state, before state → yields (change state)) :
    Meets before (Eval.update change) (R.Ends ledger fun _ => yields) :=
  meets_update holds

/-- What is seen in the state is known from then on. -/
theorem inspect {view : State → α} :
    Meets before (Eval.inspect view)
      (R.Ends ledger fun value state => before state ∧ view state = value) :=
  meets_inspect fun _ given => ⟨given, rfl⟩

theorem Ends.mono {yields yields' : α → State → Prop}
    (weaken : ∀ value state, yields value state → yields' value state) (result : Except Fault α)
    (state : State) (ends : R.Ends ledger yields result state) :
    R.Ends ledger yields' result state := by
  cases result with
  | ok value => exact weaken value state ends
  | error fault => exact ends

theorem yield {value : α} {yields : α → State → Prop}
    (holds : ∀ state, before state → yields value state) :
    Meets before (pure value) (R.Ends ledger yields) :=
  meets_pure holds

/-- A fault that leaves the ledger as it was. -/
theorem fail {fault : Fault} {yields : α → State → Prop}
    (holds : ∀ state, before state → R.Balanced ledger state) :
    Meets before (throw fault) (R.Ends ledger yields) :=
  meets_throw fun state given => (holds state given).weaken fault

/-- Nothing is run after a fault. -/
theorem fail_bind {fault : Fault} {next : α → Eval β} {yields : β → State → Prop}
    (holds : ∀ state, before state → R.Balanced ledger state) :
    Meets before (throw fault >>= next) (R.Ends ledger yields) := by
  have fails : Meets before (throw fault : Eval α) (R.Ends ledger fun _ _ => False) := fail holds
  exact bind fails fun _ _ _ _ never => never.elim

end Rules

section Evaluation

variable {run : Node → Eval Flow} {node : Node}

theorem evaluate (runs : R.Runs run) (expression : node.IsExpression) :
    Meets (R.Balanced ledger) (Eval.evaluate run node) (R.Ends ledger (R.Produces ledger)) := by
  refine bind (runs.expression expression) fun flow => yield fun state given => ?_
  obtain ⟨value, rfl, produced⟩ := given
  exact produced

/-- A value is disposed of. -/
theorem discardProduced (value : Value) :
    Meets (R.Produces ledger value) (Eval.update (·.discard value))
      (R.Ends ledger fun _ => R.Balanced ledger) :=
  update fun _ produced =>
    (produced.balanced.discard fun handle inside => (produced.usable handle inside).1).2

theorem consume (runs : R.Runs run) (expression : node.IsExpression) :
    Meets (R.Balanced ledger) (Eval.consume run node)
      (R.Ends ledger fun _ => R.Balanced ledger) := by
  refine bind (evaluate runs expression) fun value => ?_
  exact bind (discardProduced value) fun _ => yield fun _ => id

/-- A statement disposes of its value unless it returns it. -/
theorem statement (runs : R.Runs run) (isStatement : node.IsStatement) :
    Meets (R.Balanced ledger) (Eval.statement run node) (R.Ends ledger (R.Settles ledger)) := by
  refine bind (runs.statement isStatement) fun flow => ?_
  cases flow with
  | normal value =>
    refine bind (update fun state given => ?_) fun _ => yield fun _ => id
    obtain ⟨⟨balanced, unkept⟩, own⟩ := given
    obtain ⟨carried, disposed⟩ := balanced.discard unkept
    exact ⟨⟨carried, unkept⟩, own, fun _ => disposed⟩
  | returned value =>
    exact yield fun state given => ⟨given.1, given.2, fun ends => by cases ends⟩

theorem block (runs : R.Runs run) {nodes : List Node}
    (statements : ∀ node ∈ nodes, node.IsStatement) :
    Meets (R.Balanced ledger) (Eval.block run nodes) (R.Ends ledger (R.Settles ledger)) := by
  induction nodes with
  | nil =>
    exact yield fun state balanced =>
      ⟨⟨balanced, fun _ => List.not_mem_nil.elim⟩, trivial, fun _ => balanced⟩
  | cons node nodes ih =>
    obtain ⟨first, rest⟩ := List.forall_mem_cons.1 statements
    refine bind (statement runs first) fun flow => ?_
    cases flow with
    | normal value => exact (ih rest).strengthen fun state given => given.settled rfl
    | returned value => exact yield fun _ => id

/-- Arguments are held from the moment on that they are evaluated. -/
theorem arguments (runs : R.Runs run) {held : List Value} {nodes : List Node}
    (expressions : ∀ node ∈ nodes, node.IsExpression) :
    Meets (R.Balanced (ledger.hold (held.flatMap Value.handles))) (Eval.arguments run held nodes)
      (R.Ends ledger fun values => R.Balanced (ledger.hold (values.flatMap Value.handles))) := by
  induction nodes generalizing held with
  | nil => exact yield fun _ => id
  | cons node nodes ih =>
    obtain ⟨first, rest⟩ := List.forall_mem_cons.1 expressions
    have evaluated : Meets (R.Balanced (ledger.hold (held.flatMap Value.handles)))
        (onFault (Eval.evaluate run node) (held.foldl State.releaseValue))
        (R.Ends ledger (R.Produces (ledger.hold (held.flatMap Value.handles)))) :=
      (evaluate runs first).onFault (fun _ _ => id) fun fault state => Balanced.foldl_releaseValue
    refine bind evaluated fun value => ?_
    refine bind (update fun state produced => ?_) fun _ => ih rest
    refine (produced.balanced.retain produced.usable).congr rfl (fun handle => ?_) rfl
      (fun _ => rfl) fun _ => id
    simp only [Ledger.hold, List.flatMap_append, List.flatMap_cons, List.flatMap_nil,
      List.append_nil, List.count_append]
    omega

/-- Subscripts are scalars, so nothing of them is left in hand. -/
theorem keys (runs : R.Runs run) {nodes : List Node}
    (expressions : ∀ node ∈ nodes, node.IsExpression) :
    Meets (R.Balanced ledger) (Eval.keys run nodes) (R.Ends ledger fun keys state =>
      R.Balanced ledger state ∧ keys.length = nodes.length) := by
  induction nodes with
  | nil => exact yield fun state balanced => ⟨balanced, rfl⟩
  | cons node nodes ih =>
    obtain ⟨first, rest⟩ := List.forall_mem_cons.1 expressions
    refine bind (evaluate runs first) fun value => ?_
    have key : Meets (R.Produces ledger value) (Eval.ofExcept value.key)
        (R.Ends ledger fun _ => R.Balanced ledger) := by
      refine meets_ofExcept fun state produced => ?_
      cases value with
      | scalar content => exact produced.balanced
      | array cells => exact produced.balanced.giveUp id
      | object handle => exact produced.balanced.giveUp id
    refine bind key fun key => bind (ih rest) fun keys => yield fun state given => ?_
    exact ⟨given.1, congrArg (· + 1) given.2⟩

theorem callableName (runs : R.Runs run) {name : Name} (proper : name.IsProper) :
    Meets (R.Balanced ledger) (Eval.callableName run name)
      (R.Ends ledger fun _ => R.Balanced ledger) := by
  cases proper with
  | written name => exact yield fun _ => id
  | computed name =>
    refine bind (evaluate runs (.var name)) fun value => ?_
    split
    · exact yield fun state produced => produced.balanced
    · exact meets_throw fun state produced => produced.balanced.giveUp id

theorem memberName (runs : R.Runs run) {name : Name} (proper : name.IsProper) :
    Meets (R.Balanced ledger) (Eval.memberName run name)
      (R.Ends ledger fun _ => R.Balanced ledger) := by
  cases proper with
  | written name => exact yield fun _ => id
  | computed name =>
    refine bind (evaluate runs (.var name)) fun value => meets_ofExcept fun state produced => ?_
    cases value with
    | scalar content => exact produced.balanced
    | array cells => exact produced.balanced.giveUp id
    | object handle => exact produced.balanced.giveUp id

/-- If the name is missing, everything is as it was and the expression may be evaluated again. -/
theorem evaluateFor (runs : R.Runs run) (expression : node.IsExpression) (name : String)
    {start : State → State}
    (starts : ∀ state, R.Balanced ledger state → R.Balanced ledger (start state)) :
    Meets (R.Balanced ledger) (Eval.evaluateFor run name start node)
      (R.Ends ledger (R.Produces ledger)) := by
  refine (evaluate runs expression).tryCatch (fun _ _ => id) fun fault => ?_
  split
  · next same =>
    refine bind (update fun state balanced => ?_) fun _ => evaluate runs expression
    exact starts state (balanced.recover (same ▸ trivial))
  · exact meets_throw fun _ => id

end Evaluation

section Invocation

variable {run : Node → Eval Flow}

/-- A body that does not return has a scalar value. -/
theorem runBody (runs : R.Runs run) {decl : FunctionDecl} (proper : decl.IsProper)
    (values : List Value) :
    Meets (fun state => R.Balanced ledger (state.bindArguments decl.params values))
      (Eval.runBody run decl values) (R.Ends ledger fun value state =>
        R.Produces ledger value state ∧ R.ReturnsOwn ledger (.returned value)) := by
  refine bind (update fun _ => id) fun _ => ?_
  refine bind inspect fun frame => ?_
  split
  · exact fail_bind fun _ given => given.1
  · refine bind ((block runs proper.body).strengthen fun _ given => given.1) fun flow => ?_
    cases flow with
    | returned value => exact yield fun state given => ⟨given.leaves, given.own⟩
    | normal value =>
      exact yield fun state given =>
        ⟨(given.settled rfl).produces_scalar _, fun _ _ _ => List.not_mem_nil.elim⟩

/-- A call takes over its arguments and its receiver. Afterwards its result is in hand, and so is
the object that a constructor ran on. -/
theorem invoke (ledger : Ledger) (runs : R.Runs run) {decl : FunctionDecl}
    (proper : decl.IsProper) (distinct : R.tidy → decl.params.Nodup) (frame : Frame)
    (plain : Plain frame.scope) (receiver : Option Receiver)
    (running : frame.receiver = receiver.map Receiver.handle)
    (unkept : ∀ given ∈ receiver, given.handle ∉ ledger.kept) (values : List Value) :
    Meets (fun state =>
        R.Balanced ((ledger.carry (offered receiver)).hold (values.flatMap Value.handles)) state ∧
          ∀ given ∈ receiver, given.survives → R.alive →
            (state.heap.references? given.handle).isSome)
      (Eval.invoke run decl frame values receiver)
      (R.Ends (ledger.carry (surviving receiver)) fun value state =>
        R.Produces (ledger.carry (surviving receiver)) value state ∧
          (∀ handle ∈ surviving receiver, R.alive → (state.heap.references? handle).isSome) ∧
          (R.tidy → frame.isConstructor R.classes →
            ∀ handle ∈ value.handles, frame.receiver = some handle)) := by
  rintro machine result later ⟨begun, live⟩ ran
  obtain ⟨inner, body, rfl⟩ := body_of_invoke ran
  have names := begun.plainNames
  have started := begun.beginCall plain running unkept live proper.params distinct
  have ended := runBody runs proper values _ _ _ started body
  have isolated := (Isolates.beginCall begun.keyed names plain receiver decl.params values).2
  have disciplined := runs.disciplined (isolation_writesFreely names)
  have within := (Discipline.runBody disciplined decl values body isolated).2
  have keeps := within.endCall begun.keyed names plain result.toOption
  cases result with
  | error fault =>
    exact ((begun.weaken fault).endCall plain running none ended (fun _ => List.not_mem_nil.elim)
      keeps).1
  | ok value =>
    obtain ⟨produced, own⟩ := ended
    obtain ⟨balanced, live⟩ :=
      begun.endCall plain running (some value) produced.balanced produced.usable keeps
    exact ⟨⟨balanced, fun handle returned => ⟨(produced.usable handle returned).1,
      live handle (List.mem_append_right _ returned)⟩⟩,
      fun handle survives => live handle (List.mem_append_left _ survives), own⟩

theorem callFunction (runs : R.Runs run) {function : Name} {args : List Node}
    (name : function.IsProper) (parts : ∀ arg ∈ args, arg.IsExpression) :
    Meets (R.Balanced ledger) (Eval.callFunction run function args)
      (R.Ends ledger (R.Produces ledger)) := by
  refine bind (callableName runs name) fun name => ?_
  refine bind inspect fun found => ?_
  split
  · exact fail fun _ given => given.1
  · next decl =>
    refine Meets.assume (R.functions.get? name = some decl)
      (fun state given => given.1.functions ▸ given.2) fun declared => ?_
    obtain ⟨rfl, proper⟩ := R.declared.function declared
    refine bind ((arguments runs parts).strengthen fun _ given => given.1) fun values => ?_
    have called := invoke ledger runs proper (fun tidy => (R.distinct tidy).function declared)
      { scope := decl.name } proper.name.plain none rfl (fun _ given => by cases given) values
    exact called.mono (fun _ balanced => ⟨balanced, fun _ given => by cases given⟩)
      (Ends.mono fun _ _ given => given.1)

/-- The object that an initial value is for. It is in hand, but no code can reach it yet. -/
theorem initialValue (runs : R.Runs run) (handle : Handle) {member : AttributeDecl}
    (expression : ∀ node ∈ member.init, node.IsExpression)
    (constant : ∀ node ∈ member.init, node.isConstant) :
    Meets (R.Balanced ((ledger.carry [handle]).keep handle)) (Eval.initialValue run member)
      (R.Ends ledger (R.Produces ((ledger.carry [handle]).keep handle))) := by
  unfold Eval.initialValue
  split
  · next node given =>
    intro machine result later balanced ran
    have ended := evaluate runs (expression node given) _ _ _ balanced ran
    cases result with
    | ok value => exact ended
    | error fault =>
      obtain ⟨_, failed, ⟨⟩⟩ | ⟨_, _, _, ⟨⟩⟩ := outcome_of_bind ran
      have final := runs.constant (constant node given) _ _ _ trivial failed fault rfl
      exact ended.unkeep.1.abandon fun tidy => final tidy.2
  · exact yield fun _ balanced => balanced.produces_scalar _

theorem setAttributes (runs : R.Runs run) (handle : Handle) {members : List AttributeDecl}
    (plain : ∀ member ∈ members, Plain member.name)
    (expression : ∀ member ∈ members, ∀ node ∈ member.init, node.IsExpression)
    (constant : ∀ member ∈ members, ∀ node ∈ member.init, node.isConstant) :
    Meets (R.Balanced ((ledger.carry [handle]).keep handle))
      (Eval.setAttributes run handle members)
      (R.Ends ledger fun _ => R.Balanced ((ledger.carry [handle]).keep handle)) := by
  induction members with
  | nil => exact yield fun _ => id
  | cons member members ih =>
    rw [List.forall_mem_cons] at plain expression constant
    refine bind (initialValue runs handle expression.1 constant.1) fun value => ?_
    refine bind (update fun state produced => ?_) fun _ => ih plain.2 expression.2 constant.2
    exact (produced.assignAttribute handle plain.1).1

/-- A new object is in hand. Nothing refers to it, and no code can reach it yet. -/
theorem instantiate (runs : R.Runs run) {decl : ClassDecl} (proper : decl.IsProper) :
    Meets (R.Balanced ledger) (Eval.instantiate run decl) (R.Ends ledger fun handle state =>
      R.Balanced ((ledger.carry [handle]).keep handle) state ∧ handle ∉ ledger.kept) := by
  unfold Eval.instantiate
  split
  · exact fail fun _ => id
  · next constants =>
    have constant : ∀ member ∈ decl.attributes, ∀ node ∈ member.init, node.isConstant := by
      intro member inside node given
      have checked := List.find?_eq_none.1 constants member inside
      simpa [Option.mem_def.1 given] using checked
    have allocated : Meets (R.Balanced ledger) (Eval.updateWith fun state =>
        (state.heap.next, { state with heap := state.heap.allocate decl.name }))
        (R.Ends ledger fun handle state =>
          R.Balanced ((ledger.carry [handle]).keep handle) state ∧ handle ∉ ledger.kept) :=
      meets_updateWith fun state balanced => ⟨balanced.allocate decl.name, balanced.next_not_kept⟩
    refine bind allocated fun handle => ?_
    refine Meets.assume (handle ∉ ledger.kept) (fun _ => And.right) fun unkept => ?_
    have set : Meets _ _ (R.Ends ledger _) := setAttributes runs handle
      (fun member inside => (proper.attributes member inside).plain) proper.initial constant
    refine bind (set.strengthen fun _ => And.left) fun _ => ?_
    exact yield fun _ balanced => ⟨balanced, unkept⟩

/-- A constructor leaves its object in hand. -/
theorem construct (runs : R.Runs run) {className : String} {decl : ClassDecl}
    (declared : R.classes.get? className = some decl) {args : List Node}
    (parts : ∀ arg ∈ args, arg.IsExpression) {handle : Handle} (unkept : handle ∉ ledger.kept) :
    Meets (R.Balanced ((ledger.carry [handle]).keep handle)) (Eval.construct run decl handle args)
      (R.Ends (ledger.carry [handle]) fun _ => R.Produces ledger (.object handle)) := by
  obtain ⟨rfl, proper⟩ := R.declared.className declared
  unfold Eval.construct
  split
  · refine yield fun state balanced => balanced.unkeep.1.produces_object unkept fun _ => ?_
    rw [balanced.unkeep.2, Option.isSome_some]
  · next method constructor =>
    have inside := decl.mem_methods_of_constructor? constructor
    have proper' := proper.methods method inside
    have isConstructor :
        (methodFrame decl method.function.name handle).isConstructor R.classes := by
      simp [Frame.isConstructor, methodFrame, declared, constructor]
    have passed : Meets (R.Balanced ((ledger.carry [handle]).keep handle))
        (Eval.arguments run [] args) (R.Ends (ledger.carry [handle]) fun values state =>
          R.Balanced ((ledger.carry [handle]).hold (values.flatMap Value.handles)) state ∧
            state.heap.references? handle = some 0) := by
      have held : Meets _ (Eval.arguments run [] args)
        (R.Ends ((ledger.carry [handle]).keep handle) _) := arguments runs parts
      refine held.mono (fun _ => id) ?_
      rintro (fault | values) state ended
      · exact ended.unkeep.1
      · exact Balanced.unkeep ended
    refine bind passed fun values => ?_
    have called := invoke ledger runs proper'
      (fun tidy => (R.distinct tidy).method declared method inside)
      (methodFrame decl method.function.name handle)
      (plain_methodScope proper.name.plain proper'.name.plain) (some ⟨handle, true⟩) rfl
      (by rintro _ ⟨⟩; exact unkept) values
    refine bind (called.strengthen fun state given => ⟨given.1, ?_⟩) fun value => ?_
    · rintro _ ⟨⟩ - -
      rw [given.2, Option.isSome_some]
    · refine yield fun state given => ?_
      obtain ⟨produced, live, own⟩ := given
      refine (produced.balanced.settle fun tidy other returned => .inr ?_).produces_object unkept
        (live handle List.mem_cons_self)
      cases own tidy isConstructor other returned
      exact List.mem_cons_self

theorem newObject (runs : R.Runs run) {className : Name} {args : List Node}
    (name : className.IsProper) (parts : ∀ arg ∈ args, arg.IsExpression) :
    Meets (R.Balanced ledger) (Eval.newObject run className args)
      (R.Ends ledger (R.Produces ledger)) := by
  refine bind (memberName runs name) fun name => ?_
  refine bind inspect fun found => ?_
  split
  · exact fail fun _ given => given.1
  · next decl =>
    refine Meets.assume (R.classes.get? name = some decl)
      (fun state given => given.1.classes ▸ given.2) fun declared => ?_
    have made : Meets (R.Balanced ledger) _ _ :=
      instantiate runs (R.declared.className declared).2
    refine bind (made.strengthen fun _ => And.left) fun handle => ?_
    refine Meets.assume (handle ∉ ledger.kept) (fun _ => And.right) fun unkept => ?_
    have constructed : Meets (R.Balanced ((ledger.carry [handle]).keep handle))
        (onFault (Eval.construct run decl handle args) (·.discardHandle handle))
        (R.Ends ledger fun _ => R.Produces ledger (.object handle)) :=
      (construct runs declared parts unkept).onFault (fun _ _ => id)
        fun fault state balanced => balanced.discardHandle unkept
    exact bind (constructed.strengthen fun _ => And.left) fun _ => yield fun _ => id

end Invocation

section Members

variable {run : Node → Eval Flow} {node : Node}

/-- The object that a node stands for is in hand. -/
theorem target (runs : R.Runs run) (expression : node.IsExpression) {fault : Option Kind → Fault}
    (final : ∀ kind, ¬ (fault kind).IsMissing) :
    Meets (R.Balanced ledger) (Eval.target run node fault)
      (R.Ends ledger fun handle => R.Produces ledger (.object handle)) := by
  refine bind inspect fun receiver => ?_
  split
  · exact fail fun _ given => given.1
  · refine bind ((evaluate runs expression).strengthen fun _ => And.left) fun value => ?_
    split
    · exact yield fun _ => id
    · exact meets_throw fun _ produced => produced.balanced.giveUp (final _)

/-- The object that a node stands for is its value. -/
theorem flow_of_target {fault : Option Kind → Fault} {machine later : Machine} {handle : Handle}
    (ran : (Eval.target run node fault).outcome? machine = some (.ok handle, later)) :
    ∃ flow, (run node).outcome? machine = some (.ok flow, later) ∧ flow.value = .object handle := by
  obtain ⟨_, -, ⟨⟩⟩ | ⟨receiver, middle, inspected, rest⟩ := outcome_of_bind ran
  cases inspected
  split at rest
  · cases rest
  · obtain ⟨_, -, ⟨⟩⟩ | ⟨value, middle, evaluated, rest⟩ := outcome_of_bind rest
    obtain ⟨_, -, ⟨⟩⟩ | ⟨flow, between, ended, value⟩ := outcome_of_bind evaluated
    cases value
    split at rest
    · next object =>
      cases rest
      exact ⟨flow, ended, object⟩
    · cases rest

/-- How the use of an object ends that an expression has produced. After a fault the object may
still be in hand. -/
def EndsOn {α : Type} (R : Regime) (ledger : Ledger) (handle : Handle)
    (yields : α → State → Prop) : Except Fault α → State → Prop
  | .ok value, state => yields value state
  | .error fault, state =>
    (R.after fault).Balanced ledger state ∨ (R.after fault).Balanced (ledger.carry [handle]) state

/-- The node that an object is reached through does not leave that object behind: when its use fails
and the run may go on, something refers to the object or it is gone. -/
def Spares {α : Type} (run : Node → Eval Flow) (node : Node) (machine : Machine)
    (result : Except Fault α) (later : Machine) : Prop :=
  ∀ fault flow middle, result = .error fault → fault.IsMissing →
    (run node).outcome? machine = some (.ok flow, middle) →
      ∀ handle ∈ flow.value.handles, later.state.heap.references? handle ≠ some 0

/-- An object is reached and used. -/
theorem onTarget (runs : R.Runs run) (expression : node.IsExpression)
    {fault : Option Kind → Fault} (final : ∀ kind, ¬ (fault kind).IsMissing)
    {next : Handle → Eval Value}
    (used : ∀ handle, handle ∉ ledger.kept → Meets (R.Balanced (ledger.carry [handle]))
      (next handle) (R.EndsOn ledger handle (R.Produces ledger)))
    {machine later : Machine} {result : Except Fault Value}
    (balanced : R.Balanced ledger machine.state)
    (ran : (Eval.target run node fault >>= next).outcome? machine = some (result, later))
    (spares : R.tidy → Spares run node machine result later) :
    R.Ends ledger (R.Produces ledger) result later.state := by
  obtain ⟨_, failed, rfl⟩ | ⟨handle, middle, reached, rest⟩ := outcome_of_bind ran
  · exact target runs expression final _ _ _ balanced failed
  · have produced := target runs expression final _ _ _ balanced reached
    have unkept := (produced.usable handle List.mem_cons_self).1
    have ended := used handle unkept _ _ _ produced.balanced rest
    cases result with
    | ok value => exact ended
    | error fault =>
      rcases ended with balanced | balanced
      · exact balanced
      · refine balanced.settle fun tidy other same => .inl ?_
        obtain ⟨flow, ran, object⟩ := flow_of_target reached
        refine spares tidy.1 fault flow middle rfl tidy.2 ran other ?_
        rwa [object]

section OnObject

variable {α β : Type} {before : State → Prop} {handle : Handle}

theorem bindOn {x : Eval α} {next : α → Eval β} {middle : α → State → Prop}
    {yields : β → State → Prop} (first : Meets before x (R.Ends (ledger.carry [handle]) middle))
    (second : ∀ value, Meets (middle value) (next value) (R.EndsOn ledger handle yields)) :
    Meets before (x >>= next) (R.EndsOn ledger handle yields) :=
  first.bind second fun _ _ => .inr

theorem failOn {fault : Fault} {yields : α → State → Prop}
    (holds : ∀ state, before state → R.Balanced (ledger.carry [handle]) state) :
    Meets before (throw fault) (R.EndsOn ledger handle yields) :=
  meets_throw fun state given => .inr ((holds state given).weaken fault)

end OnObject

/-- A check of the state leaves it as it is. -/
theorem check {α : Type} {view : State → Except Fault α} :
    Meets (R.Balanced ledger) (Eval.examine view)
      (R.Ends ledger fun value state => R.Balanced ledger state ∧ view state = .ok value) := by
  refine meets_examine fun state balanced => ?_
  cases seen : view state with
  | ok value => exact ⟨balanced, seen⟩
  | error fault => exact balanced.weaken fault

theorem callMethod (runs : R.Runs run) {method : Name} {args : List Node}
    (object : node.IsExpression) (name : method.IsProper)
    (parts : ∀ arg ∈ args, arg.IsExpression) {machine later : Machine}
    {result : Except Fault Value} (balanced : R.Balanced ledger machine.state)
    (ran : (Eval.callMethod run node method args).outcome? machine = some (result, later))
    (spares : R.tidy → Spares run node machine result later) :
    R.Ends ledger (R.Produces ledger) result later.state := by
  refine onTarget runs object (fun _ => id) (fun handle unkept => ?_) balanced ran spares
  refine bindOn inspect fun className => ?_
  split
  · exact failOn fun _ given => given.1
  · next className =>
    refine bindOn (inspect.strengthen fun _ => And.left) fun found => ?_
    split
    · exact failOn fun _ given => given.1
    · next decl =>
      refine Meets.assume (R.classes.get? className = some decl)
        (fun state given => given.1.classes ▸ given.2) fun declared => ?_
      obtain ⟨rfl, proper⟩ := R.declared.className declared
      refine bindOn ((callableName runs name).strengthen fun _ => And.left) fun name => ?_
      split
      · exact failOn fun _ => id
      · next member named =>
        have inside := List.mem_of_find?_eq_some named
        have proper' := proper.methods member inside
        have same : member.function.name = name := by simpa using List.find?_some named
        refine bindOn check fun _ => ?_
        refine bindOn ((arguments runs parts).strengthen fun _ => And.left) fun values => ?_
        have called := invoke ledger runs proper'
          (fun tidy => (R.distinct tidy).method declared member inside)
          (methodFrame decl name handle)
          (plain_methodScope proper.name.plain (same ▸ proper'.name.plain)) (some ⟨handle, false⟩)
          rfl (by rintro _ ⟨⟩; exact unkept) values
        refine called.mono (fun state balanced => ⟨balanced, by rintro _ ⟨⟩ ⟨⟩⟩) ?_
        rintro (fault | value) state ended
        · exact .inl ended
        · exact ended.1

/-- An attribute that may be used has a plain name. -/
theorem visibleAttribute (runs : R.Runs run) (handle : Handle) {member : Name}
    (name : member.IsProper) :
    Meets (R.Balanced ledger) (Eval.visibleAttribute run handle member)
      (R.Ends ledger fun name state => R.Balanced ledger state ∧ Plain name) := by
  refine bind (memberName runs name) fun name => ?_
  refine bind inspect fun found => ?_
  split
  · exact fail fun _ given => given.1
  · next decl =>
    refine Meets.assume (∃ className, R.classes.get? className = some decl)
      (fun state given => ?_) fun ⟨className, declared⟩ => ?_
    · obtain ⟨className, -, found⟩ := Option.bind_eq_some_iff.1 given.2
      exact ⟨className, given.1.classes ▸ found⟩
    refine bind (check.strengthen fun _ => And.left) fun _ => yield fun state given => ?_
    rw [← given.1.classes] at declared
    have member := Table.declaresMember_of_visible declared given.2
    exact ⟨given.1, member.plain given.1.plainNames⟩

/-- An object in hand is disposed of, but not what a value holds. -/
theorem dropTarget {handle : Handle} (unkept : handle ∉ ledger.kept) (value : Value) :
    Meets (R.Produces (ledger.carry [handle]) value) (Eval.dropTarget handle value)
      (R.Ends (ledger.carry [handle]) fun _ => R.Produces ledger value) := by
  refine update fun state produced => ?_
  have retained := produced.balanced.retain produced.usable
  have discarded : R.Balanced (ledger.hold value.handles) _ :=
    Balanced.discardHandle retained unkept
  refine ⟨discarded.disown, fun other inside => ⟨(produced.usable other inside).1, fun alive => ?_⟩⟩
  have held := discarded.counts.usable (Nat.add_pos_right _
    (List.count_pos_iff.2 (List.mem_append_left _ inside)))
  have live := held.2.2 alive
  simpa [State.disown, Heap.references?_decrementAll] using live

theorem fetchMember (runs : R.Runs run) {member : Name} (object : node.IsExpression)
    (name : member.IsProper) {machine later : Machine} {result : Except Fault Value}
    (balanced : R.Balanced ledger machine.state)
    (ran : (Eval.fetchMember run node member).outcome? machine = some (result, later))
    (spares : R.tidy → Spares run node machine result later) :
    R.Ends ledger (R.Produces ledger) result later.state := by
  refine onTarget runs object (fun _ => id) (fun handle unkept => ?_) balanced ran spares
  refine bindOn (visibleAttribute runs handle name) fun name => ?_
  refine bindOn (check.strengthen fun _ => And.left) fun value => ?_
  refine bindOn ((dropTarget unkept value).strengthen ?_) fun _ => meets_pure fun _ => id
  exact fun state given => given.1.readAttribute given.2

theorem assignMember (runs : R.Runs run) {member : Name} {expression : Node}
    (object : node.IsExpression) (name : member.IsProper) (part : expression.IsExpression)
    {machine later : Machine} {result : Except Fault Value}
    (balanced : R.Balanced ledger machine.state)
    (ran : (Eval.assignMember run node member expression).outcome? machine =
      some (result, later))
    (spares : R.tidy → Spares run node machine result later) :
    R.Ends ledger (R.Produces ledger) result later.state := by
  refine onTarget runs object (fun _ => id) (fun handle unkept => ?_) balanced ran spares
  refine bindOn (visibleAttribute runs handle name) fun name => ?_
  refine Meets.assume (Plain name) (fun _ => And.right) fun plain => ?_
  have starts (state : State) (balanced : R.Balanced (ledger.carry [handle]) state) :
      R.Balanced (ledger.carry [handle]) (state.assignAttribute handle name (.int 0)) :=
    ((balanced.produces_scalar _).assignAttribute handle plain).1
  refine bindOn ((evaluateFor runs part name starts).strengthen fun _ => And.left) fun value => ?_
  refine bindOn (update fun state produced => (produced.assignAttribute handle plain).2) fun _ => ?_
  exact bindOn (dropTarget unkept value) fun _ => meets_pure fun _ => id

end Members

end Regime

end TagScript
