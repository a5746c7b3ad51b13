import TagScript.Machine.Step
import TagScript.Proofs.Contracts

/-!
# More steps keep what has ended

A computation that runs nodes is cut off when it needs more nested steps than it may take. With more
steps it goes further, but what has ended without being cut off ends the same way with more steps
(`Eval.exec_precedes`). So a computation ends in at most one way, whatever the number of steps, and
`Eval.Ends` says that it does for some number.
-/

namespace TagScript.Eval

variable {α β : Type}

/-- Whatever the first computation ends with, the second one ends with too. -/
def Precedes (x y : Eval α) : Prop :=
  ∀ machine outcome, x.outcome? machine = some outcome → y.outcome? machine = some outcome

namespace Precedes

variable {x y : Eval α}

theorem refl (x : Eval α) : Precedes x x :=
  fun _ _ => id

theorem cutOff (x : Eval α) : Precedes Eval.cutOff x := by
  intro machine outcome ran
  cases ran

theorem bind {f g : α → Eval β} (first : Precedes x y) (second : ∀ a, Precedes (f a) (g a)) :
    Precedes (x >>= f) (y >>= g) := by
  rintro machine ⟨result, later⟩ ran
  rw [outcome?_bind]
  rcases outcome_of_bind ran with ⟨fault, failed, rfl⟩ | ⟨a, middle, ended, rest⟩
  · rw [first _ _ failed]
    rfl
  · rw [first _ _ ended]
    exact second a _ _ rest

/-- Computations that go on alike after a first part. -/
theorem after (x : Eval α) {f g : α → Eval β} (second : ∀ a, Precedes (f a) (g a)) :
    Precedes (x >>= f) (x >>= g) :=
  (refl x).bind second

theorem tryCatch {handler handler' : Fault → Eval α} (first : Precedes x y)
    (second : ∀ fault, Precedes (handler fault) (handler' fault)) :
    Precedes (MonadExcept.tryCatch x handler) (MonadExcept.tryCatch y handler') := by
  rintro machine ⟨result, later⟩ ran
  rw [outcome?_tryCatch]
  rcases outcome_of_tryCatch ran with ⟨value, ended, rfl⟩ | ⟨fault, middle, failed, rest⟩
  · rw [first _ _ ended]
    rfl
  · rw [first _ _ failed]
    exact second fault _ _ rest

theorem onFault (first : Precedes x y) (change : State → State) :
    Precedes (Eval.onFault x change) (Eval.onFault y change) :=
  first.tryCatch fun _ => refl _

theorem observe (first : Precedes x y) : Precedes (Eval.observe x) (Eval.observe y) := by
  rintro machine outcome ran
  rw [outcome?_observe] at ran ⊢
  rcases Option.map_eq_some_iff.1 ran with ⟨inner, ended, rfl⟩
  rw [first _ _ ended]
  rfl

theorem ite {x' y' : Eval α} {condition : Prop} [Decidable condition] (holds : Precedes x y)
    (fails : Precedes x' y') :
    Precedes (if condition then x else x') (if condition then y else y') := by
  by_cases given : condition
  · rw [if_pos given, if_pos given]
    exact holds
  · rw [if_neg given, if_neg given]
    exact fails

/-! ## Parts of a node -/

section Parts

variable {run run' : Node → Eval Flow} (runs : ∀ node, Precedes (run node) (run' node))
include runs

theorem evaluate (node : Node) : Precedes (Eval.evaluate run node) (Eval.evaluate run' node) :=
  (runs node).bind fun _ => refl _

theorem consume (node : Node) : Precedes (Eval.consume run node) (Eval.consume run' node) :=
  (evaluate runs node).bind fun _ => refl _

theorem statement (node : Node) :
    Precedes (Eval.statement run node) (Eval.statement run' node) :=
  (runs node).bind fun _ => refl _

theorem block (nodes : List Node) : Precedes (Eval.block run nodes) (Eval.block run' nodes) := by
  induction nodes with
  | nil => exact refl _
  | cons node nodes ih =>
    apply (statement runs node).bind
    intro flow
    cases flow with
    | returned value => exact refl _
    | normal value => exact ih

theorem arguments (held : List Value) (nodes : List Node) :
    Precedes (Eval.arguments run held nodes) (Eval.arguments run' held nodes) := by
  induction nodes generalizing held with
  | nil => exact refl _
  | cons node nodes ih =>
    apply ((evaluate runs node).onFault _).bind
    intro value
    exact after _ fun _ => ih _

theorem keys (nodes : List Node) : Precedes (Eval.keys run nodes) (Eval.keys run' nodes) := by
  induction nodes with
  | nil => exact refl _
  | cons node nodes ih =>
    apply (evaluate runs node).bind
    intro value
    exact after _ fun key => ih.bind fun _ => refl _

theorem callableName (name : Name) :
    Precedes (Eval.callableName run name) (Eval.callableName run' name) := by
  cases name with
  | written name => exact refl _
  | computed node => exact (evaluate runs node).bind fun _ => refl _

theorem memberName (name : Name) :
    Precedes (Eval.memberName run name) (Eval.memberName run' name) := by
  cases name with
  | written name => exact refl _
  | computed node => exact (evaluate runs node).bind fun _ => refl _

theorem evaluateFor (name : String) (start : State → State) (node : Node) :
    Precedes (Eval.evaluateFor run name start node) (Eval.evaluateFor run' name start node) := by
  apply (evaluate runs node).tryCatch
  intro fault
  exact ite (after _ fun _ => evaluate runs node) (refl _)

/-! ## Calls and objects -/

theorem runBody (decl : FunctionDecl) (values : List Value) :
    Precedes (Eval.runBody run decl values) (Eval.runBody run' decl values) := by
  apply after
  intro _
  apply after
  intro frame
  exact ite (refl _) ((block runs decl.body).bind fun _ => refl _)

theorem invoke (decl : FunctionDecl) (frame : Frame) (values : List Value)
    (receiver : Option Receiver) :
    Precedes (Eval.invoke run decl frame values receiver)
      (Eval.invoke run' decl frame values receiver) :=
  after _ fun _ => (runBody runs decl values).observe.bind fun _ => refl _

theorem callFunction (function : Name) (args : List Node) :
    Precedes (Eval.callFunction run function args) (Eval.callFunction run' function args) := by
  apply (callableName runs function).bind
  intro name
  apply after
  intro found
  cases found with
  | none => exact refl _
  | some decl => exact (arguments runs [] args).bind fun values => invoke runs _ _ _ _

theorem initialValue (member : AttributeDecl) :
    Precedes (Eval.initialValue run member) (Eval.initialValue run' member) := by
  unfold Eval.initialValue
  split
  · exact evaluate runs _
  · exact refl _

theorem setAttributes (handle : Handle) (members : List AttributeDecl) :
    Precedes (Eval.setAttributes run handle members) (Eval.setAttributes run' handle members) := by
  induction members with
  | nil => exact refl _
  | cons member members ih => exact (initialValue runs member).bind fun _ => after _ fun _ => ih

theorem instantiate (decl : ClassDecl) :
    Precedes (Eval.instantiate run decl) (Eval.instantiate run' decl) := by
  unfold Eval.instantiate
  split
  · exact refl _
  · exact after _ fun handle => (setAttributes runs handle _).bind fun _ => refl _

theorem construct (decl : ClassDecl) (handle : Handle) (args : List Node) :
    Precedes (Eval.construct run decl handle args) (Eval.construct run' decl handle args) := by
  unfold Eval.construct
  split
  · exact refl _
  · exact (arguments runs [] args).bind fun values => (invoke runs _ _ _ _).bind fun _ => refl _

theorem newObject (className : Name) (args : List Node) :
    Precedes (Eval.newObject run className args) (Eval.newObject run' className args) := by
  apply (memberName runs className).bind
  intro name
  apply after
  intro found
  cases found with
  | none => exact refl _
  | some decl =>
    apply (instantiate runs decl).bind
    intro handle
    exact ((construct runs decl handle args).onFault _).bind fun _ => refl _

theorem target (node : Node) (fault : Option Kind → Fault) :
    Precedes (Eval.target run node fault) (Eval.target run' node fault) := by
  apply after
  intro receiver
  exact ite (refl _) ((evaluate runs node).bind fun _ => refl _)

theorem callMethod (node : Node) (method : Name) (args : List Node) :
    Precedes (Eval.callMethod run node method args) (Eval.callMethod run' node method args) := by
  apply (target runs node _).bind
  intro handle
  apply after
  intro className
  cases className with
  | none => exact refl _
  | some className =>
    apply after
    intro found
    cases found with
    | none => exact refl _
    | some decl =>
      apply (callableName runs method).bind
      intro name
      cases decl.method? name with
      | none => exact refl _
      | some member =>
        apply after
        intro _
        exact (arguments runs [] args).bind fun values => invoke runs _ _ _ _

theorem visibleAttribute (handle : Handle) (member : Name) :
    Precedes (Eval.visibleAttribute run handle member)
      (Eval.visibleAttribute run' handle member) :=
  (memberName runs member).bind fun _ => refl _

theorem fetchMember (node : Node) (member : Name) :
    Precedes (Eval.fetchMember run node member) (Eval.fetchMember run' node member) :=
  (target runs node _).bind fun handle =>
    (visibleAttribute runs handle member).bind fun _ => refl _

theorem assignMember (node : Node) (member : Name) (expression : Node) :
    Precedes (Eval.assignMember run node member expression)
      (Eval.assignMember run' node member expression) := by
  apply (target runs node _).bind
  intro handle
  apply (visibleAttribute runs handle member).bind
  intro name
  exact (evaluateFor runs name _ expression).bind fun _ => refl _

/-! ## Nodes -/

theorem assign (name : String) (expression : Node) :
    Precedes (Eval.assign run name expression) (Eval.assign run' name expression) :=
  after _ fun name => (evaluateFor runs name _ expression).bind fun _ => refl _

theorem assignCell (name : String) (index : Index) (expression : Node) :
    Precedes (Eval.assignCell run name index expression)
      (Eval.assignCell run' name index expression) := by
  apply after
  intro name
  apply (keys runs index.keys).bind
  intro path
  exact (evaluate runs expression).bind fun _ => refl _

theorem operands (left right : Node) :
    Precedes (Eval.operands run left right) (Eval.operands run' left right) :=
  (consume runs left).bind fun _ => (consume runs right).bind fun _ => refl _

theorem test (condition : Node) :
    Precedes (Eval.test run condition) (Eval.test run' condition) :=
  (consume runs condition).bind fun _ => refl _

/-- A node ends as before if its parts do. -/
theorem step (node : Node) : Precedes (Eval.step run node) (Eval.step run' node) := by
  cases node with
  | var name => exact refl _
  | text content => exact refl _
  | integer n => exact refl _
  | float x => exact refl _
  | sequence nodes => exact block runs nodes
  | ifThen condition thenBranch =>
    exact (test runs condition).bind fun _ => ite (statement runs thenBranch) (refl _)
  | ifElse condition thenBranch elseBranch =>
    exact (test runs condition).bind fun _ =>
      ite (statement runs thenBranch) (statement runs elseBranch)
  | whileDo condition body =>
    apply (test runs condition).bind
    intro holds
    apply ite _ (refl _)
    apply (statement runs body).bind
    intro flow
    cases flow with
    | returned value => exact refl _
    | normal value => exact runs _
  | doWhile body condition =>
    apply (statement runs body).bind
    intro flow
    cases flow with
    | returned value => exact refl _
    | normal value => exact (test runs condition).bind fun _ => ite (runs _) (refl _)
  | exit value =>
    cases value with
    | none => exact refl _
    | some expression => exact (evaluate runs expression).bind fun _ => refl _
  | echo expression => exact (evaluate runs expression).bind fun _ => refl _
  | assign name expression => exact (assign runs name expression).bind fun _ => refl _
  | arrayAssign name index expression =>
    exact (assignCell runs name index expression).bind fun _ => refl _
  | arrayFetch name index => exact (keys runs index.keys).bind fun _ => refl _
  | call function args => exact (callFunction runs function args).bind fun _ => refl _
  | new className args => exact (newObject runs className args).bind fun _ => refl _
  | methodCall node method args => exact (callMethod runs node method args).bind fun _ => refl _
  | memberFetch node member => exact (fetchMember runs node member).bind fun _ => refl _
  | memberAssign node member expression =>
    exact (assignMember runs node member expression).bind fun _ => refl _
  | compare op left right => exact (operands runs left right).bind fun _ => refl _
  | arithmetic op left right => exact (operands runs left right).bind fun _ => refl _
  | negate operand => exact (consume runs operand).bind fun _ => refl _
  | concat left right => exact (operands runs left right).bind fun _ => refl _

end Parts

end Precedes

/-- A node that has ended ends the same way with more steps. -/
theorem exec_precedes {fewer more : Nat} (le : fewer ≤ more) (node : Node) :
    Precedes (exec fewer node) (exec more node) := by
  induction fewer generalizing more node with
  | zero => exact .cutOff _
  | succ fewer ih =>
    cases more with
    | zero => contradiction
    | succ more => exact .step (ih (Nat.le_of_succ_le_succ le)) node

/-- With enough nested steps the computation, given how nodes are run, ends like this. -/
def Ends (x : (Node → Eval Flow) → Eval α) (machine : Machine)
    (outcome : Except Fault α × Machine) : Prop :=
  ∃ steps, (x (exec steps)).outcome? machine = some outcome

/-- A computation that gets at least as far as before if nodes do. -/
def Grows (x : (Node → Eval Flow) → Eval α) : Prop :=
  ∀ ⦃run run' : Node → Eval Flow⦄, (∀ node, Precedes (run node) (run' node)) →
    Precedes (x run) (x run')

/-- A computation that does not run nodes. -/
theorem Grows.const (x : Eval α) : Grows fun _ => x :=
  fun _ _ _ => .refl x

namespace Ends

variable {x : (Node → Eval Flow) → Eval α} {machine : Machine}

/-- A computation ends in one way only. -/
theorem unique (grows : Grows x) {first second : Except Fault α × Machine}
    (one : Ends x machine first) (two : Ends x machine second) : first = second := by
  rcases one with ⟨steps, ran⟩
  rcases two with ⟨steps', ran'⟩
  have longer := grows (exec_precedes (Nat.le_max_left steps steps')) _ _ ran
  have longer' := grows (exec_precedes (Nat.le_max_right steps steps')) _ _ ran'
  exact Option.some.inj (longer.symm.trans longer')

theorem of_outcome {x : Eval α} {outcome : Except Fault α × Machine}
    (ran : x.outcome? machine = some outcome) : Ends (fun _ => x) machine outcome :=
  ⟨0, ran⟩

theorem bind {next : (Node → Eval Flow) → α → Eval β} {middle : Machine} {a : α}
    {outcome : Except Fault β × Machine} (first : Ends x machine (.ok a, middle)) (grows : Grows x)
    (grows' : ∀ a, Grows fun run => next run a)
    (second : Ends (fun run => next run a) middle outcome) :
    Ends (fun run => x run >>= next run) machine outcome := by
  rcases first with ⟨steps, ran⟩
  rcases second with ⟨steps', ran'⟩
  refine ⟨max steps steps', ?_⟩
  rw [outcome?_bind, grows (exec_precedes (Nat.le_max_left steps steps')) _ _ ran]
  exact grows' a (exec_precedes (Nat.le_max_right steps steps')) _ _ ran'

/-- What comes after the last node. -/
theorem andThen {next : α → Eval β} {middle : Machine} {a : α}
    {outcome : Except Fault β × Machine} (first : Ends x machine (.ok a, middle)) (grows : Grows x)
    (second : (next a).outcome? middle = some outcome) :
    Ends (fun run => x run >>= next) machine outcome :=
  first.bind grows (fun a => .const (next a)) (of_outcome second)

/-- A node ends as the step that it takes. -/
theorem of_step {node : Node} {outcome : Except Fault Flow × Machine}
    (ends : Ends (fun run => step run node) machine outcome) :
    Ends (fun run => run node) machine outcome := by
  rcases ends with ⟨steps, ran⟩
  exact ⟨steps + 1, ran⟩

end Ends

end TagScript.Eval
