import TagScript.Proofs.Endings

/-!
# Loops and branches unfold

A loop that tests after each round is one round followed by the loop that tests before each round; a
loop that tests before is a branch with one round and the loop inside; and a branch without an
alternative is one with an empty alternative (`loops_unfold`). Conditions and bodies are arbitrary
nodes. They may fail, return, and leave objects behind that the end of a statement reclaims.

Both sides of a law take different numbers of nested steps to come to the same end. So the proofs
compare computations by `Eval.Precedes`, and each side precedes the other one with some steps more.
-/

namespace TagScript

/-- Wherever one of the nodes is run, the other one would end the same way: with the same value,
the same return or the same fault, on the same machine. If one does not end, the other one does not
either. -/
def Node.Alike (first second : Node) : Prop :=
  ∀ machine outcome, Eval.Ends (fun run => run first) machine outcome ↔
    Eval.Ends (fun run => run second) machine outcome

namespace Eval

/-- Goes on after a statement, unless it returned. -/
def unlessReturned (x next : Eval Flow) : Eval Flow := do
  match ← x with
  | .returned value => return .returned value
  | .normal _ => next

/-- Runs what depends on a condition. -/
def provided (condition : Eval Bool) (x : Eval Flow) : Eval Flow := do
  if ← condition then x else return .normal .empty

section Equations

variable (steps : Nat) (condition body branch node : Node)

theorem exec_whileDo : exec (steps + 1) (.whileDo condition body) =
    provided (test (exec steps) condition) (unlessReturned (statement (exec steps) body)
      (exec steps (.whileDo condition body))) :=
  rfl

theorem exec_doWhile : exec (steps + 1) (.doWhile body condition) =
    unlessReturned (statement (exec steps) body)
      (provided (test (exec steps) condition) (exec steps (.doWhile body condition))) :=
  rfl

theorem exec_ifThen : exec (steps + 1) (.ifThen condition branch) =
    provided (test (exec steps) condition) (statement (exec steps) branch) :=
  rfl

theorem exec_pair : exec (steps + 1) (.sequence [body, node]) =
    unlessReturned (statement (exec steps) body)
      (unlessReturned (statement (exec steps) node) (return .normal .empty)) :=
  rfl

end Equations

/-! ## Nodes without a value of their own -/

/-- A computation that has the empty value unless it returns. -/
def Mute (x : Eval Flow) : Prop :=
  ∀ machine value later, x.outcome? machine = some (.ok (.normal value), later) → value = .empty

theorem ext_outcome? {α : Type} {x y : Eval α}
    (same : ∀ machine, x.outcome? machine = y.outcome? machine) : x = y :=
  ExceptT.ext (StateT.ext same)

namespace Mute

theorem empty : Mute (return .normal .empty) := by
  intro machine value later ran
  cases ran
  rfl

theorem unlessReturned {x next : Eval Flow} (mute : Mute next) :
    Mute (Eval.unlessReturned x next) := by
  intro machine value later ran
  rcases outcome_of_bind ran with ⟨fault, -, impossible⟩ | ⟨flow, middle, -, rest⟩
  · cases impossible
  · cases flow with
    | returned value => cases rest
    | normal _ => exact mute _ _ _ rest

theorem provided {condition : Eval Bool} {x : Eval Flow} (mute : Mute x) :
    Mute (Eval.provided condition x) := by
  intro machine value later ran
  rcases outcome_of_bind ran with ⟨fault, -, impossible⟩ | ⟨holds, middle, -, rest⟩
  · cases impossible
  · cases holds with
    | true => exact mute _ _ _ rest
    | false => exact empty _ _ _ rest

theorem exec_whileDo (steps : Nat) (condition body : Node) :
    Mute (exec steps (.whileDo condition body)) := by
  induction steps with
  | zero =>
    intro machine value later ran
    cases ran
  | succ steps ih => exact ih.unlessReturned.provided

/-- What hands on a return and the empty value may follow or not. -/
theorem bind_eq {x : Eval Flow} {next : Flow → Eval Flow} (mute : Mute x)
    (returned : ∀ value, next (.returned value) = return .returned value)
    (normal : next (.normal .empty) = return .normal .empty) : x >>= next = x := by
  apply ext_outcome?
  intro machine
  rw [outcome?_bind]
  cases ran : x.outcome? machine with
  | none => rfl
  | some outcome =>
    rcases outcome with ⟨result, later⟩
    cases result with
    | error fault => rfl
    | ok flow =>
      cases flow with
      | returned value =>
        show (next (.returned value)).outcome? later = _
        rw [returned, outcome?_pure]
      | normal value =>
        show (next (.normal value)).outcome? later = _
        rw [mute _ _ _ ran, normal, outcome?_pure]

/-- Nothing is left to be reclaimed at the end of such a statement. -/
theorem statement_eq {run : Node → Eval Flow} {node : Node} (mute : Mute (run node)) :
    statement run node = run node :=
  mute.bind_eq (fun _ => rfl) rfl

theorem unlessReturned_empty {x : Eval Flow} (mute : Mute x) :
    Eval.unlessReturned x (return .normal .empty) = x :=
  mute.bind_eq (fun _ => rfl) rfl

end Mute

section Laws

variable (steps : Nat) (condition body branch : Node)

/-- A statement followed by a loop. -/
theorem exec_thenLoop : exec (steps + 1) (.sequence [body, .whileDo condition body]) =
    unlessReturned (statement (exec steps) body) (exec steps (.whileDo condition body)) := by
  have mute := Mute.exec_whileDo steps condition body
  rw [exec_pair, mute.statement_eq, mute.unlessReturned_empty]

/-- A statement followed by a loop, in a branch. -/
theorem exec_ifLoop :
    exec (steps + 2) (.ifThen condition (.sequence [body, .whileDo condition body])) =
      provided (test (exec (steps + 1)) condition) (unlessReturned (statement (exec steps) body)
        (exec steps (.whileDo condition body))) := by
  have mute : Mute (exec (steps + 1) (.sequence [body, .whileDo condition body])) := by
    rw [exec_thenLoop]
    exact (Mute.exec_whileDo steps condition body).unlessReturned
  rw [exec_ifThen, mute.statement_eq, exec_thenLoop]

/-- Without an alternative there is an empty one. -/
theorem exec_ifThen_eq_ifElse :
    exec (steps + 2) (.ifThen condition branch) =
      exec (steps + 2) (.ifElse condition branch (.sequence [])) :=
  rfl

end Laws

namespace Precedes

theorem unlessReturned {x y next next' : Eval Flow} (first : Precedes x y)
    (second : Precedes next next') :
    Precedes (Eval.unlessReturned x next) (Eval.unlessReturned y next') := by
  apply first.bind
  intro flow
  cases flow with
  | returned value => exact refl _
  | normal value => exact second

theorem provided {test test' : Eval Bool} {x y : Eval Flow} (first : Precedes test test')
    (second : Precedes x y) : Precedes (Eval.provided test x) (Eval.provided test' y) :=
  first.bind fun _ => ite second (refl _)

end Precedes

section Loops

variable (condition body : Node)

/-- One more nested step. -/
theorem exec_precedes_succ (steps : Nat) (node : Node) :
    Precedes (exec steps node) (exec (steps + 1) node) :=
  exec_precedes (Nat.le_succ steps) node

theorem test_precedes_succ (steps : Nat) :
    Precedes (test (exec steps) condition) (test (exec (steps + 1)) condition) :=
  .test (exec_precedes_succ steps) condition

theorem statement_precedes_succ (steps : Nat) :
    Precedes (statement (exec steps) body) (statement (exec (steps + 1)) body) :=
  .statement (exec_precedes_succ steps) body

/-- What follows the first round of a loop that tests after each round is the loop that tests
before. -/
theorem rounds_precede_whileDo (steps : Nat) :
    Precedes (provided (test (exec steps) condition) (exec steps (.doWhile body condition)))
      (exec (steps + 1) (.whileDo condition body)) := by
  rw [exec_whileDo]
  induction steps with
  | zero => exact (Precedes.refl _).provided (.cutOff _)
  | succ steps ih =>
    rw [exec_doWhile]
    exact (Precedes.refl _).provided ((statement_precedes_succ body steps).unlessReturned ih)

theorem whileDo_precedes_rounds (steps : Nat) :
    Precedes (exec steps (.whileDo condition body))
      (provided (test (exec steps) condition) (exec steps (.doWhile body condition))) := by
  induction steps with
  | zero => exact .cutOff _
  | succ steps ih =>
    rw [exec_whileDo, exec_doWhile]
    exact (test_precedes_succ condition steps).provided ((Precedes.refl _).unlessReturned ih)

theorem doWhile_precedes_thenLoop (steps : Nat) :
    Precedes (exec (steps + 1) (.doWhile body condition))
      (exec (steps + 2) (.sequence [body, .whileDo condition body])) := by
  rw [exec_doWhile, exec_thenLoop]
  exact (statement_precedes_succ body steps).unlessReturned
    (rounds_precede_whileDo condition body steps)

theorem thenLoop_precedes_doWhile (steps : Nat) :
    Precedes (exec (steps + 1) (.sequence [body, .whileDo condition body]))
      (exec (steps + 1) (.doWhile body condition)) := by
  rw [exec_doWhile, exec_thenLoop]
  exact (Precedes.refl _).unlessReturned (whileDo_precedes_rounds condition body steps)

theorem whileDo_precedes_ifLoop (steps : Nat) :
    Precedes (exec (steps + 1) (.whileDo condition body))
      (exec (steps + 2) (.ifThen condition (.sequence [body, .whileDo condition body]))) := by
  rw [exec_whileDo, exec_ifLoop]
  exact (test_precedes_succ condition steps).provided (.refl _)

theorem ifLoop_precedes_whileDo (steps : Nat) :
    Precedes (exec (steps + 2) (.ifThen condition (.sequence [body, .whileDo condition body])))
      (exec (steps + 2) (.whileDo condition body)) := by
  rw [exec_ifLoop, exec_whileDo]
  exact (Precedes.refl _).provided ((statement_precedes_succ body steps).unlessReturned
    (exec_precedes_succ steps _))

end Loops

end Eval

open Eval

/-- Nodes run alike if each one, given some steps, precedes the other one with some others. -/
theorem Node.alike_of_precedes {first second : Node}
    (one : ∀ steps, ∃ others, Precedes (exec (steps + 2) first) (exec others second))
    (two : ∀ steps, ∃ others, Precedes (exec (steps + 2) second) (exec others first)) :
    first.Alike second := by
  have carries {node node' : Node} (all : ∀ steps, ∃ others,
      Precedes (exec (steps + 2) node) (exec others node')) {machine : Machine}
      {outcome : Except Fault Flow × Machine} (ends : Ends (fun run => run node) machine outcome) :
      Ends (fun run => run node') machine outcome := by
    rcases ends with ⟨steps, ran⟩
    rcases all steps with ⟨others, precedes⟩
    exact ⟨others, precedes _ _ (exec_precedes (Nat.le_add_right steps 2) node _ _ ran)⟩
  exact fun machine outcome => ⟨carries one, carries two⟩

/-- The laws of loops and branches, for all conditions, bodies and branches, on all machines. -/
theorem loops_unfold (condition body branch : Node) :
    (Node.doWhile body condition).Alike (.sequence [body, .whileDo condition body]) ∧
    (Node.whileDo condition body).Alike
      (.ifThen condition (.sequence [body, .whileDo condition body])) ∧
    (Node.ifThen condition branch).Alike (.ifElse condition branch (.sequence [])) := by
  refine ⟨?_, ?_, ?_⟩
  · apply Node.alike_of_precedes
    · exact fun steps => ⟨_, doWhile_precedes_thenLoop condition body (steps + 1)⟩
    · exact fun steps => ⟨_, thenLoop_precedes_doWhile condition body (steps + 1)⟩
  · apply Node.alike_of_precedes
    · exact fun steps => ⟨_, whileDo_precedes_ifLoop condition body (steps + 1)⟩
    · exact fun steps => ⟨_, ifLoop_precedes_whileDo condition body steps⟩
  · apply Node.alike_of_precedes
    · intro steps
      rw [exec_ifThen_eq_ifElse]
      exact ⟨_, .refl _⟩
    · intro steps
      rw [← exec_ifThen_eq_ifElse]
      exact ⟨_, .refl _⟩

end TagScript
