import TagScript.Proofs.Accounting
import TagScript.Proofs.Constants

/-!
# Every step keeps the accounts

A step of the evaluator meets the contracts of expressions and statements if the runs of the parts
do. Two kinds of nodes need more than that. A variable may stand for the receiver, which has to be
live where values have to be. A node that uses an object has to be known to spare it when its use
fails. A constant does not fail at all, so never for want of a variable.
-/

namespace TagScript

open State Eval

namespace Eval

/-- What does not fail does not fail for want of a variable. -/
theorem Harmless.neverMisses {α : Type} {x : Eval α} {yields : α → Prop}
    (harmless : Harmless x yields) : NeverMisses x := by
  intro machine result later _ ran fault failed
  obtain ⟨-, value, succeeded, -⟩ := harmless machine result later ran
  cases failed.symm.trans succeeded

end Eval

theorem Index.IsProper.keys {index : Index} (proper : index.IsProper) :
    index.keys ≠ [] ∧ ∀ node ∈ index.keys, node.IsExpression := by
  cases proper with
  | key part => exact ⟨List.cons_ne_nil _ _, fun node inside => List.mem_singleton.1 inside ▸ part⟩
  | path several parts =>
    refine ⟨fun empty => ?_, parts⟩
    rw [Index.keys] at empty
    simp [empty] at several

/-- The node that stands for the object that a node uses. -/
def Node.target? : Node → Option Node
  | .methodCall target .. | .memberFetch target .. | .memberAssign target .. => some target
  | _ => none

/-- A computation whose value is the value of a node. -/
theorem Eval.outcome_of_normal {x : Eval Value} {machine later : Machine}
    {result : Except Fault Flow}
    (ran : (do return Flow.normal (← x) : Eval Flow).outcome? machine = some (result, later)) :
    ∃ inner, x.outcome? machine = some (inner, later) ∧ result = inner.map .normal := by
  obtain ⟨fault, failed, rfl⟩ | ⟨value, middle, ended, ⟨⟩⟩ := outcome_of_bind ran
  · exact ⟨_, failed, rfl⟩
  · exact ⟨_, ended, rfl⟩

namespace Regime

variable {R : Regime} {ledger : Ledger} {run : Node → Eval Flow} {node : Node}

theorem assignable (name : String) :
    Meets (R.Balanced ledger) (Eval.assignable name)
      (R.Ends ledger fun _ => R.Balanced ledger) := by
  refine bind check fun name => ?_
  split
  · exact fail fun _ => And.left
  · exact yield fun _ => And.left

theorem assign (runs : R.Runs run) (name : String) (part : node.IsExpression) :
    Meets (R.Balanced ledger) (Eval.assign run name node) (R.Ends ledger (R.Produces ledger)) := by
  refine bind (assignable name) fun name => ?_
  have starts (state : State) (balanced : R.Balanced ledger state) :
      R.Balanced ledger (state.assign name (.int 0) none) :=
    ((balanced.produces_scalar _).assign name).1
  refine bind (evaluateFor runs part name starts) fun value => ?_
  exact bind (update fun state produced => (produced.assign name).2) fun _ => yield fun _ => id

/-- A value that is stored in a cell may be gone afterwards, with the array that held the cell. -/
theorem assignCell (runs : R.Runs run) (name : String) {index : Index}
    (subscripts : index.IsProper) (part : node.IsExpression) :
    Meets (R.Balanced ledger) (Eval.assignCell run name index node)
      (R.Ends ledger fun value => R.Leaves ledger (.normal value)) := by
  refine bind (assignable name) fun name => ?_
  obtain ⟨nonempty, parts⟩ := subscripts.keys
  refine bind (keys runs parts) fun path => ?_
  refine Meets.assume (path.length = index.keys.length) (fun _ => And.right) fun same => ?_
  have nonempty : path ≠ [] := by
    rintro rfl
    exact nonempty (List.length_eq_zero_iff.1 same.symm)
  refine bind ((evaluate runs part).strengthen fun _ => And.left) fun value => ?_
  refine bind (update fun state produced => ?_) fun _ => yield fun _ => id
  exact ⟨produced.again.assignPath name nonempty,
    fun handle inside => (produced.usable handle inside).1⟩

theorem operands (runs : R.Runs run) {left right : Node} (first : left.IsExpression)
    (second : right.IsExpression) :
    Meets (R.Balanced ledger) (Eval.operands run left right)
      (R.Ends ledger fun _ => R.Balanced ledger) :=
  bind (consume runs first) fun _ => bind (consume runs second) fun _ => yield fun _ => id

theorem test (runs : R.Runs run) (condition : node.IsExpression) :
    Meets (R.Balanced ledger) (Eval.test run node)
      (R.Ends ledger fun _ => R.Balanced ledger) :=
  bind (consume runs condition) fun _ => yield fun _ => id

/-- The value of a computation is the value of a node. -/
theorem normal {before : State → Prop} {x : Eval Value}
    (meets : Meets before x (R.Ends ledger (R.Produces ledger))) :
    Meets before (do return Flow.normal (← x)) (R.Ends ledger (R.Yields ledger)) :=
  bind meets fun value => yield fun _ produced => ⟨value, rfl, produced⟩

/-- What operators compute holds no object. -/
theorem computed {result : Except Fault Value} (isComputed : IsComputed result) :
    Meets (R.Balanced ledger) (Eval.ofExcept result) (R.Ends ledger (R.Produces ledger)) := by
  refine meets_ofExcept fun state balanced => ?_
  cases isComputed with
  | scalar content => exact balanced.produces_scalar content
  | unsupported symbol found => exact balanced.weaken _

theorem Ends.normal {state : State} {inner : Except Fault Value}
    (ends : R.Ends ledger (R.Produces ledger) inner state) :
    R.Ends ledger (R.Yields ledger) (inner.map .normal) state := by
  cases inner with
  | ok value => exact ⟨value, rfl, ends⟩
  | error fault => exact ends

theorem Yields.leaves (flow : Flow) (state : State) (yields : R.Yields ledger flow state) :
    R.Leaves ledger flow state := by
  obtain ⟨value, rfl, produced⟩ := yields
  exact ⟨produced.balanced, fun handle inside => (produced.usable handle inside).1⟩

/-- A scalar is left that nothing has to be done about. -/
theorem Balanced.leaves {state : State} {content : Scalar} (balanced : R.Balanced ledger state) :
    R.Leaves ledger (.normal (.scalar content)) state :=
  ⟨balanced, fun _ => List.not_mem_nil.elim⟩

theorem leaves {before : State → Prop} {x : Eval Flow}
    (meets : Meets before x (R.Ends ledger (R.Settles ledger))) :
    Meets before x (R.Ends ledger (R.Leaves ledger)) :=
  meets.mono (fun _ => id) (Ends.mono fun _ _ => Settles.leaves)

theorem Spares.of_map {machine later : Machine} {inner : Except Fault Value}
    (spares : Spares run node machine (inner.map Flow.normal) later) :
    Spares run node machine inner later := by
  rintro fault flow middle rfl
  exact spares fault flow middle rfl

/-- What a step has to be known not to do. -/
structure Heeds (R : Regime) (run : Node → Eval Flow) (node : Node) (machine : Machine)
    (result : Except Fault Flow) (later : Machine) : Prop where
  attentive : R.alive → ∀ name, node = .var name →
    machine.state.link name = .ok receiverName → machine.state.receiverIsLive
  sparing : R.tidy → ∀ target ∈ node.target?, Spares run target machine result later

section Steps

variable {machine later : Machine} {result : Except Fault Flow} (runs : R.Runs run)
  (heeds : R.Heeds run node machine result later) (balanced : R.Balanced ledger machine.state)
  (ran : (Eval.step run node).outcome? machine = some (result, later))
include runs heeds balanced ran

theorem step_expression (expression : node.IsExpression) :
    R.Ends ledger (R.Yields ledger) result later.state := by
  have of {x : Eval Flow} (meets : Meets (R.Balanced ledger) x (R.Ends ledger (R.Yields ledger)))
      (ran : x.outcome? machine = some (result, later)) :
      R.Ends ledger (R.Yields ledger) result later.state := meets _ _ _ balanced ran
  cases expression with
  | var name =>
    obtain ⟨inner, examined, rfl⟩ := outcome_of_normal ran
    rw [outcome?_examine] at examined
    obtain ⟨rfl, rfl⟩ := Prod.mk.inj (Option.some.inj examined)
    refine Ends.normal ?_
    cases read : machine.state.resolve name none with
    | ok value => exact balanced.resolve read fun alive => heeds.attentive alive name rfl
    | error fault => exact balanced.weaken fault
  | text content => exact of (yield fun _ balanced => ⟨_, rfl, balanced.produces_scalar _⟩) ran
  | integer natural => exact of (yield fun _ balanced => ⟨_, rfl, balanced.produces_scalar _⟩) ran
  | float x => exact of (yield fun _ balanced => ⟨_, rfl, balanced.produces_scalar _⟩) ran
  | call name parts => exact of (normal (callFunction runs name parts)) ran
  | arrayFetch array subscripts =>
    refine of (bind (keys runs subscripts.keys.2) fun path => normal ?_) ran
    exact check.mono (fun _ => And.left) (Ends.mono fun _ _ given => given.1.readPath given.2)
  | new name parts => exact of (normal (newObject runs name parts)) ran
  | methodCall object name parts =>
    obtain ⟨inner, called, rfl⟩ := outcome_of_normal ran
    exact (callMethod runs object name parts balanced called fun tidy =>
      (heeds.sparing tidy _ rfl).of_map).normal
  | memberFetch object name =>
    obtain ⟨inner, fetched, rfl⟩ := outcome_of_normal ran
    exact (fetchMember runs object name balanced fetched fun tidy =>
      (heeds.sparing tidy _ rfl).of_map).normal
  | compare op first second =>
    exact of (bind (operands runs first second) fun _ => normal (computed (.comparison op _ _))) ran
  | arithmetic op first second =>
    exact of (bind (operands runs first second) fun _ => normal (computed (.arithmetic op _ _))) ran
  | negate part =>
    exact of (bind (consume runs part) fun _ => normal (computed (.negate _))) ran
  | concat first second =>
    exact of (bind (operands runs first second) fun _ =>
      yield fun _ balanced => ⟨_, rfl, balanced.produces_scalar _⟩) ran

theorem step_statement (isStatement : node.IsStatement) :
    R.Ends ledger (R.Leaves ledger) result later.state := by
  have of {x : Eval Flow} (meets : Meets (R.Balanced ledger) x (R.Ends ledger (R.Leaves ledger)))
      (ran : x.outcome? machine = some (result, later)) :
      R.Ends ledger (R.Leaves ledger) result later.state := meets _ _ _ balanced ran
  cases isStatement with
  | expression part =>
    exact Ends.mono Yields.leaves _ _ (step_expression runs heeds balanced ran part)
  | sequence parts => exact of (leaves (block runs parts)) ran
  | assign name part =>
    exact of ((normal (assign runs name part)).mono (fun _ => id) (Ends.mono Yields.leaves)) ran
  | arrayAssign array subscripts part =>
    exact of (bind (assignCell runs array subscripts part) fun _ => yield fun _ => id) ran
  | memberAssign object name part =>
    obtain ⟨inner, assigned, rfl⟩ := outcome_of_normal ran
    have ended := assignMember runs object name part balanced assigned fun tidy =>
      (heeds.sparing tidy _ rfl).of_map
    exact Ends.mono Yields.leaves _ _ ended.normal
  | ifThen condition first =>
    refine of (bind (test runs condition) fun holds => ?_) ran
    cases holds with
    | false => exact yield fun _ => Balanced.leaves
    | true => exact leaves (statement runs first)
  | ifElse condition first second =>
    refine of (bind (test runs condition) fun holds => ?_) ran
    cases holds with
    | false => exact leaves (statement runs second)
    | true => exact leaves (statement runs first)
  | whileDo condition part =>
    refine of (bind (test runs condition) fun holds => ?_) ran
    cases holds with
    | false => exact yield fun _ => Balanced.leaves
    | true =>
      refine bind (statement runs part) fun flow => ?_
      cases flow with
      | returned value => exact yield fun _ => Settles.leaves
      | normal value =>
        exact (runs.statement (.whileDo condition part)).mono (fun _ given => given.settled rfl)
          (Ends.mono fun _ _ => And.left)
  | doWhile part condition =>
    refine of (bind (statement runs part) fun flow => ?_) ran
    cases flow with
    | returned value => exact yield fun _ => Settles.leaves
    | normal value =>
      refine bind ((test runs condition).strengthen fun _ given => given.settled rfl)
        fun holds => ?_
      cases holds with
      | false => exact yield fun _ => Balanced.leaves
      | true =>
        exact (runs.statement (.doWhile part condition)).mono (fun _ => id)
          (Ends.mono fun _ _ => And.left)
  | @exit value part =>
    cases value with
    | none =>
      have nothing : Meets (R.Balanced ledger) (pure (Flow.returned .empty))
          (R.Ends ledger (R.Leaves ledger)) := yield fun _ balanced => balanced.produces_scalar _
      exact of nothing ran
    | some expression => exact of (bind (evaluate runs (part _ rfl)) fun _ => yield fun _ => id) ran
  | echo part =>
    refine of (bind (evaluate runs part) fun value => ?_) ran
    have written : Meets (R.Produces ledger value) (Eval.write value.toText)
        (R.Ends ledger fun _ => R.Produces ledger value) := meets_write fun _ => id
    refine bind written fun _ => ?_
    exact bind (discardProduced value) fun _ => yield fun _ => Balanced.leaves

end Steps

end Regime

end TagScript
