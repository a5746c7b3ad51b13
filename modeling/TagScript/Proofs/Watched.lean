import TagScript.Machine.Run
import TagScript.Proofs.Steps

/-!
# Watched runs

A watch looks at the steps of a run. A watched run is cut off at the first step that the watch does
not approve of; as long as it approves, watching changes nothing. What a watch approves of may be
assumed of every step, so a watched run keeps the accounts: `Care.Trusts` says what has to be
watched for, and `Regime.runs_watched` is the induction over the nested steps.
-/

namespace TagScript

open State Eval

/-- Whether a step is approved of: how the parts of the node were run, the node, the machine before,
the result and the machine after. -/
abbrev Watch := (Node → Eval Flow) → Node → Machine → Except Fault Flow → Machine → Bool

namespace Eval

variable {α : Type}

/-- A computation, cut off if its outcome is not approved of. -/
def only (approves : Machine → Except Fault α → Machine → Bool) (x : Eval α) : Eval α :=
  ExceptT.mk fun machine =>
    (x.outcome? machine).filter fun (result, later) => approves machine result later

theorem outcome_of_only {approves : Machine → Except Fault α → Machine → Bool} {x : Eval α}
    {machine later : Machine} {result : Except Fault α}
    (ran : (only approves x).outcome? machine = some (result, later)) :
    x.outcome? machine = some (result, later) ∧ approves machine result later :=
  Option.filter_eq_some_iff.1 ran

/-- Runs a node for at most this many nested steps, and only as long as they are approved of. -/
def watched (approves : Watch) : Nat → Node → Eval Flow
  | 0, _ => cutOff
  | steps + 1, node =>
    only (approves (watched approves steps) node) (step (watched approves steps) node)

/-- Watching for nothing changes nothing. -/
theorem watched_true (steps : Nat) : watched (fun _ _ _ _ _ => true) steps = exec steps := by
  induction steps with
  | zero => rfl
  | succ steps ih =>
    funext node
    refine ExceptT.ext (StateT.ext fun machine => ?_)
    change Option.filter _ ((step (watched _ steps) node).outcome? machine) =
      (step (exec steps) node).outcome? machine
    rw [ih]
    cases (step (exec steps) node).outcome? machine <;> rfl

/-- Evaluating a constant expression yields a scalar, watched or not, and does nothing else. -/
theorem harmless_watched (approves : Watch) (steps : Nat) (node : Node)
    (constant : node.isConstant) :
    Harmless (watched approves steps node) fun flow => flow.value.IsScalar := by
  induction steps generalizing node with
  | zero =>
    intro machine result later ran
    cases ran
  | succ steps ih =>
    intro machine result later ran
    exact Harmless.step ih constant _ _ _ (outcome_of_only ran).1

end Eval

/-- Watches that a method which reads its receiver finds it live. -/
def attentive : Watch
  | _, .var name, machine, _, _ =>
    match machine.state.link name with
    | .ok target => target != receiverName || machine.state.receiverIsLive
    | .error _ => true
  | _, _, _, _, _ => true

/-- Watches that a constructor returns no object but the one it runs on. -/
def returningOwn : Watch
  | _, _, _, .ok (.returned value), later =>
    !later.state.frame.isConstructor later.state.classes ||
      value.handles.all fun handle => later.state.frame.receiver = some handle
  | _, _, _, _, _ => true

/-- Watches that an object is not left without a reference when its use fails for want of a
variable. -/
def sparing : Watch
  | run, node, machine, .error (.variableNotFound _), later =>
    match node.target?.bind fun target => (run target).outcome? machine with
    | some (.ok flow, _) =>
      flow.value.handles.all fun handle => later.state.heap.references? handle != some 0
    | _ => true
  | _, _, _, _, _ => true

/-- Watches for everything that leaves an object behind. -/
def tidying : Watch := fun run node machine result later =>
  returningOwn run node machine result later && sparing run node machine result later

/-- The watch sees to it that the code is as careful as it is taken to be. -/
structure Care.Trusts (care : Care) (approves : Watch) : Prop where
  alive : care.alive → ∀ {run node machine result later},
    approves run node machine result later → attentive run node machine result later
  tidy : care.tidy → ∀ {run node machine result later},
    approves run node machine result later → tidying run node machine result later

namespace Regime

variable {R : Regime} {approves : Watch} (trusts : R.toCare.Trusts approves)
include trusts

section Approved

variable {run : Node → Eval Flow} {node : Node} {machine later : Machine}
  {result : Except Fault Flow} (approved : approves run node machine result later)
include approved

theorem heeds_of_approved : R.Heeds run node machine result later where
  attentive := by
    rintro alive name rfl linked
    have attends := trusts.alive alive approved
    simpa [TagScript.attentive, linked] using attends
  sparing := by
    rintro tidy target aims fault flow middle rfl missing ran handle inside
    have spares := (Bool.and_eq_true_iff.1 (trusts.tidy tidy approved)).2
    obtain ⟨name, rfl⟩ : ∃ name, fault = .variableNotFound name := by
      cases fault <;> first | exact ⟨_, rfl⟩ | exact missing.elim
    simp only [TagScript.sparing, Option.mem_def.1 aims, Option.bind_some, ran,
      List.all_eq_true, bne_iff_ne] at spares
    exact spares handle inside

theorem returnsOwn_of_approved {ledger : Ledger} {flow : Flow} (ended : result = .ok flow)
    (leaves : R.Leaves ledger flow later.state) : R.ReturnsOwn ledger flow := by
  subst ended
  cases flow with
  | normal value => trivial
  | returned value =>
    intro tidy isConstructor handle inside
    have own := (Bool.and_eq_true_iff.1 (trusts.tidy tidy approved)).1
    have frame : later.state.frame = ledger.frame := leaves.balanced.frame
    simp only [returningOwn, frame, leaves.balanced.classes, isConstructor, Bool.not_true,
      Bool.false_or, List.all_eq_true, decide_eq_true_eq] at own
    exact own handle inside

end Approved

/-- A watched run keeps the accounts, however many nested steps it may take. -/
theorem runs_watched (steps : Nat) : R.Runs (watched approves steps) := by
  induction steps with
  | zero =>
    exact ⟨fun _ => meets_cutOff, fun _ => meets_cutOff, fun _ => meets_cutOff,
      fun _ _ => Discipline.allows_cutOff⟩
  | succ steps ih =>
    refine ⟨?_, ?_, ?_, ?_⟩
    · intro ledger node expression machine result later balanced ran
      obtain ⟨ran, approved⟩ := outcome_of_only ran
      exact step_expression ih (heeds_of_approved trusts approved) balanced ran expression
    · intro ledger node isStatement machine result later balanced ran
      obtain ⟨ran, approved⟩ := outcome_of_only ran
      have ended := step_statement ih (heeds_of_approved trusts approved) balanced ran isStatement
      cases result with
      | ok flow => exact ⟨ended, returnsOwn_of_approved trusts approved rfl ended⟩
      | error fault => exact ended
    · intro node constant
      exact (harmless_watched approves (steps + 1) node constant).neverMisses
    · intro D writes node machine result later ready known ran
      exact Discipline.step writes (ih.disciplined writes) node _ _ _ ready known
        (outcome_of_only ran).1

end Regime

end TagScript
