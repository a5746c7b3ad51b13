import Mathlib
import TagScript.Proofs.Locality

/-!
# Calls leave the variables of other activations alone

All activations of a function share one scope name, and so do the keys of their variables. They are
kept apart by taking the earlier activation out of the state for the duration of a call. The
discipline `isolation` says what that achieves for every run; here it is put to use for a single
call, of which everything is known that its caller can see.
-/

namespace TagScript

open State

/-- A call that ends, whether it returns or fails, leaves every variable of every scope bound as it
was and to the same value, the variables of an earlier activation of the same function included.
Only attributes, which the global scope keeps in slots of their own, may differ. -/
theorem invoke_keeps_variables (steps : Nat) (decl : FunctionDecl) {frame : Frame}
    (values : List Value) (receiver : Option Receiver) {machine later : Machine}
    {result : Except Fault Value} (names : machine.state.PlainNames)
    (keyed : machine.state.WellKeyed []) (plain : Plain frame.scope)
    (ran : (Eval.invoke (Eval.exec steps) decl frame values receiver).outcome? machine =
      some (result, later)) (scope name : String)
    (notSlot : ¬ (scope = globalScope ∧ IsSlot name)) :
    later.state.bindingIn? scope name = machine.state.bindingIn? scope name ∧
      ∀ place, machine.state.bindingIn? scope name = some place →
        later.state.storage.get? place = machine.state.storage.get? place := by
  obtain ⟨inner, body, rfl⟩ := Eval.body_of_invoke ran
  have begun := (State.Isolates.beginCall keyed names plain receiver decl.params values).2
  have runs := Discipline.exec (isolation_writesFreely names) steps
  have within := (Discipline.runBody runs decl values body begun).2
  have keeps := within.endCall keyed names plain result.toOption
  exact ⟨keeps.binding notSlot, fun _ found => keeps.value notSlot found⟩

/-- Calls itself once: `function f($x) { if ($x) { $x = 0; f($x); } }`. -/
def twice : FunctionDecl where
  name := "f"
  params := ["x"]
  body := [.ifThen (.var "x")
    (.sequence [.assign "x" (.integer 0), .call (.written "f") [.var "x"]])]

/-- The state in which the function is running already. -/
def runningTwice : State :=
  { functions := (∅ : Table FunctionDecl).insert "f" twice, frame := { scope := "f" } }

/-- Two nested calls of a function leave the variable of a third, outer one as it was, although all
three store it under the same key. -/
theorem invoke_keeps_variables_twice : ∃ result later,
    (Eval.invoke (Eval.exec 9) twice { scope := "f" } [.int 1] none).outcome?
        { state := runningTwice.assign "x" (.int 2) none } = some (result, later) ∧
      later.state.bindingIn? "f" "x" = some ⟨.scalar, "f#x"⟩ ∧
      later.state.storage.get? ⟨.scalar, "f#x"⟩ = some (.int 2) := by
  have names : runningTwice.PlainNames := by
    refine ⟨fun {name decl} found => ?_, fun found => ?_, fun found => ?_, fun found => ?_⟩
    · have single : name = "f" := by
        simp only [runningTwice, Table.get?_insert, Table.get?_empty] at found
        grind
      rw [single]
      decide
    all_goals cases found
  have keyed : runningTwice.WellKeyed [] := WellKeyed.initial.congr rfl rfl
  have assigned := Keeps.assign keyed names (by decide) "x" (.int 2)
  have ends : ((Eval.invoke (Eval.exec 9) twice { scope := "f" } [.int 1] none).outcome?
      { state := runningTwice.assign "x" (.int 2) none }).isSome = true := by cbv
  obtain ⟨⟨result, later⟩, ran⟩ := Option.isSome_iff_exists.mp ends
  have local' : ¬ ("f" = globalScope ∧ IsSlot "x") := fun slot => absurd slot.1 (by decide)
  have kept := invoke_keeps_variables 9 twice [.int 1] none (assigned.plainNames names)
    assigned.keyed (by decide) ran "f" "x" local'
  have before : (runningTwice.assign "x" (.int 2) none).bindingIn? "f" "x" =
      some ⟨.scalar, "f#x"⟩ := by cbv
  refine ⟨result, later, ran, kept.1.trans before, (kept.2 _ before).trans ?_⟩
  cbv

end TagScript
