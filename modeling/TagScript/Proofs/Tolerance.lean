import TagScript.Proofs.References

/-!
# Watches that never object

A watch that approves of every step changes nothing, and nor does one that approves of every step
that can occur. While sources run, all steps start in well-keyed states, in scopes with plain names.
A watch that approves of all such steps lets every source run as it does unwatched
(`Machine.watchedRun?_of_tolerant`). So whatever is true of one step from such a state is true of all
steps of all runs, however deeply they are nested.
-/

namespace TagScript

open State Eval

/-- The watch approves of every step that starts in a well-keyed state, in a scope with a plain
name. -/
def Tolerant (approves : Watch) : Prop :=
  ∀ {steps node machine result later}, machine.state.WellKeyed [] →
    Plain machine.state.frame.scope →
    (step (watched approves steps) node).outcome? machine = some (result, later) →
    approves (watched approves steps) node machine result later

section Runs

variable {approves : Watch} (tolerant : Tolerant approves)
include tolerant

/-- Under the watch nodes run as they do unwatched. The induction is on the nested steps: the parts
of a node run alike, so the step does, and its start is ready. -/
theorem runsAlike_watched {origin : State} (names : origin.PlainNames) (steps : Nat) :
    (isolation origin names).coupling.RunsAlike (exec steps) (watched approves steps) := by
  induction steps with
  | zero => exact fun _ => Coupling.allows_cutOff
  | succ steps ih =>
    intro node first second coupled known
    have ended := Coupling.stepFreely (isolation_writesFreely names).coupling ih node first second
      coupled known
    obtain rfl := Discipline.eq_of_coupled coupled
    have ready : origin.Isolates second.state := coupled.ready.2
    show Option.Rel _ ((step (exec steps) node).outcome? second)
      (Option.filter _ ((step (watched approves steps) node).outcome? second))
    cases ran : (step (watched approves steps) node).outcome? second with
    | none =>
      rw [ran] at ended
      exact ended
    | some outcome =>
      rw [ran] at ended
      rw [Option.filter_some, if_pos (tolerant ready.keyed ready.scope ran)]
      exact ended

/-- A program that starts from rest runs as it does unwatched. -/
theorem outcome?_programWith_watched (steps : Nat) {program : Program} (proper : program.IsProper)
    {machine : Machine} (rests : machine.state.Rests ⟨False, False⟩) :
    (programWith (watched approves steps) program).outcome? machine =
      (Eval.program steps program).outcome? machine := by
  show ((declare program.functions program.classes) >>= _).outcome? machine =
    ((declare program.functions program.classes) >>= _).outcome? machine
  rw [outcome?_bind, outcome?_bind]
  cases declared : (declare program.functions program.classes).outcome? machine with
  | none => rfl
  | some outcome =>
    rcases outcome with ⟨result, middle⟩
    have rests' := rests_declare proper False.elim _ _ _ rests declared
    cases result with
    | error fault => rfl
    | ok value =>
      have ready : middle.state.Isolates middle.state :=
        ⟨rfl, rfl, rests'.keyed, by rw [rests'.frame]; decide⟩
      have alike := runsAlike_watched tolerant rests'.balanced.plainNames steps
      refine @Discipline.outcome?_of_matches _ _ [] _ (fun _ => {}) _
        ((Coupling.statement alike program.body).bind fun flow _ => ?_) _ ready
        fun _ => List.not_mem_nil.elim
      cases flow with
      | normal value => exact Coupling.allows_return
      | returned value => exact Coupling.allows_discard value

/-- Every source runs as it does unwatched, on every machine that sources lead to. -/
theorem Machine.watchedRun?_of_tolerant {machine : Machine} (reachable : machine.Reachable)
    (source : String) (steps : Nat) :
    machine.watchedRun? approves source steps = machine.runSource? source steps := by
  unfold watchedRun? runSource? afterParsing
  cases read : Program.ofSource source with
  | error failure => rfl
  | ok program =>
    have same := outcome?_programWith_watched tolerant steps (Program.isProper_ofSource read)
      reachable.rests
    exact congrArg (Option.map _) same

end Runs

end TagScript
