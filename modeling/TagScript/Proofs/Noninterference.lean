import TagScript.Proofs.Locality

/-!
# Calls do not see the variables of their callers

Code reads and writes the running scope and the global one. A call starts in a scope of its own,
from which all earlier activations have been taken out, so what its callers keep in their variables
makes no difference to it. That is a statement about two runs, from states that agree on everything
but the other scopes. `blindness` couples them: at every step both states are isolated, and they
agree on the scopes in sight.
-/

namespace TagScript

open State

namespace State.Agrees

variable {visible : String → Prop} {first second later₁ later₂ : State} {frame : Frame}
  {receiver : Option Receiver} {params : List String} {values : List Value}
  (agrees : Agrees visible [] first second) (keyed₁ : first.WellKeyed [])
  (keyed₂ : second.WellKeyed []) (global : visible globalScope)
include agrees keyed₁ keyed₂ global

/-- The bodies of two calls start out seeing the same. -/
theorem beginBody :
    ((first.beginCall frame receiver).2.bindArguments params values).Agrees
      ((first.beginCall frame receiver).2.bindArguments params values).InSight []
      ((second.beginCall frame receiver).2.bindArguments params values) := by
  have running : (first.beginCall frame receiver).2.frame.scope = frame.scope := by
    rw [beginCall_eq]
    rfl
  have bound := (agrees.beginCall keyed₁ keyed₂ frame receiver).bindArguments (.inl global)
    (.inr running) params values
  refine bound.mono (fun scope inSight => ?_) fun _ => List.not_mem_nil.elim
  unfold InSight at inSight
  rw [frame_bindArguments, running] at inSight
  obtain rfl | same := inSight
  · exact .inl global
  · exact .inr same

variable (names₁ : first.PlainNames) (names₂ : second.PlainNames) (plain : Plain frame.scope)
  (own : frame.scope ≠ globalScope)
include names₁ names₂ plain own

/-- If the bodies of two calls see the same at their ends, the callers see the same again. -/
theorem endBody
    (within₁ : ((first.beginCall frame receiver).2.bindArguments params values).StaysWithin later₁)
    (within₂ : ((second.beginCall frame receiver).2.bindArguments params values).StaysWithin later₂)
    (inside : later₁.Agrees later₁.InSight [] later₂) (result : Option Value) :
    Agrees visible [] (later₁.endCall (first.beginCall frame receiver).1 result)
      (later₂.endCall (second.beginCall frame receiver).1 result) := by
  have running : later₁.frame.scope = frame.scope := by
    rw [within₁.2, frame_bindArguments, beginCall_eq]
    rfl
  refine agrees.endCall keyed₁ keyed₂ names₁ names₂ own (within₁.body keyed₁ names₁ plain)
    (within₂.body keyed₂ names₂ plain) (inside.mono (fun scope => ?_) fun _ => id) result global
  rw [InSight, running]
  exact id

end State.Agrees

section Blindness

variable (origin : State) (outputs : String × String)

/-- Two runs that see the same, and what they have written since they began. -/
def blindPairing : Pairing where
  functions := origin.functions
  classes := origin.classes
  ready first second :=
    origin.Isolates first ∧ origin.Isolates second ∧ first.Agrees first.InSight [] second
  related := StaysWithin
  known _ _ := True
  outputs output output' := ∃ text, output = outputs.1 ++ text ∧ output' = outputs.2 ++ text
  admitted frame := Plain frame.scope ∧ frame.scope ≠ globalScope

variable {origin} {outputs}

/-- Changes that each run may make, and that make no difference to what is in sight. -/
theorem blindPairing_moves {first second first' second' : State}
    (one : origin.Isolates first' ∧ first.StaysWithin first')
    (two : origin.Isolates second' ∧ second.StaysWithin second')
    (agrees : first'.Agrees first.InSight [] second') :
    (blindPairing origin outputs).Moves first second first' second' := by
  refine ⟨⟨one.1, two.1, ?_⟩, one.2, two.2⟩
  unfold InSight at agrees ⊢
  rwa [one.2.2]

variable (outputs) (names : origin.PlainNames)
  (unnamed : origin.functions.get? globalScope = none)

/-- Code does not tell states apart that differ in scopes out of sight. -/
def blindness : Coupling where
  toPairing := blindPairing origin outputs
  built := by
    rintro frame (@⟨name, decl, found⟩ | @⟨className, decl, found, method, declared, handle⟩)
    · refine ⟨names.function found, fun same => ?_⟩
      obtain rfl : name = globalScope := same
      exact nomatch unnamed.symm.trans found
    · exact ⟨plain_methodScope (names.className found) (names.method found _ declared),
        methodScope_ne_globalScope _ _⟩
  declared ready := ⟨ready.1.functions, ready.1.classes⟩
  agrees ready := ready.2.2
  refl ready := ⟨⟨.refl ready.1.keyed, rfl⟩, ⟨.refl ready.2.1.keyed, rfl⟩⟩
  trans := (isolation origin names).trans
  kept _ _ := trivial
  reached _ _ _ := trivial
  append := by
    rintro output output' ⟨text, rfl, rfl⟩ more
    exact ⟨text ++ more, String.append_assoc .., String.append_assoc ..⟩
  retain := by
    rintro first second ⟨one, two, agrees⟩ value
    exact blindPairing_moves ((isolation origin names).retain one value)
      ((isolation origin names).retain two value) (agrees.retain value)
  disown := by
    rintro first second ⟨one, two, agrees⟩ value
    exact blindPairing_moves ((isolation origin names).disown one value)
      ((isolation origin names).disown two value) (agrees.disown value)
  release := by
    rintro first second ⟨one, two, agrees⟩ handles
    exact blindPairing_moves ((isolation origin names).release one handles)
      ((isolation origin names).release two handles) (agrees.release (.inl rfl) handles)
  discardHandle := by
    rintro first second ⟨one, two, agrees⟩ handle
    exact blindPairing_moves ((isolation origin names).discardHandle one handle)
      ((isolation origin names).discardHandle two handle) (agrees.discardHandle (.inl rfl) handle)
  assign := by
    rintro first second ⟨one, two, agrees⟩ name value -
    exact blindPairing_moves ((isolation origin names).assign one name fun _ _ => trivial)
      ((isolation origin names).assign two name fun _ _ => trivial)
      (agrees.assign (.inl rfl) (.inr rfl) name value)
  assignPath := by
    rintro first second ⟨one, two, agrees⟩ name path value -
    exact blindPairing_moves ((isolation origin names).assignPath one name path fun _ _ => trivial)
      ((isolation origin names).assignPath two name path fun _ _ => trivial)
      (agrees.assignPath (.inl rfl) (.inr rfl) name path value)
  call := by
    rintro first second ⟨one, two, agrees⟩ frame ⟨plain, own⟩ - receiver params values -
    obtain ⟨begun₁, ended₁⟩ := (isolation origin names).call one plain (fun _ _ => trivial)
      receiver params fun _ _ => trivial
    obtain ⟨begun₂, ended₂⟩ := (isolation origin names).call two plain (fun _ _ => trivial)
      receiver params fun _ _ => trivial
    refine ⟨⟨begun₁, begun₂, agrees.beginBody one.keyed two.keyed (.inl rfl)⟩, ?_⟩
    rintro later₁ later₂ ⟨ready₁, ready₂, inside⟩ within₁ within₂ result -
    refine ⟨?_, fun _ _ => trivial⟩
    exact blindPairing_moves (ended₁ ready₁ within₁ fun _ _ _ _ => trivial).1
      (ended₂ ready₂ within₂ fun _ _ _ _ => trivial).1
      (agrees.endBody one.keyed two.keyed (.inl rfl) (one.plainNames names) (two.plainNames names)
        plain own within₁ within₂ inside result)

theorem blindness_writesFreely :
    (blindness outputs names unnamed).WritesFreely where
  allocate := by
    rintro first second ⟨one, two, agrees⟩ className
    exact ⟨blindPairing_moves ((isolation_writesFreely names).allocate one className).1
      ((isolation_writesFreely names).allocate two className).1
      (agrees.withHeap (·.allocate className)), trivial⟩
  assignAttribute := by
    rintro first second ⟨one, two, agrees⟩ handle name declares value -
    exact blindPairing_moves
      ((isolation_writesFreely names).assignAttribute one handle declares fun _ _ => trivial)
      ((isolation_writesFreely names).assignAttribute two handle declares fun _ _ => trivial)
      (agrees.assignAttribute (.inl rfl) handle name value)

end Blindness

/-- How two calls end that make no difference: with the same result, after the same output, in
states that agree on everything but the scopes other than the global one. -/
structure EndsAlike (first second : Machine) (one two : Except Fault Value × Machine) : Prop where
  result : two.1 = one.1
  output : ∃ text, one.2.output = first.output ++ text ∧ two.2.output = second.output ++ text
  agrees : one.2.state.Agrees (· = globalScope) [] two.2.state

/-- A call does not see the variables of its callers. From states that differ in scopes other than
the global one only, it ends alike or, within any number of nested steps, not at all. -/
theorem invoke_ignores_other_scopes (steps : Nat) (decl : FunctionDecl) {frame : Frame}
    (values : List Value) (receiver : Option Receiver) {first second : Machine}
    (keyed₁ : first.state.WellKeyed []) (keyed₂ : second.state.WellKeyed [])
    (names : first.state.PlainNames)
    (unnamed : first.state.functions.get? globalScope = none) (plain : Plain frame.scope)
    (own : frame.scope ≠ globalScope)
    (agrees : first.state.Agrees (· = globalScope) [] second.state) :
    Option.Rel (EndsAlike first second)
      ((Eval.invoke (Eval.exec steps) decl frame values receiver).outcome? first)
      ((Eval.invoke (Eval.exec steps) decl frame values receiver).outcome? second) := by
  have names₂ : second.state.PlainNames := by
    obtain ⟨function, className, method, member⟩ := names
    constructor <;> simpa only [agrees.functions, agrees.classes]
  have begun₁ := (Isolates.beginCall keyed₁ names plain receiver decl.params values).2
  have begun₂ := (Isolates.beginCall keyed₂ names₂ plain receiver decl.params values).2
  have ready : (blindPairing first.state (first.output, second.output)).ready
      ((first.state.beginCall frame receiver).2.bindArguments decl.params values)
      ((second.state.beginCall frame receiver).2.bindArguments decl.params values) :=
    ⟨begun₁, ⟨begun₂.functions.trans agrees.functions, begun₂.classes.trans agrees.classes,
      begun₂.keyed, begun₂.scope⟩, agrees.beginBody keyed₁ keyed₂ rfl⟩
  have written : (blindPairing first.state (first.output, second.output)).outputs first.output
      second.output := ⟨"", by simp, by simp⟩
  have runs := Coupling.exec
    (blindness_writesFreely (first.output, second.output) names unnamed) steps
  have body := Coupling.runBody runs decl values
    { first with state := (first.state.beginCall frame receiver).2 }
    { second with state := (second.state.beginCall frame receiver).2 } ready written
  rw [Eval.outcome?_invoke, Eval.outcome?_invoke]
  generalize (Eval.runBody (Eval.exec steps) decl values).outcome? _ = outcome at body ⊢
  generalize (Eval.runBody (Eval.exec steps) decl values).outcome? _ = outcome' at body ⊢
  cases body with
  | none => exact .none
  | some ends =>
    obtain ⟨⟨-, -, inside⟩, written⟩ := ends.coupled
    refine .some ⟨ends.same, written, ?_⟩
    dsimp only
    rw [ends.same]
    exact agrees.endBody keyed₁ keyed₂ rfl names names₂ plain own ends.related₁ ends.related₂
      inside _

/-- A name that is bound out of sight makes no difference. -/
theorem State.Agrees.setBinding_of_hidden {visible : String → Prop} {state : State}
    (keyed : state.WellKeyed []) {scope name : String} (plain : Plain scope)
    (unbound : state.bindingIn? scope name = none) (hidden : ¬ visible scope) (value : Value) :
    state.Agrees visible [] (state.setBinding scope name (variableKey scope name) value) := by
  have keeps := Keeps.setBinding keyed plain (.inl rfl) unbound value
  have other {scope' : String} (inSight : visible scope') (name' : String) :
      ¬ (scope' = scope ∧ name' = name) := by
    rintro ⟨rfl, -⟩
    exact hidden inSight
  refine ⟨rfl, rfl, rfl, rfl, fun inSight name' => keeps.binding (other inSight name'), ?_⟩
  rintro place (pending | ⟨scope', name', inSight, bound⟩)
  · contradiction
  · exact keeps.value (other inSight name') bound

/-- Writes and returns a variable: `function g() { echo $x; return $x; }`. -/
def peek : FunctionDecl where
  name := "g"
  params := []
  body := [.echo (.var "x"), .exit (some (.var "x"))]

/-- The function is running, and only it is declared. -/
def runningPeek : State :=
  { functions := (∅ : Table FunctionDecl).insert "g" peek, frame := { scope := "g" } }

/-- The global scope has the variable. -/
def beforePeek : State :=
  runningPeek.setBinding globalScope "x" (variableKey globalScope "x") (.int 1)

/-- The running activation has a variable of that name, too. -/
def beforePeekWithLocal : State :=
  beforePeek.setBinding "g" "x" (variableKey "g" "x") (.int 2)

/-- A call of the function writes and returns the global variable, whether or not the activation it
is called from has a variable of that name. -/
theorem invoke_ignores_other_scopes_in_peek : ∃ one two,
    (Eval.invoke (Eval.exec 3) peek { scope := "g" } [] none).outcome?
        { state := beforePeek } = some one ∧
      (Eval.invoke (Eval.exec 3) peek { scope := "g" } [] none).outcome?
        { state := beforePeekWithLocal, output := "..." } = some two ∧
      two.2.output = "...1" ∧
      EndsAlike { state := beforePeek } { state := beforePeekWithLocal, output := "..." } one two :=
    by
  have names : beforePeek.PlainNames := by
    refine ⟨fun {name decl} found => ?_, fun found => ?_, fun found => ?_, fun found => ?_⟩
    · have single : name = "g" := by
        simp only [beforePeek, State.setBinding, runningPeek, Table.get?_insert,
          Table.get?_empty] at found
        grind
      rw [single]
      decide
    all_goals cases found
  have running : runningPeek.WellKeyed [] := WellKeyed.initial.congr rfl rfl
  have keyed : beforePeek.WellKeyed [] := .setBinding running (by decide) (.inl rfl) rfl _
  have keyed' : beforePeekWithLocal.WellKeyed [] :=
    .setBinding keyed (by decide) (.inl rfl) (by rfl) _
  have agrees : beforePeek.Agrees (· = globalScope) [] beforePeekWithLocal :=
    .setBinding_of_hidden keyed (by decide) (by rfl) (by decide) _
  have alike : Option.Rel
      (EndsAlike { state := beforePeek } { state := beforePeekWithLocal, output := "..." })
      ((Eval.invoke (Eval.exec 3) peek { scope := "g" } [] none).outcome? { state := beforePeek })
      ((Eval.invoke (Eval.exec 3) peek { scope := "g" } [] none).outcome?
        { state := beforePeekWithLocal, output := "..." }) :=
    invoke_ignores_other_scopes 3 peek [] none keyed keyed' names (by rfl) (by decide) (by decide)
      agrees
  have written : ((Eval.invoke (Eval.exec 3) peek { scope := "g" } [] none).outcome?
      { state := beforePeekWithLocal, output := "..." }).map (·.2.output) = some "...1" := by rfl
  obtain ⟨two, ran, output⟩ := Option.map_eq_some_iff.1 written
  rw [ran] at alike
  cases ran' : (Eval.invoke (Eval.exec 3) peek { scope := "g" } [] none).outcome?
      { state := beforePeek } with
  | none =>
    rw [ran'] at alike
    cases alike
  | some one =>
    rw [ran'] at alike
    cases alike with
    | some ends => exact ⟨one, two, rfl, ran, output, ends⟩

end TagScript
