import Mathlib
import TagScript.Machine.Run
import TagScript.Proofs.Steadiness

/-!
# Attributes can be used by whom they are declared for

An attribute is declared for everyone, for the code of its class, or for the classes below it, of
which there are none. Code that reads or writes an attribute of a live object is held to that
(`access_obeys_attribute`), as long as no method of the same name is declared otherwise: visibility
is looked up by name, and a method comes before an attribute.

What counts is the class whose code contains the access, which is known before the object and the
name of the attribute are evaluated: running code keeps its frame, and calls give it back.
-/

namespace TagScript

open State

namespace Eval

variable (run : Node → Eval Flow)

/-- The attribute that a use of a member aims at. -/
def aim (node : Node) (member : Name) : Eval (Handle × String) := do
  let handle ← target run node fun _ => .attributeTargetNotObject
  let name ← visibleAttribute run handle member
  return (handle, name)

/-- Reads an attribute that may be used. -/
def readMember (handle : Handle) (name : String) : Eval Value := do
  let value ← examine (·.readAttribute handle name)
  dropTarget handle value
  return value

/-- Writes an attribute that may be used. -/
def storeMember (handle : Handle) (name : String) (expression : Node) : Eval Value := do
  let value ← evaluateFor run name (·.assignAttribute handle name (.int 0)) expression
  update (·.assignAttribute handle name value)
  dropTarget handle value
  return value

theorem step_memberFetch (node : Node) (member : Name) :
    step run (.memberFetch node member) = aim run node member >>= fun aimed => do
      return .normal (← readMember aimed.1 aimed.2) := by
  simp [step, fetchMember, aim, readMember]

theorem step_memberAssign (node : Node) (member : Name) (expression : Node) :
    step run (.memberAssign node member expression) = aim run node member >>= fun aimed => do
      return .normal (← storeMember run aimed.1 aimed.2 expression) := by
  simp [step, assignMember, aim, storeMember]

variable {run}

/-- Once object and name are known, the class of the object decides. -/
theorem outcome?_aim {node : Node} {member : Name} {handle : Handle} {name : String}
    {decl : ClassDecl} {machine middle inner : Machine}
    (found : (target run node fun _ => .attributeTargetNotObject).outcome? machine =
      some (.ok handle, middle))
    (named : (memberName run member).outcome? middle = some (.ok name, inner))
    (live : (inner.state.classOf? handle).bind inner.state.classes.get? = some decl) :
    (aim run node member).outcome? machine =
      some ((decl.checkVisible inner.state.frame.className name).map fun _ => (handle, name),
        inner) := by
  simp only [aim, visibleAttribute, outcome?_bind, found, Option.bind_some, named,
    outcome?_inspect, live, outcome?_examine]
  cases decl.checkVisible inner.state.frame.className name <;> rfl

end Eval

/-- Whether code of a class, or code outside any, may use an attribute that another class
declares. -/
def AttributeDecl.access (member : AttributeDecl) (className : String) (invoker : Option String) :
    Except Fault Unit :=
  if invoker = some className then .ok ()
  else
    match member.visibility with
    | .anyone => .ok ()
    | .owner => .error (.memberNotVisible member.name)
    | .family => .error (.protectedAccess (invoker.getD globalScope) className member.name)

namespace ClassDecl

variable {decl : ClassDecl} {member : AttributeDecl}

/-- The visibility of a name is that of the attribute, unless a method says otherwise. -/
theorem visibility?_of_once
    (once : (decl.attributes.filter fun other => other.name = member.name) = [member]) :
    decl.visibility? member.name =
      some ((decl.method? member.name).elim member.visibility MethodDecl.visibility) := by
  have found : decl.attribute? member.name = some member := by
    rw [attribute?, ← List.head?_filter, once]
    rfl
  rw [visibility?, found]
  cases decl.method? member.name <;> rfl

/-- Code of the class itself does not depend on visibility. -/
theorem checkVisible_eq_access
    (once : (decl.attributes.filter fun other => other.name = member.name) = [member])
    {invoker : Option String}
    (undisputed : invoker = some decl.name ∨ ∀ method, decl.method? member.name = some method →
      method.visibility = member.visibility) :
    decl.checkVisible invoker member.name = member.access decl.name invoker := by
  simp only [checkVisible, isVisible, visibility?_of_once once, AttributeDecl.access]
  obtain own | agree := undisputed
  · simp only [own, if_true]
    cases (decl.method? member.name).elim member.visibility MethodDecl.visibility <;> rfl
  · have same : (decl.method? member.name).elim member.visibility MethodDecl.visibility =
        member.visibility := by
      cases found : decl.method? member.name with
      | none => rfl
      | some method => exact agree method found
    rw [same]
    by_cases own : invoker = some decl.name <;> cases member.visibility <;> simp [own] <;> rfl

end ClassDecl

open Eval

/-- The object and the name that a use of a member depends on are evaluated in the frame that the
use stands in, and under the same declarations. -/
theorem steady_before_access {steps : Nat} {node : Node} {called : Name} {handle : Handle}
    {name : String} {machine middle inner : Machine}
    (found : (target (exec steps) node fun _ => .attributeTargetNotObject).outcome? machine =
      some (.ok handle, middle))
    (named : (memberName (exec steps) called).outcome? middle = some (.ok name, inner)) :
    inner.state.frame = machine.state.frame ∧ inner.state.classes = machine.state.classes := by
  have runs := Discipline.runs_iff.2 (Discipline.exec
    (steadiness_writesFreely machine.state.functions machine.state.classes) steps)
  obtain ⟨⟨ready, frame⟩, -⟩ := Discipline.allows_iff.1 (Coupling.target runs node _) machine _ _
    ⟨rfl, rfl⟩ (fun _ => List.not_mem_nil.elim) found
  obtain ⟨⟨ready', frame'⟩, -⟩ := Discipline.allows_iff.1 (Coupling.memberName runs called) middle
    _ _ ready (fun _ => List.not_mem_nil.elim) named
  exact ⟨frame'.trans frame, ready'.2⟩

/-- Reading and writing an attribute of a live object are refused or go on as the attribute is
declared, given the class whose code is running. Outside of the class of the object no method of the
same name may be declared otherwise. -/
theorem access_obeys_attribute {decl : ClassDecl} {member : AttributeDecl}
    (once : (decl.attributes.filter fun other => other.name = member.name) = [member])
    {machine middle inner : Machine}
    (declared : machine.state.classes.get? decl.name = some decl)
    (undisputed : machine.state.frame.className = some decl.name ∨
      ∀ method, decl.method? member.name = some method → method.visibility = member.visibility)
    (steps : Nat) (node : Node) (called : Name) (expression : Node) {handle : Handle}
    (found : (target (exec steps) node fun _ => .attributeTargetNotObject).outcome? machine =
      some (.ok handle, middle))
    (named : (memberName (exec steps) called).outcome? middle = some (.ok member.name, inner))
    (live : inner.state.classOf? handle = some decl.name) :
    match member.access decl.name machine.state.frame.className with
    | .error fault =>
      (exec (steps + 1) (.memberFetch node called)).outcome? machine =
          some (.error fault, inner) ∧
        (exec (steps + 1) (.memberAssign node called expression)).outcome? machine =
          some (.error fault, inner)
    | .ok () =>
      (exec (steps + 1) (.memberFetch node called)).outcome? machine =
          (do return Flow.normal (← readMember handle member.name)).outcome? inner ∧
        (exec (steps + 1) (.memberAssign node called expression)).outcome? machine =
          (do
            return Flow.normal
              (← storeMember (exec steps) handle member.name expression)).outcome? inner := by
  obtain ⟨frame, classes⟩ := steady_before_access found named
  have class? : (inner.state.classOf? handle).bind inner.state.classes.get? = some decl := by
    rw [live, classes, Option.bind_some, declared]
  have aimed := outcome?_aim found named class?
  rw [frame, ClassDecl.checkVisible_eq_access once undisputed] at aimed
  simp only [exec, step_memberFetch, step_memberAssign, outcome?_bind, aimed, Option.bind_some]
  cases member.access decl.name machine.state.frame.className with
  | error fault => exact ⟨rfl, rfl⟩
  | ok value => exact ⟨rfl, rfl⟩

/-- An attribute for its own class. -/
def gold : AttributeDecl := ⟨.owner, "gold", none⟩

/-- A class that has the attribute, and a method of the same name and visibility. -/
def vault : ClassDecl where
  visibility := .anyone
  name := "Vault"
  attributes := [gold]
  methods := [⟨.owner, ⟨"gold", [], []⟩⟩]

/-- An object of the class in a variable. -/
def besideVault : Machine where
  state := { classes := (∅ : Table ClassDecl).insert "Vault" vault,
             heap := (∅ : Heap).allocate "Vault" : State }.assign "v" (.object 0) none

/-- From outside of the class, neither reading nor writing the attribute is possible. -/
theorem access_obeys_attribute_of_vault :
    (exec 2 (.memberFetch (.var "v") (.written "gold"))).outcome? besideVault =
        some (.error (.memberNotVisible "gold"), besideVault) ∧
      (exec 2 (.memberAssign (.var "v") (.written "gold") (.integer 2))).outcome? besideVault =
        some (.error (.memberNotVisible "gold"), besideVault) := by
  have once : (vault.attributes.filter fun other => other.name = gold.name) = [gold] := rfl
  have found : (target (exec 1) (.var "v") fun _ => .attributeTargetNotObject).outcome?
      besideVault = some (.ok 0, besideVault) := rfl
  exact access_obeys_attribute once rfl (.inr (by decide)) 1 (.var "v") (.written "gold")
    (.integer 2) found rfl rfl

/-- Reads a private attribute from outside of its class, which has a public method of the same
name. -/
def Script.exposing : String :=
  "<? class C \x7b private $a = 1; public function a() \x7b\x7d \x7d $o = new C(); echo $o->a;"

/-- Reads a public attribute of a class that has a private method of the same name. -/
def Script.concealing : String :=
  "<? class C \x7b public $a = 1; private function a() \x7b\x7d \x7d $o = new C(); echo $o->a;"

/-- A method of the same name decides about an attribute, both ways. -/
theorem access_obeys_method :
    ((Machine.runSource? {} Script.exposing).map fun ran => (ran.1, ran.2.output)) =
        some (.ok (), "1") ∧
      ((Machine.runSource? {} Script.concealing).map fun ran => (ran.1, ran.2.output)) =
        some (.error (.run (.memberNotVisible "a")), "") := by
  constructor
  · cbv
  · cbv

end TagScript
