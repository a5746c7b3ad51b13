import TagScript.Proofs.Constants
import TagScript.Proofs.Endings
import TagScript.Proofs.Soundness

/-!
# Making an object is all or nothing

The initial values of attributes are checked before an object is made, but they are evaluated only
afterwards, one after the other, while the object already exists. So no object is ever left half
made only because the check is strong enough: whatever passes it has a value, on every machine
(`Node.exists_denotes`). Then every attribute is bound, the last of several declarations of one name
counts, and nothing else changes (`instantiate_all_or_nothing`).
-/

namespace TagScript

open State Eval

/-! ## Values of constant expressions -/

/-- On every machine the node evaluates to this scalar and does nothing else. -/
def Node.Denotes (node : Node) (content : Scalar) : Prop :=
  ∀ machine, Ends (fun run => run node) machine (.ok (.normal (.scalar content)), machine)

namespace Node.Denotes

variable {node left right : Node} {content a b : Scalar}

/-- A node has at most one value. -/
theorem unique (one : node.Denotes a) (two : node.Denotes b) : a = b := by
  have same := (one {}).unique (fun _ _ runs => runs node) (two {})
  cases same
  rfl

theorem evaluate (denotes : node.Denotes content) (machine : Machine) :
    Ends (fun run => Eval.evaluate run node) machine (.ok (.scalar content), machine) :=
  (denotes machine).andThen (fun _ _ runs => runs node) rfl

/-- A scalar that is used up leaves nothing to reclaim. -/
theorem consume (denotes : node.Denotes content) (machine : Machine) :
    Ends (fun run => Eval.consume run node) machine (.ok (.scalar content), machine) :=
  (denotes.evaluate machine).andThen (fun _ _ runs => .evaluate runs node) rfl

theorem operands (first : left.Denotes a) (second : right.Denotes b) (machine : Machine) :
    Ends (fun run => Eval.operands run left right) machine
      (.ok (.scalar a, .scalar b), machine) := by
  apply (first.consume machine).bind (fun _ _ runs => .consume runs left)
  · exact fun _ _ _ runs => (Precedes.consume runs right).bind fun _ => .refl _
  · exact (second.consume machine).andThen (fun _ _ runs => .consume runs right) rfl

/-- The value of a node whose step goes on from the values of two operands. -/
theorem of_operands (first : left.Denotes a) (second : right.Denotes b)
    {next : Value × Value → Eval Flow}
    (steps : ∀ run, Eval.step run node = Eval.operands run left right >>= next)
    (ended : next (.scalar a, .scalar b) = return .normal (.scalar content)) :
    node.Denotes content := by
  intro machine
  apply Ends.of_step
  simp only [steps]
  apply (first.operands second machine).andThen fun _ _ runs => .operands runs left right
  rw [ended, outcome?_pure]

end Node.Denotes

/-- Whatever passes for a constant expression has a value. The induction is on the expression: the
operands are scalars, and operators do not fail on scalars. -/
theorem Node.exists_denotes {node : Node} (constant : node.isConstant) :
    ∃ content, node.Denotes content := by
  fun_induction Node.isConstant node with
  | case1 content => exact ⟨.text content, fun _ => .of_step (.of_outcome rfl)⟩
  | case2 n => exact ⟨.int n, fun _ => .of_step (.of_outcome rfl)⟩
  | case3 x => exact ⟨.float x, fun _ => .of_step (.of_outcome rfl)⟩
  | case4 op left right ih ih' =>
    rcases Bool.and_eq_true_iff.1 constant with ⟨constant, constant'⟩
    rcases ih constant with ⟨a, first⟩
    rcases ih' constant' with ⟨b, second⟩
    rcases op.apply_scalar a b with ⟨_, applied, c, rfl⟩
    refine ⟨c, first.of_operands second (fun _ => rfl) ?_⟩
    simp only [applied]
    rfl
  | case5 op left right ih ih' =>
    rcases Bool.and_eq_true_iff.1 constant with ⟨constant, constant'⟩
    rcases ih constant with ⟨a, first⟩
    rcases ih' constant' with ⟨b, second⟩
    rcases op.apply_scalar a b with ⟨_, applied, c, rfl⟩
    refine ⟨c, first.of_operands second (fun _ => rfl) ?_⟩
    simp only [applied]
    rfl
  | case6 left right ih ih' =>
    rcases Bool.and_eq_true_iff.1 constant with ⟨constant, constant'⟩
    rcases ih constant with ⟨a, first⟩
    rcases ih' constant' with ⟨b, second⟩
    exact ⟨_, first.of_operands second (fun _ => rfl) rfl⟩
  | case7 operand ih =>
    rcases ih constant with ⟨a, denotes⟩
    rcases Value.negate_scalar a with ⟨_, applied, c, rfl⟩
    refine ⟨c, fun machine => .of_step ?_⟩
    apply (denotes.consume machine).andThen fun _ _ runs => .consume runs operand
    rw [applied]
    rfl
  | case8 => contradiction

/-! ## Attributes -/

/-- What an attribute starts with: the value of its expression, or the empty text without one. -/
inductive AttributeDecl.Starts : AttributeDecl → Scalar → Prop
  | unset {member : AttributeDecl} (missing : member.init = none) : Starts member (.text "")
  | set {member : AttributeDecl} {node : Node} {content : Scalar} (given : member.init = some node)
    (denotes : node.Denotes content) : Starts member content

/-- The last declaration of a name. -/
def AttributeDecl.last? (members : List AttributeDecl) (name : String) : Option AttributeDecl :=
  members.reverse.find? fun member => member.name = name

/-- All initial values are constant expressions. -/
def AttributeDecl.AreConstant (members : List AttributeDecl) : Prop :=
  ∀ member ∈ members, ∀ node, member.init = some node → node.isConstant

namespace AttributeDecl

variable {member : AttributeDecl} {members : List AttributeDecl} {name : String}

theorem exists_starts (constant : ∀ node, member.init = some node → node.isConstant) :
    ∃ content, member.Starts content := by
  cases given : member.init with
  | none => exact ⟨_, .unset given⟩
  | some node =>
    rcases Node.exists_denotes (constant node given) with ⟨content, denotes⟩
    exact ⟨content, .set given denotes⟩

theorem Starts.unique {a b : Scalar} (one : member.Starts a) (two : member.Starts b) : a = b := by
  cases one with
  | unset missing =>
    cases two with
    | unset => rfl
    | set given _ => cases missing.symm.trans given
  | set given denotes =>
    cases two with
    | unset missing => cases missing.symm.trans given
    | set given' denotes' =>
      cases given.symm.trans given'
      exact denotes.unique denotes'

theorem Starts.ends {content : Scalar} (starts : member.Starts content) (machine : Machine) :
    Ends (fun run => initialValue run member) machine (.ok (.scalar content), machine) := by
  unfold initialValue
  cases starts with
  | unset missing =>
    simp only [missing]
    exact .of_outcome rfl
  | set given denotes =>
    simp only [given]
    exact denotes.evaluate machine

/-- A later declaration counts before this one. -/
theorem last?_cons : last? (member :: members) name =
    (last? members name).or (if member.name = name then some member else none) := by
  unfold last?
  rw [List.reverse_cons, List.find?_append]
  by_cases named : member.name = name <;> simp [named]

theorem isSome_last? (inside : member ∈ members) : (last? members member.name).isSome := by
  unfold last?
  rw [List.find?_isSome]
  exact ⟨member, List.mem_reverse.2 inside, decide_eq_true rfl⟩

/-- The check that is made before an object is. -/
theorem areConstant_iff : AreConstant members ↔
    (members.find? fun member => member.init.any fun node => !node.isConstant) = none := by
  rw [List.find?_eq_none]
  constructor
  · intro constant member inside
    cases given : member.init with
    | none => simp
    | some node => simp [constant member inside node given]
  · intro passes member inside node given
    simpa [given] using passes member inside

end AttributeDecl

namespace State

variable {state : State} {scope name key : String}

theorem fst_take (state : State) (scope name : String) :
    (state.take scope name).1 = state.valueIn? scope name := by
  unfold take valueIn?
  cases state.bindingIn? scope name <;> rfl

/-- A variable that holds no object is given a scalar without any object being let go of. -/
theorem bind_scalar (free : ∀ value ∈ state.valueIn? scope name, value.handles = [])
    (key : String) (content : Scalar) : state.bind scope name key (.scalar content) =
      (state.take scope name).2.setBinding scope name key (.scalar content) := by
  have nothing : (state.take scope name).1.toList.flatMap Value.handles = [] := by
    rw [fst_take, List.flatMap_eq_nil_iff]
    exact fun value held => free value (Option.mem_toList.1 held)
  show (state.unlink scope name).setBinding scope name key (.scalar content) = _
  rw [unlink_eq, nothing, release_nil]

theorem Keeps.bind_scalar (keyed : state.WellKeyed []) (plain : Plain scope)
    (isKey : IsKey scope name key) (free : ∀ value ∈ state.valueIn? scope name, value.handles = [])
    (content : Scalar) :
    Keeps (fun scope' name' => scope' = scope ∧ name' = name) [] state
      (state.bind scope name key (.scalar content)) := by
  have taken := Keeps.take keyed scope name
  have unbound : (state.take scope name).2.bindingIn? scope name = none := by
    rw [bindingIn?_take, if_pos ⟨rfl, rfl⟩]
  rw [State.bind_scalar free]
  exact taken.trans (.setBinding taken.keyed plain isKey unbound _)

/-- The slots that an object has for attributes. -/
def slotsOf (handle : Handle) (members : List AttributeDecl) (scope name : String) : Prop :=
  scope = globalScope ∧ ∃ member ∈ members, name = attributeSlot handle member.name

/-- The attributes of an object have been set, each to what its last declaration says, and nothing
else has been touched. -/
structure Furnishes (handle : Handle) (members : List AttributeDecl) (before after : State) :
    Prop where
  keeps : Keeps (slotsOf handle members) [] before after
  heap : after.heap = before.heap
  frame : after.frame = before.frame
  holds : ∀ {name member}, AttributeDecl.last? members name = some member →
    ∃ content, member.Starts content ∧
      after.valueIn? globalScope (attributeSlot handle name) = some (.scalar content)

section Furnishing

variable {handle : Handle} {member : AttributeDecl} {members : List AttributeDecl}
  {content : Scalar}

/-- Setting one attribute. -/
theorem Furnishes.assignAttribute (keyed : state.WellKeyed []) (plain : Plain member.name)
    (free : ∀ value ∈ state.valueIn? globalScope (attributeSlot handle member.name),
      value.handles = [])
    (starts : member.Starts content) :
    Furnishes handle [member] state
      (state.assignAttribute handle member.name (.scalar content)) where
  keeps := by
    have slot : IsSlot (attributeSlot handle member.name) := ⟨handle, _, plain, rfl⟩
    apply (Keeps.bind_scalar keyed (by decide) (.inr ⟨rfl, slot, rfl⟩) free content).mono
    rintro _ _ ⟨rfl, rfl⟩
    exact ⟨rfl, member, List.mem_cons_self, rfl⟩
  heap := by
    unfold State.assignAttribute
    rw [State.bind_scalar free]
    exact heap_take state _ _
  frame := frame_assignAttribute state handle member.name (.scalar content)
  holds := by
    intro name other declared
    have same : other = member ∧ member.name = name := by
      rw [AttributeDecl.last?_cons] at declared
      split at declared
      · next named => exact ⟨(Option.some.inj declared).symm, named⟩
      · contradiction
    rcases same with ⟨rfl, rfl⟩
    exact ⟨content, starts, valueIn?_bind state _ _ _ _⟩

/-- Setting one attribute and then the others. What was declared first stays if it is not declared
again. -/
theorem Furnishes.cons {first second third : State} (one : Furnishes handle [member] first second)
    (others : Furnishes handle members second third) :
    Furnishes handle (member :: members) first third where
  keeps := by
    apply (one.keeps.mono _).trans (others.keeps.mono _)
    · rintro _ _ ⟨rfl, _, here, rfl⟩
      obtain rfl := List.mem_singleton.1 here
      exact ⟨rfl, _, List.mem_cons_self, rfl⟩
    · rintro _ _ ⟨rfl, other, inside, rfl⟩
      exact ⟨rfl, other, List.mem_cons_of_mem _ inside, rfl⟩
  heap := others.heap.trans one.heap
  frame := others.frame.trans one.frame
  holds := by
    intro name last declared
    rw [AttributeDecl.last?_cons] at declared
    cases again : AttributeDecl.last? members name with
    | some other =>
      rw [again] at declared
      cases declared
      exact others.holds again
    | none =>
      rw [again] at declared
      have here : AttributeDecl.last? [member] name = some last := by
        rw [AttributeDecl.last?_cons]
        exact declared
      rcases one.holds here with ⟨content, starts, held⟩
      refine ⟨content, starts, ?_⟩
      rw [others.keeps.valueIn?, held]
      rintro ⟨-, other, inside, same⟩
      have found := AttributeDecl.isSome_last? inside
      rw [← (attributeSlot_inj same).2, again] at found
      contradiction

end Furnishing

end State

/-- The induction is on the attributes. A slot that is set again holds a scalar by then, so setting
it lets go of nothing. -/
theorem Eval.exists_ends_setAttributes {handle : Handle} {members : List AttributeDecl}
    (constant : AttributeDecl.AreConstant members) (plain : ∀ member ∈ members, Plain member.name)
    (machine : Machine) (keyed : machine.state.WellKeyed [])
    (free : ∀ member ∈ members, ∀ value ∈ machine.state.valueIn? globalScope
      (attributeSlot handle member.name), value.handles = []) :
    ∃ later, Ends (fun run => setAttributes run handle members) machine
        (.ok (), { machine with state := later }) ∧
      Furnishes handle members machine.state later := by
  induction members generalizing machine with
  | nil =>
    refine ⟨machine.state, .of_outcome rfl, .refl keyed, rfl, rfl, ?_⟩
    intro name member declared
    contradiction
  | cons member members ih =>
    rcases List.forall_mem_cons.1 constant with ⟨constant, constants⟩
    rcases List.forall_mem_cons.1 plain with ⟨plain, plains⟩
    rcases List.forall_mem_cons.1 free with ⟨free, frees⟩
    rcases AttributeDecl.exists_starts constant with ⟨content, starts⟩
    have one := Furnishes.assignAttribute keyed plain free starts
    have frees' : ∀ other ∈ members, ∀ value ∈
        (machine.state.assignAttribute handle member.name (.scalar content)).valueIn? globalScope
          (attributeSlot handle other.name), value.handles = [] := by
      intro other inside value held
      by_cases same : other.name = member.name
      · rw [same, State.assignAttribute, valueIn?_bind] at held
        cases held
        rfl
      · rw [one.keeps.valueIn?] at held
        · exact frees other inside value held
        · rintro ⟨-, _, here, slots⟩
          obtain rfl := List.mem_singleton.1 here
          exact same (attributeSlot_inj slots).2
    rcases ih constants plains
      ⟨machine.state.assignAttribute handle member.name (.scalar content), machine.output⟩
      one.keeps.keyed frees' with ⟨later, ends, others⟩
    refine ⟨later, ?_, one.cons others⟩
    have set : Ends (fun _ => update (·.assignAttribute handle member.name (.scalar content)))
        machine (.ok (), { machine with
          state := machine.state.assignAttribute handle member.name (.scalar content) }) :=
      .of_outcome rfl
    apply (starts.ends machine).bind (fun _ _ runs => .initialValue runs member)
    · exact fun value _ _ runs => .after _ fun _ => .setAttributes runs handle members
    · exact set.bind (.const _) (fun _ _ _ runs => .setAttributes runs handle members) ends

/-- There is one object more, which nothing refers to. Its attributes are bound, each to what its
last declaration says. No other object and no other variable has changed. -/
structure State.Gains (decl : ClassDecl) (before after : State) : Prop where
  absent : before.heap.get? before.heap.next = none
  record : ∀ handle, after.heap.get? handle =
    if handle = before.heap.next then some ⟨before.heap.next, decl.name, 0⟩
    else before.heap.get? handle
  next : after.heap.next = before.heap.next + 1
  keeps : Keeps (slotsOf before.heap.next decl.attributes) [] before after
  frame : after.frame = before.frame
  holds : ∀ {name member}, AttributeDecl.last? decl.attributes name = some member →
    ∃ content, member.Starts content ∧
      after.valueIn? globalScope (attributeSlot before.heap.next name) = some (.scalar content)

theorem State.Gains.of_furnishes {decl : ClassDecl} {before after : State}
    (keyed : before.WellKeyed [])
    (furnishes : Furnishes before.heap.next decl.attributes
      { before with heap := before.heap.allocate decl.name } after) :
    before.Gains decl after where
  absent := by simp [Heap.get?, Heap.next]
  record handle := by
    rw [furnishes.heap]
    exact Heap.get?_allocate _ _ handle
  next := by
    rw [furnishes.heap]
    exact Heap.next_allocate _ _
  keeps := (Keeps.heap keyed _).trans furnishes.keeps
  frame := furnishes.frame
  holds := furnishes.holds

namespace Eval

variable {decl : ClassDecl} {machine : Machine}

theorem grows_instantiate (decl : ClassDecl) : Grows fun run => instantiate run decl :=
  fun _ _ runs => .instantiate runs decl

/-- Nothing has happened when the check fails. -/
theorem exists_ends_instantiate_of_not (other : ¬ AttributeDecl.AreConstant decl.attributes)
    (machine : Machine) :
    ∃ member ∈ decl.attributes, Ends (fun run => instantiate run decl) machine
      (.error (.initializerNotConstant member.name decl.name), machine) := by
  rw [AttributeDecl.areConstant_iff, ← Ne, Option.ne_none_iff_exists'] at other
  rcases other with ⟨member, found⟩
  refine ⟨member, List.mem_of_find?_eq_some found, 0, ?_⟩
  unfold instantiate
  simp only [found]
  rfl

/-- When the check passes, everything that is left to do succeeds. -/
theorem exists_ends_instantiate (constant : AttributeDecl.AreConstant decl.attributes)
    (plain : ∀ member ∈ decl.attributes, Plain member.name) (keyed : machine.state.WellKeyed [])
    (fresh : ∀ member ∈ decl.attributes, machine.state.bindingIn? globalScope
      (attributeSlot machine.state.heap.next member.name) = none) :
    ∃ later, Ends (fun run => instantiate run decl) machine
        (.ok machine.state.heap.next, { machine with state := later }) ∧
      machine.state.Gains decl later := by
  have free : ∀ member ∈ decl.attributes, ∀ value ∈ machine.state.valueIn? globalScope
      (attributeSlot machine.state.heap.next member.name), value.handles = [] := by
    intro member inside value held
    rw [valueIn?, fresh member inside] at held
    contradiction
  rcases exists_ends_setAttributes constant plain
    ⟨{ machine.state with heap := machine.state.heap.allocate decl.name }, machine.output⟩
    (keyed.congr rfl rfl) free with ⟨later, ends, furnishes⟩
  refine ⟨later, ?_, .of_furnishes keyed furnishes⟩
  have made : Ends (fun _ => updateWith fun state =>
      (state.heap.next, { state with heap := state.heap.allocate decl.name })) machine
        (.ok machine.state.heap.next, ⟨{ machine.state with
          heap := machine.state.heap.allocate decl.name }, machine.output⟩) := .of_outcome rfl
  unfold instantiate
  simp only [AttributeDecl.areConstant_iff.1 constant]
  apply made.bind (.const _)
  · exact fun handle _ _ runs =>
      (Precedes.setAttributes runs handle decl.attributes).bind fun _ => .refl _
  · exact ends.andThen (fun _ _ runs => .setAttributes runs _ decl.attributes) rfl

end Eval

/-- Making an object of a class fails exactly if some initial value is no constant expression, and
then nothing has changed. Otherwise it succeeds, because a constant expression has a value on every
machine, and there is one object more, whose attributes are set and which nothing refers to; nothing
else has changed. -/
theorem instantiate_all_or_nothing {decl : ClassDecl}
    (plain : ∀ member ∈ decl.attributes, Plain member.name) {machine : Machine}
    (keyed : machine.state.WellKeyed [])
    (fresh : ∀ member ∈ decl.attributes, machine.state.bindingIn? globalScope
      (attributeSlot machine.state.heap.next member.name) = none) :
    (∀ node : Node, node.isConstant → ∃ content, node.Denotes content) ∧
    ((∃ fault later, Ends (fun run => instantiate run decl) machine (.error fault, later)) ↔
      ¬ AttributeDecl.AreConstant decl.attributes) ∧
    (∀ fault later, Ends (fun run => instantiate run decl) machine (.error fault, later) →
      later = machine ∧
        ∃ member ∈ decl.attributes, fault = .initializerNotConstant member.name decl.name) ∧
    (AttributeDecl.AreConstant decl.attributes →
      ∃ later, Ends (fun run => instantiate run decl) machine
          (.ok machine.state.heap.next, { machine with state := later }) ∧
        machine.state.Gains decl later) := by
  have failed {fault : Fault} {later : Machine}
      (ends : Ends (fun run => instantiate run decl) machine (.error fault, later)) :
      ¬ AttributeDecl.AreConstant decl.attributes := by
    intro constant
    rcases exists_ends_instantiate constant plain keyed fresh with ⟨state, succeeds, -⟩
    cases ends.unique (grows_instantiate decl) succeeds
  refine ⟨fun _ => Node.exists_denotes, ⟨?_, ?_⟩, ?_, ?_⟩
  · rintro ⟨fault, later, ends⟩
    exact failed ends
  · intro other
    rcases exists_ends_instantiate_of_not other machine with ⟨member, -, ends⟩
    exact ⟨_, _, ends⟩
  · intro fault later ends
    rcases exists_ends_instantiate_of_not (failed ends) machine with ⟨member, inside, ends'⟩
    cases ends.unique (grows_instantiate decl) ends'
    exact ⟨rfl, member, inside, rfl⟩
  · intro constant
    exact exists_ends_instantiate constant plain keyed fresh

/-- A class that declares an attribute twice, and one without an initial value:
`class D { public $a = 1; public $b; public $a = 'x' . 'y'; }`. -/
def ClassDecl.doubled : ClassDecl where
  visibility := .anyone
  name := "D"
  attributes :=
    [⟨.anyone, "a", some (.integer 1)⟩, ⟨.anyone, "b", none⟩,
      ⟨.anyone, "a", some (.concat (.text "x") (.text "y"))⟩]
  methods := []

/-- An object of that class is made where a variable holds another one. -/
theorem instantiate_all_or_nothing_of_holding :
    ∃ later, Ends (fun run => instantiate run .doubled) { state := State.holding }
        (.ok 1, { state := later }) ∧
      later.heap.get? 1 = some ⟨1, "D", 0⟩ ∧ later.heap.get? 0 = some ⟨0, "C", 1⟩ ∧
      later.valueIn? globalScope "1::a" = some (.text "xy") ∧
      later.valueIn? globalScope "1::b" = some .empty ∧
      later.valueIn? globalScope "o" = some (.object 0) := by
  have next : State.holding.heap.next = 1 := by cbv
  have unbound : State.holding.bindingIn? globalScope "1::a" = none ∧
      State.holding.bindingIn? globalScope "1::b" = none := by
    constructor <;> cbv
  have fresh : ∀ member ∈ ClassDecl.doubled.attributes, State.holding.bindingIn? globalScope
      (attributeSlot State.holding.heap.next member.name) = none := by
    rw [next]
    exact List.forall_mem_cons.2 ⟨unbound.1, List.forall_mem_cons.2 ⟨unbound.2,
      List.forall_mem_singleton.2 unbound.1⟩⟩
  have constant : AttributeDecl.AreConstant ClassDecl.doubled.attributes :=
    AttributeDecl.areConstant_iff.2 rfl
  have law := @instantiate_all_or_nothing .doubled (by decide) ⟨State.holding, ""⟩
    State.sound_holding.keyed fresh
  rcases law.2.2.2 constant with ⟨later, ends, gains⟩
  rcases gains with ⟨-, record, -, keeps, -, holds⟩
  simp only [next] at ends record keeps holds
  refine ⟨later, ends, (record 1).trans rfl, (record 0).trans (by cbv), ?_, ?_, ?_⟩
  · have value : (Node.concat (.text "x") (.text "y")).Denotes (.text "xy") := fun _ => ⟨2, rfl⟩
    rcases @holds "a" _ rfl with ⟨content, starts, held⟩
    rwa [starts.unique (.set rfl value)] at held
  · rcases @holds "b" _ rfl with ⟨content, starts, held⟩
    rwa [starts.unique (.unset rfl)] at held
  · rw [keeps.valueIn?]
    · exact valueIn?_bind State.newborn globalScope "o" _ _
    · rintro ⟨-, member, -, same⟩
      have colon : ':' ∈ "o".toList := by simp [same, toList_attributeSlot]
      exact absurd colon (by decide)

end TagScript
