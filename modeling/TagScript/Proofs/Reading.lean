import Mathlib.Logic.Function.Iterate
import TagScript.Machine.Run
import TagScript.Proofs.Coupling
import TagScript.Proofs.Soundness

/-!
# Reading has no effect

Expressions that read variables, cells and attributes, and apply operators to what they read, leave
the whole machine as it was, whether they succeed or fail (`exec_reading`). That takes an argument,
because operands are discarded after use, and an attribute is read while the object that it belongs
to may go. But everything that a read can find is stored somewhere or is the receiver. If all such
objects have a reference, then none of them goes, and what is counted for the time of a read is
given back at its end.
-/

namespace TagScript

/-- Expressions made of literals, variables, cells, attributes and operators. -/
inductive Node.IsReading : Node → Prop
  | var (name : String) : Node.IsReading (.var name)
  | text (content : String) : Node.IsReading (.text content)
  | integer (n : Int64) : Node.IsReading (.integer n)
  | float (x : Float) : Node.IsReading (.float x)
  | arrayFetch (array : String) {index : Index} (keys : ∀ key ∈ index.keys, key.IsReading) :
    Node.IsReading (.arrayFetch array index)
  | memberFetch {target : Node} {member : Name} (object : target.IsReading)
    (name : ∀ node, member = .computed node → node.IsReading) :
    Node.IsReading (.memberFetch target member)
  | compare (op : Comparison) {left right : Node} (first : left.IsReading)
    (second : right.IsReading) : Node.IsReading (.compare op left right)
  | arithmetic (op : Arithmetic) {left right : Node} (first : left.IsReading)
    (second : right.IsReading) : Node.IsReading (.arithmetic op left right)
  | negate {operand : Node} (part : operand.IsReading) : Node.IsReading (.negate operand)
  | concat {left right : Node} (first : left.IsReading) (second : right.IsReading) :
    Node.IsReading (.concat left right)

theorem Index.sizeOf_lt_of_mem_keys (array : String) {index : Index} {key : Node}
    (inside : key ∈ index.keys) : sizeOf key < sizeOf (Node.arrayFetch array index) := by
  cases index with
  | key node =>
    obtain rfl := List.mem_singleton.1 inside
    simp +arith
  | path nodes =>
    have smaller : sizeOf key < sizeOf nodes := List.sizeOf_lt_of_mem inside
    simp +arith
    omega

namespace Heap

/-- An object is changed as often as its handle occurs. -/
theorem get?_modifyAll (heap : Heap) (handles : List Handle) (change : Instance → Instance)
    (other : Handle) :
    (handles.foldl (fun heap handle => heap.modify handle change) heap).get? other =
      (heap.get? other).map change^[handles.count other] := by
  induction handles generalizing heap with
  | nil => exact Option.map_id'.symm
  | cons handle handles ih =>
    rw [List.foldl_cons, ih, get?_modify]
    by_cases here : handle = other
    · rw [if_pos here, Option.map_map, here, List.count_cons_self, Function.iterate_succ]
    · rw [if_neg here, List.count_cons_of_ne here]

/-- References that are counted and given back leave the heap as it was. -/
theorem decrementAll_retainAll (heap : Heap) (handles : List Handle) :
    (heap.retainAll handles).decrementAll handles = heap := by
  have inverse : Function.LeftInverse
      (fun object : Instance => { object with references := object.references - 1 })
      (fun object : Instance => { object with references := object.references + 1 }) :=
    fun _ => rfl
  apply ext_get?
  · rw [next_decrementAll, next_retainAll]
  · intro handle
    have lowered := (heap.retainAll handles).get?_modifyAll handles
      (fun object => { object with references := object.references - 1 }) handle
    have raised := heap.get?_modifyAll handles
      (fun object => { object with references := object.references + 1 }) handle
    refine lowered.trans ((congrArg (Option.map _) raised).trans ?_)
    rw [Option.map_map, (inverse.iterate _).id, Option.map_id]
    rfl

end Heap

namespace State

variable {state : State}

/-- Every object that code can come by is gone or has a reference. -/
def Anchored (state : State) : Prop :=
  ∀ handle, state.Reaches handle → state.heap.references? handle ≠ some 0

theorem discardHandle_of_references? {handle : Handle}
    (referenced : state.heap.references? handle ≠ some 0) :
    state.discardHandle handle = state := by
  rcases state.discardHandle_eq handle with ⟨-, same⟩ | ⟨unreferenced, -⟩
  · exact same
  · exact absurd unreferenced referenced

/-- Discarding a value leaves what has a reference. -/
theorem discard_of_references? {value : Value}
    (referenced : ∀ handle ∈ value.handles, state.heap.references? handle ≠ some 0) :
    state.discard value = state := by
  unfold discard
  generalize value.handles = handles at referenced
  induction handles with
  | nil => rfl
  | cons handle handles ih =>
    rcases List.forall_mem_cons.1 referenced with ⟨first, rest⟩
    rw [List.foldl_cons, discardHandle_of_references? first]
    exact ih rest

/-- Dropping the target of a read leaves one that has a reference. -/
theorem dropTarget_of_references? {handle : Handle}
    (referenced : state.heap.references? handle ≠ some 0) (value : Value) :
    ((state.retain value).discardHandle handle).disown value = state := by
  have retained : (state.retain value).heap.references? handle ≠ some 0 := by
    show (state.heap.retainAll value.handles).references? handle ≠ some 0
    rw [Heap.references?_retainAll]
    cases counted : state.heap.references? handle with
    | none => exact Option.some_ne_none 0 |>.symm
    | some n =>
      rw [counted] at referenced
      intro none
      exact referenced (congrArg some (Nat.eq_zero_of_add_eq_zero_right (Option.some.inj none)))
  rw [discardHandle_of_references? retained]
  show { state with heap := (state.heap.retainAll value.handles).decrementAll value.handles } = state
  rw [Heap.decrementAll_retainAll]

end State

namespace Eval

/-- The computation leaves the machine as it is and yields results as described. It comes to an end
if that is asked for. -/
structure Looks {α : Type} (ends : Prop) (machine : Machine) (x : Eval α) (yields : α → Prop) :
    Prop where
  ends : ends → (x.outcome? machine).isSome
  same : ∀ {result later}, x.outcome? machine = some (result, later) → later = machine
  yields : ∀ {value later}, x.outcome? machine = some (.ok value, later) → yields value

namespace Looks

variable {α β : Type} {ends : Prop} {machine : Machine} {yields : α → Prop} {yields' : β → Prop}

theorem of_outcome {x : Eval α} {result : Except Fault α}
    (outcome : x.outcome? machine = some (result, machine))
    (holds : ∀ value, result = .ok value → yields value) : Looks ends machine x yields where
  ends _ := by
    rw [outcome]
    rfl
  same ran := by
    rw [outcome] at ran
    cases ran
    rfl
  yields ran := by
    rw [outcome] at ran
    cases ran
    exact holds _ rfl

theorem pure {value : α} (holds : yields value) :
    Looks ends machine (Pure.pure value : Eval α) yields := by
  apply of_outcome (outcome?_pure value machine)
  rintro _ ⟨⟩
  exact holds

theorem throw (fault : Fault) :
    Looks ends machine (MonadExcept.throw fault : Eval α) yields := by
  apply of_outcome (outcome?_throw fault machine)
  rintro _ ⟨⟩

theorem cutOff (never : ¬ ends) : Looks ends machine (Eval.cutOff : Eval α) yields where
  ends wanted := absurd wanted never
  same ran := by contradiction
  yields ran := by contradiction

theorem ofExcept {outcome : Except Fault α} (holds : ∀ value, outcome = .ok value → yields value) :
    Looks ends machine (Eval.ofExcept outcome) yields :=
  of_outcome (outcome?_ofExcept outcome machine) holds

theorem examine {view : State → Except Fault α}
    (holds : ∀ value, view machine.state = .ok value → yields value) :
    Looks ends machine (Eval.examine view) yields :=
  of_outcome (outcome?_examine view machine) holds

theorem inspect {view : State → α} (holds : yields (view machine.state)) :
    Looks ends machine (Eval.inspect view) yields := by
  apply of_outcome (outcome?_inspect view machine)
  rintro _ ⟨⟩
  exact holds

/-- A change that makes no difference. -/
theorem update {change : State → State} (same : change machine.state = machine.state) :
    Looks ends machine (Eval.update change) fun _ => True := by
  have unchanged : (Eval.update change).outcome? machine = some (.ok (), machine) := by
    rw [outcome?_update, same]
  exact of_outcome unchanged fun _ _ => trivial

theorem bind {x : Eval α} {next : α → Eval β} (first : Looks ends machine x yields)
    (second : ∀ value, yields value → Looks ends machine (next value) yields') :
    Looks ends machine (x >>= next) yields' where
  ends wanted := by
    rcases Option.isSome_iff_exists.1 (first.ends wanted) with ⟨⟨result, middle⟩, ran⟩
    obtain rfl := first.same ran
    rw [outcome?_bind, ran]
    cases result with
    | error fault => rfl
    | ok value => exact (second value (first.yields ran)).ends wanted
  same ran := by
    rcases outcome_of_bind ran with ⟨fault, failed, -⟩ | ⟨value, middle, ended, rest⟩
    · exact first.same failed
    · obtain rfl := first.same ended
      exact (second value (first.yields ended)).same rest
  yields ran := by
    rcases outcome_of_bind ran with ⟨fault, -, impossible⟩ | ⟨value, middle, ended, rest⟩
    · contradiction
    · obtain rfl := first.same ended
      exact (second value (first.yields ended)).yields rest

theorem mono {x : Eval α} {ends' : Prop} (looks : Looks ends machine x yields)
    (weaker : ends' → ends) : Looks ends' machine x yields :=
  ⟨fun wanted => looks.ends (weaker wanted), looks.same, looks.yields⟩

end Looks

/-- The value holds handles only that code can come by. -/
def Within (machine : Machine) (value : Value) : Prop :=
  ∀ handle ∈ value.handles, machine.state.Reaches handle

/-- Running the node only looks at the machine, and finds what code can come by. -/
def Reads (ends : Prop) (machine : Machine) (run : Node → Eval Flow) (node : Node) : Prop :=
  Looks ends machine (run node) fun flow => Within machine flow.value

namespace Reads

variable {ends : Prop} {machine : Machine} {run : Node → Eval Flow}

theorem evaluate {node : Node} (reads : Reads ends machine run node) :
    Looks ends machine (Eval.evaluate run node) (Within machine) :=
  Looks.bind reads fun _ within => .pure within

/-- An operand that is used up had been stored, and is still there. -/
theorem consume (anchored : machine.state.Anchored) {node : Node}
    (reads : Reads ends machine run node) :
    Looks ends machine (Eval.consume run node) (Within machine) := by
  apply reads.evaluate.bind
  intro value within
  have kept : machine.state.discard value = machine.state :=
    State.discard_of_references? fun handle inside => anchored handle (within handle inside)
  exact (Looks.update kept).bind fun _ _ => .pure within

theorem operands (anchored : machine.state.Anchored) {left right : Node}
    (first : Reads ends machine run left) (second : Reads ends machine run right) :
    Looks ends machine (Eval.operands run left right) fun _ => True :=
  (first.consume anchored).bind fun _ _ => (second.consume anchored).bind fun _ _ => .pure trivial

theorem keys {nodes : List Node} (reads : ∀ node ∈ nodes, Reads ends machine run node) :
    Looks ends machine (Eval.keys run nodes) fun _ => True := by
  induction nodes with
  | nil => exact .pure trivial
  | cons node nodes ih =>
    rcases List.forall_mem_cons.1 reads with ⟨first, rest⟩
    apply first.evaluate.bind
    intro value _
    have subscript : Looks ends machine (Eval.ofExcept value.key) fun _ => True :=
      .ofExcept fun _ _ => trivial
    exact subscript.bind fun _ _ => (ih rest).bind fun _ _ => .pure trivial

theorem memberName {member : Name}
    (reads : ∀ node, member = .computed node → Reads ends machine run node) :
    Looks ends machine (Eval.memberName run member) fun _ => True := by
  cases member with
  | written name => exact .pure trivial
  | computed node =>
    exact (reads node rfl).evaluate.bind fun value _ => .ofExcept fun _ _ => trivial

theorem target {node : Node} (reads : Reads ends machine run node)
    (fault : Option Kind → Fault) :
    Looks ends machine (Eval.target run node fault) machine.state.Reaches := by
  have looked : Looks ends machine (Eval.inspect (·.frame.receiver)) fun _ => True :=
    .inspect trivial
  apply looked.bind
  intro receiver _
  split
  · exact .throw _
  · apply reads.evaluate.bind
    intro value within
    split
    · next handle => exact .pure (within handle List.mem_cons_self)
    · exact .throw _

theorem visibleAttribute {member : Name} (handle : Handle)
    (reads : ∀ node, member = .computed node → Reads ends machine run node) :
    Looks ends machine (Eval.visibleAttribute run handle member) fun _ => True := by
  apply (memberName reads).bind
  intro name _
  have looked : Looks ends machine
      (Eval.inspect fun state => (state.classOf? handle).bind state.classes.get?) fun _ => True :=
    .inspect trivial
  apply looked.bind
  intro found _
  split
  · exact .throw _
  · next decl =>
    have checked : Looks ends machine
        (Eval.examine fun state => decl.checkVisible state.frame.className name) fun _ => True :=
      .examine fun _ _ => trivial
    exact checked.bind fun _ _ => .pure trivial

/-- The object whose attribute is read was stored or is the receiver, so it stays. -/
theorem fetchMember (anchored : machine.state.Anchored) {node : Node} {member : Name}
    (object : Reads ends machine run node)
    (name : ∀ node, member = .computed node → Reads ends machine run node) :
    Looks ends machine (Eval.fetchMember run node member) (Within machine) := by
  apply (object.target _).bind
  intro handle reached
  apply (visibleAttribute handle name).bind
  intro label _
  have read : Looks ends machine (Eval.examine (·.readAttribute handle label))
      (Within machine) := by
    apply Looks.examine
    intro value found other inside
    rcases State.stored_of_readAttribute found with ⟨place, stored⟩
    exact State.reaches_of_get? stored inside
  apply read.bind
  intro value within
  have dropped : Looks ends machine (Eval.dropTarget handle value) fun _ => True :=
    .update (State.dropTarget_of_references? (anchored handle reached) value)
  exact dropped.bind fun _ _ => .pure within

/-- What an operator yields holds no handles. -/
theorem computed {result : Except Fault Value} (isComputed : IsComputed result) :
    Looks ends machine (do return Flow.normal (← Eval.ofExcept result))
      fun flow => Within machine flow.value := by
  have yielded : Looks ends machine (Eval.ofExcept result) (Within machine) := by
    apply Looks.ofExcept
    intro value ended handle inside
    rw [isComputed.handles ended] at inside
    contradiction
  exact yielded.bind fun _ within => .pure within

theorem step (anchored : machine.state.Anchored) {node : Node} (reading : node.IsReading)
    (runs : ∀ part : Node, part.IsReading → sizeOf part < sizeOf node →
      Reads ends machine run part) :
    Reads ends machine (Eval.step run) node := by
  cases reading with
  | var name =>
    have read : Looks ends machine (Eval.examine (·.resolve name none)) (Within machine) :=
      .examine fun _ found _ inside => State.reaches_of_resolve found inside
    exact read.bind fun _ within => .pure within
  | text content => exact .pure fun _ => List.not_mem_nil.elim
  | integer n => exact .pure fun _ => List.not_mem_nil.elim
  | float x => exact .pure fun _ => List.not_mem_nil.elim
  | arrayFetch array subscripts =>
    apply (keys fun key inside =>
      runs key (subscripts key inside) (Index.sizeOf_lt_of_mem_keys array inside)).bind
    intro path _
    have read : Looks ends machine (Eval.examine (·.readPath array path none)) (Within machine) :=
      .examine fun _ found _ inside => .inl (State.occurrences_of_readPath found inside)
    exact read.bind fun _ within => .pure within
  | memberFetch object name =>
    have computed (node : Node) (same : _ = Name.computed node) : Reads ends machine run node :=
      runs node (name node same) (by simp +arith [same])
    apply (fetchMember anchored (runs _ object (by simp +arith)) computed).bind
    intro value within
    exact .pure within
  | compare op first second =>
    have left := runs _ first (by simp +arith)
    have right := runs _ second (by simp +arith)
    exact (operands anchored left right).bind fun pair _ => computed (.comparison op pair.1 pair.2)
  | arithmetic op first second =>
    have left := runs _ first (by simp +arith)
    have right := runs _ second (by simp +arith)
    exact (operands anchored left right).bind fun pair _ => computed (.arithmetic op pair.1 pair.2)
  | negate part =>
    have operand := runs _ part (by simp +arith)
    exact (operand.consume anchored).bind fun value _ => computed (.negate value)
  | concat first second =>
    have left := runs _ first (by simp +arith)
    have right := runs _ second (by simp +arith)
    exact (operands anchored left right).bind fun pair _ => .pure fun _ => List.not_mem_nil.elim

/-- As many nested steps as the expression has parts are enough. -/
theorem exec (anchored : machine.state.Anchored) (steps : Nat) {node : Node}
    (reading : node.IsReading) :
    Reads (sizeOf node ≤ steps) machine (Eval.exec steps) node := by
  induction steps generalizing node with
  | zero =>
    have positive : 0 < sizeOf node := by cases reading <;> simp +arith
    exact .cutOff (Nat.not_le.2 positive)
  | succ steps ih =>
    apply step anchored reading
    intro part reading' smaller
    exact (ih reading').mono fun enough => Nat.le_of_lt_succ (Nat.lt_of_lt_of_le smaller enough)

end Reads

end Eval

/-- An expression that only reads leaves the machine as it was, whether it succeeds or fails, if
every object that is stored somewhere or is the receiver is gone or has a reference. It always comes
to an end. -/
theorem exec_reading {node : Node} (reading : node.IsReading) {machine : Machine}
    (anchored : machine.state.Anchored) (steps : Nat) :
    (∀ result later, (Eval.exec steps node).outcome? machine = some (result, later) →
      later = machine) ∧
    (sizeOf node ≤ steps → ((Eval.exec steps node).outcome? machine).isSome) :=
  have reads := Eval.Reads.exec anchored steps reading
  ⟨fun _ _ => reads.same, reads.ends⟩

/-- Makes an object one of whose attributes is an object itself. -/
def Script.owning : String :=
  "<? class C \x7b public $a = 7; public $b; \x7d $o = new C(); $o->b = new C();"

/-- The attribute `a` of the object that is the attribute `b` by a computed name, and that object
itself behind it. -/
def innerFirst : Node :=
  .concat (.memberFetch (.memberFetch (.var "o") (.computed (.text "b"))) (.written "a"))
    (.memberFetch (.var "o") (.written "b"))

theorem isReading_innerFirst : innerFirst.IsReading := by
  have computed (node : Node) (same : Name.computed (.text "b") = .computed node) :
      node.IsReading := by
    cases same
    exact .text "b"
  have written (name : String) (node : Node) (same : Name.written name = .computed node) :
      node.IsReading := by
    cases same
  have inner : Node.IsReading (.memberFetch (.var "o") (.computed (.text "b"))) :=
    .memberFetch (.var "o") computed
  exact .concat (.memberFetch inner (written "a")) (.memberFetch (.var "o") (written "b"))

/-- Both objects have one reference, which is enough: what is read is counted for a time and given
back, and discarding the operands reclaims nothing. -/
theorem exec_reading_of_owning : ∃ result machine,
    Machine.runSource? {} Script.owning = some (result, machine) ∧
    (Eval.exec 5 innerFirst).outcome? machine =
      some (.ok (.normal (.text "7Object")), machine) := by
  have ends : (Machine.runSource? {} Script.owning).map (fun ran =>
      (ran.2.state.heap, ((Eval.exec 5 innerFirst).outcome? ran.2).map Prod.fst)) =
      some (⟨#[some ⟨0, "C", 1⟩, some ⟨1, "C", 1⟩]⟩, some (.ok (.normal (.text "7Object")))) := by
    cbv
  rcases Option.map_eq_some_iff.1 ends with ⟨⟨result, machine⟩, ran, shown⟩
  rcases Prod.mk.inj shown with ⟨heap, read⟩
  rcases Option.map_eq_some_iff.1 read with ⟨⟨_, later⟩, read, rfl⟩
  have anchored : machine.state.Anchored := by
    intro handle _
    rw [heap]
    rcases handle with _ | _ | handle
    · decide
    · decide
    · intro impossible
      cases impossible
  obtain rfl := (exec_reading isReading_innerFirst anchored 5).1 _ _ read
  exact ⟨result, later, ran, read⟩

end TagScript
