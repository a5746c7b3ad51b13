import TagScript.Machine

/-!
# Contracts of computations

A contract says what holds of the state and of the result after a computation, given what holds of
the state before it. It covers both ways in which a computation can end, with a result and with a
fault, and asks nothing of one that is cut off. There is one rule for each primitive of the machine
and one for each way of combining computations.
-/

namespace TagScript.Eval

variable {α β : Type}

/-- If a state is as described before a computation, then state and result are as described after
it. -/
def Meets (before : State → Prop) (x : Eval α) (after : Except Fault α → State → Prop) : Prop :=
  ∀ machine result later, before machine.state → x.outcome? machine = some (result, later) →
    after result later.state

variable {before : State → Prop} {after : Except Fault α → State → Prop}

theorem Meets.mono {x : Eval α} {before' : State → Prop}
    {after' : Except Fault α → State → Prop} (meets : Meets before x after)
    (strengthen : ∀ state, before' state → before state)
    (weaken : ∀ result state, after result state → after' result state) :
    Meets before' x after' :=
  fun machine result later holds ran =>
    weaken _ _ (meets machine result later (strengthen _ holds) ran)

/-- More may be known of a state than a contract asks for. -/
theorem Meets.strengthen {x : Eval α} {before' : State → Prop} (meets : Meets before x after)
    (strengthen : ∀ state, before' state → before state) : Meets before' x after :=
  meets.mono strengthen fun _ _ => id

/-- What holds of every state that is as described may be assumed. -/
theorem Meets.assume {x : Eval α} (fact : Prop) (holds : ∀ state, before state → fact)
    (meets : fact → Meets before x after) : Meets before x after :=
  fun machine result later given ran => meets (holds _ given) machine result later given ran

theorem meets_pure {value : α} (holds : ∀ state, before state → after (.ok value) state) :
    Meets before (pure value) after := by
  intro machine result later given ran
  cases ran
  exact holds _ given

theorem meets_throw {fault : Fault} (holds : ∀ state, before state → after (.error fault) state) :
    Meets before (throw fault) after := by
  intro machine result later given ran
  cases ran
  exact holds _ given

theorem meets_cutOff : Meets before cutOff after := by
  intro machine result later given ran
  cases ran

theorem meets_ofExcept {outcome : Except Fault α}
    (holds : ∀ state, before state → after outcome state) :
    Meets before (ofExcept outcome) after := by
  intro machine result later given ran
  rw [outcome?_ofExcept] at ran
  cases ran
  exact holds _ given

theorem meets_examine {view : State → Except Fault α}
    (holds : ∀ state, before state → after (view state) state) :
    Meets before (examine view) after := by
  intro machine result later given ran
  rw [outcome?_examine] at ran
  cases ran
  exact holds _ given

theorem meets_inspect {view : State → α}
    (holds : ∀ state, before state → after (.ok (view state)) state) :
    Meets before (inspect view) after := by
  intro machine result later given ran
  cases ran
  exact holds _ given

theorem meets_write {text : String} {after : Except Fault Unit → State → Prop}
    (holds : ∀ state, before state → after (.ok ()) state) : Meets before (write text) after := by
  intro machine result later given ran
  cases ran
  exact holds _ given

theorem meets_update {change : State → State} {after : Except Fault Unit → State → Prop}
    (holds : ∀ state, before state → after (.ok ()) (change state)) :
    Meets before (update change) after := by
  intro machine result later given ran
  cases ran
  exact holds _ given

theorem meets_updateWith {change : State → α × State}
    (holds : ∀ state, before state → after (.ok (change state).1) (change state).2) :
    Meets before (updateWith change) after := by
  intro machine result later given ran
  cases ran
  exact holds _ given

/-- Two computations in sequence end with the first one's fault, or as the second one does. -/
theorem outcome_of_bind {x : Eval α} {next : α → Eval β} {machine later : Machine}
    {result : Except Fault β} (ran : (x >>= next).outcome? machine = some (result, later)) :
    (∃ fault, x.outcome? machine = some (.error fault, later) ∧ result = .error fault) ∨
      ∃ value middle, x.outcome? machine = some (.ok value, middle) ∧
        (next value).outcome? middle = some (result, later) := by
  rw [outcome?_bind] at ran
  cases first : x.outcome? machine with
  | none => simp [first] at ran
  | some outcome =>
    obtain ⟨outcome, middle⟩ := outcome
    rw [first, Option.bind_some] at ran
    cases outcome with
    | error fault =>
      cases ran
      exact .inl ⟨fault, rfl, rfl⟩
    | ok value => exact .inr ⟨value, middle, rfl, ran⟩

theorem Meets.bind {x : Eval α} {next : α → Eval β} {middle : Except Fault α → State → Prop}
    {after : Except Fault β → State → Prop} (first : Meets before x middle)
    (second : ∀ value, Meets (middle (.ok value)) (next value) after)
    (fails : ∀ fault state, middle (.error fault) state → after (.error fault) state) :
    Meets before (x >>= next) after := by
  intro machine result later given ran
  obtain ⟨fault, failed, rfl⟩ | ⟨value, between, ended, rest⟩ := outcome_of_bind ran
  · exact fails _ _ (first _ _ _ given failed)
  · exact second value _ _ _ (first _ _ _ given ended) rest

/-- A guarded computation ends with the value of what is guarded, or as the handler of its fault
does. -/
theorem outcome_of_tryCatch {x : Eval α} {handler : Fault → Eval α} {machine later : Machine}
    {result : Except Fault α} (ran : (tryCatch x handler).outcome? machine = some (result, later)) :
    (∃ value, x.outcome? machine = some (.ok value, later) ∧ result = .ok value) ∨
      ∃ fault middle, x.outcome? machine = some (.error fault, middle) ∧
        (handler fault).outcome? middle = some (result, later) := by
  rw [outcome?_tryCatch] at ran
  cases first : x.outcome? machine with
  | none => simp [first] at ran
  | some outcome =>
    obtain ⟨outcome, middle⟩ := outcome
    rw [first, Option.bind_some] at ran
    cases outcome with
    | ok value =>
      cases ran
      exact .inl ⟨value, rfl, rfl⟩
    | error fault => exact .inr ⟨fault, middle, rfl, ran⟩

theorem Meets.tryCatch {x : Eval α} {handler : Fault → Eval α}
    {middle : Except Fault α → State → Prop} (first : Meets before x middle)
    (ends : ∀ value state, middle (.ok value) state → after (.ok value) state)
    (second : ∀ fault, Meets (middle (.error fault)) (handler fault) after) :
    Meets before (tryCatch x handler) after := by
  intro machine result later given ran
  obtain ⟨value, ended, rfl⟩ | ⟨fault, between, failed, rest⟩ := outcome_of_tryCatch ran
  · exact ends _ _ (first _ _ _ given ended)
  · exact second fault _ _ _ (first _ _ _ given failed) rest

theorem Meets.onFault {x : Eval α} {change : State → State}
    {middle : Except Fault α → State → Prop} (first : Meets before x middle)
    (ends : ∀ value state, middle (.ok value) state → after (.ok value) state)
    (fails : ∀ fault state, middle (.error fault) state → after (.error fault) (change state)) :
    Meets before (Eval.onFault x change) after := by
  refine first.tryCatch ends fun fault => ?_
  have changed : Meets (middle (.error fault)) (update change)
      fun result state => result = .ok () ∧ after (.error fault) state :=
    meets_update fun state given => ⟨rfl, fails fault state given⟩
  refine changed.bind (fun _ => meets_throw fun _ reached => reached.2) fun _ _ reached => ?_
  cases reached.1

end TagScript.Eval
