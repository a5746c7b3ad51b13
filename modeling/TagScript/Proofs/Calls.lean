import TagScript.Proofs.Balance

/-!
# Balance across calls

The start of a call takes over the receiver and the arguments that the caller has in hand; its end
hands over the result. In between the variables of an earlier activation are held. A constructor
runs on an object that has to survive, so its receiver is still in hand after the call; the receiver
of any other method is reclaimed with the call if nothing else refers to it.
-/

namespace TagScript

open State

/-- An argument is named after its parameter, or after its place by a text that is no variable's
name. -/
theorem argumentName_cases (params : List String) (place : Nat) :
    params[place]? = some (argumentName params place) ∨
      params[place]? = none ∧
        (argumentName params place).toList = '.' :: 'a' :: 'r' :: 'g' :: Nat.toDigits 10 place := by
  unfold argumentName
  cases params[place]? with
  | some param => exact .inl rfl
  | none => exact .inr ⟨rfl, by simp [toString]⟩

section Arguments

variable {params : List String} (proper : ∀ param ∈ params, IsVariableName param)
include proper

theorem argumentName_inj (distinct : params.Nodup) {place₁ place₂ : Nat}
    (same : argumentName params place₁ = argumentName params place₂) : place₁ = place₂ := by
  have noPoint {place : Nat} {name : String} (given : params[place]? = some name) :
      '.' ∉ name.toList :=
    (proper name (List.mem_of_getElem? given)).not_mem (by decide) (by decide)
  rcases argumentName_cases params place₁ with given₁ | ⟨none₁, text₁⟩ <;>
    rcases argumentName_cases params place₂ with given₂ | ⟨none₂, text₂⟩
  · have bound := (List.getElem?_eq_some_iff.1 given₁).1
    exact (List.getElem?_inj bound distinct).1 (given₁.trans (same ▸ given₂.symm))
  · exact absurd (by rw [same, text₂]; simp) (noPoint given₁)
  · exact absurd (by rw [← same, text₁]; simp) (noPoint given₂)
  · rw [same, text₂] at text₁
    simp only [List.cons.injEq, true_and] at text₁
    exact (toDigits_inj text₁).symm

/-- An argument is never mistaken for an attribute. -/
theorem argumentName_not_slot (place : Nat) : ¬ IsSlot (argumentName params place) := by
  rintro ⟨handle, member, -, same⟩
  have colon : ':' ∈ (argumentName params place).toList := by
    rw [same, toList_attributeSlot]
    simp
  rcases argumentName_cases params place with given | ⟨-, text⟩
  · exact (proper _ (List.mem_of_getElem? given)).not_mem (by decide) (by decide) colon
  · rw [text] at colon
    have digits := not_mem_toDigits (c := ':') (by decide) place
    simp [digits] at colon

/-- Arguments with different names do not displace each other. -/
theorem stored_foldl_bindArgument (distinct : params.Nodup) {state : State}
    (keyed : state.WellKeyed []) (names : state.PlainNames) (plain : Plain state.frame.scope)
    (values : List Value) : ∀ value ∈ values, ∃ place,
      (values.foldl (bindArgument params) state).storage.get? place = some value := by
  induction values generalizing state with
  | nil => simp
  | cons first values ih =>
    have one := Keeps.bindArgument keyed names plain params first
    have frame := state.frame_bindArgument params first
    have plain' : Plain (state.bindArgument params first).frame.scope := by rwa [frame]
    have names' := one.plainNames names
    refine List.forall_mem_cons.2 ⟨?_, ih one.keyed names' plain'⟩
    -- The first argument is bound to a name of its own, which the others leave alone.
    have more := Keeps.foldl_bindArgument one.keyed names' plain' params values
    have bound : (state.bindArgument params first).bindingIn? state.frame.scope
        (argumentName params state.frame.passed) = some ⟨first.slot, variableKey
          state.frame.scope (argumentName params state.frame.passed)⟩ :=
      (bindingIn?_setBinding _ _ _ _ _ _ _).trans (if_pos ⟨rfl, rfl⟩)
    have stored : (state.bindArgument params first).storage.get? ⟨first.slot, variableKey
        state.frame.scope (argumentName params state.frame.passed)⟩ = some first :=
      (Storage.get?_insert _ _ first _).trans (if_pos rfl)
    refine ⟨_, (more.value ?_ bound).trans stored⟩
    rw [frame]
    rintro (slot | ⟨-, place, later, same⟩)
    · exact argumentName_not_slot proper _ slot.2
    · have later : state.frame.passed + 1 ≤ place := later
      have := argumentName_inj proper distinct same
      omega

end Arguments

namespace Ledger

/-- The ledger after some arguments have been bound. -/
def pass (ledger : Ledger) (count : Nat) : Ledger :=
  { ledger with frame := { ledger.frame with passed := ledger.frame.passed + count } }

end Ledger

namespace Regime.Balanced

variable {R : Regime} {ledger : Ledger} {state : State} {value : Value} {params : List String}

theorem produces_of_held (balanced : R.Balanced ledger state)
    (held : ∀ handle ∈ value.handles, handle ∈ ledger.held) : R.Produces ledger value state := by
  have usable (handle : Handle) (inside : handle ∈ value.handles) :=
    balanced.counts.usable (Nat.add_pos_right _ (List.count_pos_iff.2 (held handle inside)))
  exact ⟨balanced.carry fun handle inside => (usable handle inside).1,
    fun handle inside => (usable handle inside).2⟩

/-- Arguments are stored while the caller still holds them. -/
theorem foldl_bindArgument (balanced : R.Balanced ledger state) {values : List Value}
    (held : ∀ value ∈ values, ∀ handle ∈ value.handles, handle ∈ ledger.held) :
    R.Balanced (ledger.pass values.length) (values.foldl (bindArgument params) state) := by
  induction values generalizing ledger state with
  | nil => exact balanced
  | cons first values ih =>
    obtain ⟨heldFirst, heldRest⟩ := List.forall_mem_cons.1 held
    have assigned := ((balanced.produces_of_held heldFirst).assign
      (argumentName params state.frame.passed)).1
    have one : R.Balanced (ledger.pass 1) (state.bindArgument params first) := by
      refine ⟨assigned.functions, assigned.classes, ?_, assigned.keyed.congr rfl rfl,
        assigned.counts⟩
      rw [frame_bindArgument, balanced.frame]
      rfl
    refine (ih one heldRest).congr ?_ (fun _ => rfl) rfl (fun _ => rfl) fun _ => id
    simp only [Ledger.pass, List.length_cons, Frame.mk.injEq, true_and]
    omega

/-- The caller lets go of its arguments. Where tidiness is asked for they have to be stored. -/
theorem foldl_disown {values : List Value}
    (balanced : R.Balanced (ledger.hold (values.flatMap Value.handles)) state)
    (stored : R.tidy → ∀ value ∈ values, ∃ place, state.storage.get? place = some value) :
    R.Balanced ledger (values.foldl State.disown state) := by
  induction values generalizing state with
  | nil => exact balanced
  | cons value values ih =>
    rw [List.flatMap_cons, Ledger.hold_append] at balanced
    refine ih (balanced.disown.settle fun tidy handle inside => .inl fun unreferenced => ?_) ?_
    · obtain ⟨place, found⟩ := stored tidy value List.mem_cons_self
      have counted := (balanced.disown.counts handle).counted unreferenced
      have present := Storage.occurrences_le found handle
      have := Value.mem_handles.1 inside
      simp only [State.disown] at counted
      omega
    · exact fun tidy other inside => stored tidy other (List.mem_cons_of_mem value inside)

theorem bindArguments {values : List Value}
    (balanced : R.Balanced (ledger.hold (values.flatMap Value.handles)) state)
    (proper : ∀ param ∈ params, IsVariableName param) (distinct : R.tidy → params.Nodup) :
    R.Balanced (ledger.pass values.length) (state.bindArguments params values) := by
  have plain : Plain state.frame.scope := balanced.frame ▸ ledger.plain
  have bound : R.Balanced _ (values.foldl (bindArgument params) state) :=
    balanced.foldl_bindArgument fun value inside handle present =>
      List.mem_append_left _ (List.mem_flatMap.2 ⟨value, inside, present⟩)
  refine foldl_disown bound fun tidy => ?_
  exact stored_foldl_bindArgument proper (distinct tidy) balanced.keyed balanced.plainNames plain
    values

end Regime.Balanced

/-- The handle of a receiver, which its caller has in hand. -/
def offered : Option Receiver → List Handle
  | some receiver => [receiver.handle]
  | none => []

/-- The handle of a receiver that has to survive. A constructor has one, and it is live. -/
def surviving : Option Receiver → List Handle
  | some ⟨handle, true⟩ => [handle]
  | _ => []

/-- The handle of a receiver that goes with the call if nothing else refers to it. -/
def passing : Option Receiver → List Handle
  | some ⟨handle, false⟩ => [handle]
  | _ => []

/-- The call has taken over the receiver. -/
def Transit.receive (transit : Transit) (receiver : Option Receiver) : Transit :=
  { transit.hold (surviving receiver) with
    receivers := passing receiver ++ transit.receivers }

/-- The handles in the value that a call returns, if it did not fail. -/
def returnedHandles (result : Option Value) : List Handle :=
  (result.map Value.handles).getD []

namespace State

/-- Letting go of an object that is gone changes no count. -/
theorem release_singleton_of_none {state : State} {handle : Handle}
    (gone : state.heap.references? handle = none) :
    state.release [handle] = { state with heap := state.heap.decrement handle } := by
  have missing : (state.heap.decrement handle).get? handle = none := by
    have given : (state.heap.decrement handle).references? handle = none := by
      rw [Heap.references?_decrement, gone, Option.map_none]
    exact Option.map_eq_none_iff.1 given
  unfold release
  simp only
  split
  · exact release_nil _
  · next object found => rw [missing] at found; contradiction

namespace Counts

variable {care : Care} {transit : Transit} {state : State} {handle : Handle}

/-- A receiver in hand is counted. It need not be live. -/
theorem retainReceiver (counts : state.Counts care (transit.carry [handle]))
    (unkept : handle ∉ transit.kept) :
    { state with heap := state.heap.retain handle }.Counts care
      { transit with receivers := handle :: transit.receivers } := by
  intro other
  have fits := counts other
  simp only [Transit.carry, List.cons_append, List.nil_append, List.count_cons, beq_iff_eq,
    Heap.references?_retain, Heap.next_retain] at fits ⊢
  rw [Nat.add_comm _ (ite _ _ _)] at fits ⊢
  refine fits.retainReceiver fun here inside => ?_
  have same : handle = other := by grind
  exact unkept (same ▸ inside)

section Receiver

variable (counts : state.Counts care { transit with receivers := handle :: transit.receivers })
include counts

/-- A receiver that was counted is in hand again. -/
theorem disownReceiver :
    { state with heap := state.heap.decrement handle }.Counts care (transit.carry [handle]) := by
  intro other
  have fits := counts other
  simp only [Transit.carry, List.cons_append, List.nil_append, List.count_cons, beq_iff_eq,
    Heap.references?_decrement, Heap.next_decrement] at fits ⊢
  rw [Nat.add_comm _ (ite _ _ _)] at fits ⊢
  exact fits.disownReceiver

/-- A receiver that is live may be treated like any other value. -/
theorem promoteReceiver (live : (state.heap.references? handle).isSome) :
    state.Counts care (transit.hold [handle]) := by
  intro other
  have fits := counts other
  simp only [Transit.hold, List.cons_append, List.nil_append, List.count_cons, beq_iff_eq] at fits ⊢
  rw [Nat.add_comm _ (ite _ _ _)] at fits ⊢
  refine fits.promote fun here => ?_
  have same : handle = other := by grind
  exact same ▸ live

/-- A receiver is let go. If it is gone already there is nothing to reclaim. -/
theorem releaseReceiver : (state.release [handle]).Counts care transit := by
  cases live : state.heap.references? handle with
  | none =>
    rw [release_singleton_of_none live]
    refine counts.disownReceiver.settle fun _ other same => .inl ?_
    obtain rfl := List.mem_singleton.1 same
    simp [Heap.references?_decrement, live]
  | some n => exact (counts.promoteReceiver (by simp [live])).release

end Receiver

theorem holdReceiver {receiver : Option Receiver}
    (counts : state.Counts care (transit.carry (offered receiver)))
    (unkept : ∀ given ∈ receiver, given.handle ∉ transit.kept)
    (live : ∀ given ∈ receiver, given.survives → care.alive →
      (state.heap.references? given.handle).isSome) :
    (state.holdReceiver receiver).Counts care (transit.receive receiver) := by
  match receiver with
  | none => exact counts
  | some ⟨handle, true⟩ =>
    have object : state.Counts care (transit.carry (Value.object handle).handles) := counts
    refine object.retain fun other same => ?_
    obtain rfl := List.mem_singleton.1 same
    exact ⟨unkept _ rfl, live _ rfl rfl⟩
  | some ⟨handle, false⟩ => exact counts.retainReceiver (unkept _ rfl)

/-- The receiver of a call is let go. It is in hand again if it has to survive, and in the hands of
the caller if the call returns it. -/
theorem letGoReceiver {receiver : Option Receiver} {result : Option Value}
    (counts : state.Counts care ((transit.receive receiver).hold (returnedHandles result))) :
    (state.letGoReceiver result receiver).Counts care
      ((transit.carry (surviving receiver)).hold (returnedHandles result)) := by
  match receiver with
  | none => exact counts
  | some ⟨handle, true⟩ =>
    have object : state.Counts care
        ((transit.hold (returnedHandles result)).hold (Value.object handle).handles) := by
      refine counts.congr (fun other => ?_) rfl (fun _ => rfl) fun _ => id
      simp only [Transit.receive, surviving, Transit.hold, List.count_append, Value.handles]
      omega
    exact object.disown
  | some ⟨handle, false⟩ =>
    have received : state.Counts care
        { transit.hold (returnedHandles result) with
          receivers := handle :: transit.receivers } := counts
    unfold State.letGoReceiver State.letGo
    simp only [Bool.false_or]
    split
    · next returned =>
      refine received.disownReceiver.settle fun _ other same => .inl fun unreferenced => ?_
      obtain rfl := List.mem_singleton.1 same
      have counted := (received.disownReceiver other).counted unreferenced
      have inside : 0 < (returnedHandles result).count other :=
        List.count_pos_iff.2 (List.contains_iff_mem.1 returned)
      simp only [Transit.hold, Transit.carry, List.count_append] at counted
      omega
    · exact received.releaseReceiver

/-- The receiver is let go and the result is handed over. The objects in hand afterwards are live if
that is asked for. -/
theorem handOver {receiver : Option Receiver} {result : Option Value}
    (counts : state.Counts care ((transit.receive receiver).hold (returnedHandles result))) :
    ((state.letGoReceiver result receiver).disownResult result).Counts care
        ((transit.carry (surviving receiver)).carry (returnedHandles result)) ∧
      ∀ handle ∈ surviving receiver ++ returnedHandles result, care.alive →
        (((state.letGoReceiver result receiver).disownResult result).heap.references?
          handle).isSome := by
  have letGo : (state.letGoReceiver result receiver).Counts care _ := counts.letGoReceiver
  have stillLive (handle : Handle) :
      (((state.letGoReceiver result receiver).disownResult result).heap.references? handle).isSome =
        ((state.letGoReceiver result receiver).heap.references? handle).isSome := by
    cases result with
    | none => rfl
    | some value => simp [disownResult, State.disown, Heap.references?_decrementAll]
  refine ⟨?_, fun handle inHand alive => ?_⟩
  · cases result with
    | none => exact letGo
    | some value => exact letGo.disown
  · rw [stillLive]
    rcases List.mem_append.1 inHand with survives | returned
    · obtain _ | ⟨other, _ | _⟩ := receiver
      · exact absurd survives List.not_mem_nil
      · exact absurd survives List.not_mem_nil
      · obtain rfl := List.mem_singleton.1 survives
        have held : handle ∈
            ((transit.receive (some ⟨handle, true⟩)).hold (returnedHandles result)).held := by
          simp [Transit.receive, surviving, Transit.hold]
        have before :=
          (counts handle).alive alive (Nat.add_pos_right _ (List.count_pos_iff.2 held))
        simpa [State.letGoReceiver, State.letGo, Heap.references?_decrement] using before
    · refine (letGo handle).alive alive (Nat.add_pos_right _ ?_)
      exact List.count_pos_iff.2 (List.mem_append_left _ returned)

/-- The end of a call: the variables of the call go, those of an earlier activation come back, the
receiver is let go and the result is handed over. -/
theorem endCall {call : Call} {result : Option Value}
    (counts : state.Counts care (((transit.receive call.receiver).hold
      (suspendedHandles call.suspended)).carry (returnedHandles result)))
    (usable : ∀ handle ∈ returnedHandles result, state.Usable care transit handle)
    (restorable : ∀ suspended ∈ call.suspended, (suspended.values.map Prod.fst).Nodup ∧
      (∀ pair ∈ suspended.values, pair.1.slot = pair.2.slot) ∧
      ∀ pair ∈ suspended.values,
        ((state.holdResult result).drop call.scope).storage.get? pair.1 = none) :
    (state.endCall call result).Counts care
        ((transit.carry (surviving call.receiver)).carry (returnedHandles result)) ∧
      ∀ handle ∈ surviving call.receiver ++ returnedHandles result, care.alive →
        ((state.endCall call result).heap.references? handle).isSome := by
  obtain ⟨scope, receiver, suspended, caller⟩ := call
  rw [endCall_eq]
  have held : (state.holdResult result).Counts care (((transit.receive receiver).hold
      (suspendedHandles suspended)).hold (returnedHandles result)) := by
    cases result with
    | none => exact counts
    | some value => exact counts.retain usable
  have dropped := held.drop scope
  have resumed : (((state.holdResult result).drop scope).resumeEarlier suspended).Counts care
      ((transit.receive receiver).hold (returnedHandles result)) := by
    cases suspended with
    | none => exact dropped
    | some earlier =>
      obtain ⟨distinct, slots, free⟩ := restorable earlier rfl
      have exchanged : ((state.holdResult result).drop scope).Counts care
          (((transit.receive receiver).hold (returnedHandles result)).hold
            ((earlier.values.map Prod.snd).flatMap Value.handles)) := by
        refine dropped.congr (fun handle => ?_) rfl (fun _ => rfl) fun _ => id
        simp only [suspendedHandles, Transit.hold, List.count_append]
        omega
      exact exchanged.resume distinct slots free
  have entered : ((((state.holdResult result).drop scope).resumeEarlier suspended).enter
      caller).Counts care ((transit.receive receiver).hold (returnedHandles result)) := resumed
  exact entered.handOver

end Counts

end State

/-- The places of suspended variables are free again once the scope of the call is gone. -/
theorem restorable_of_suspend {state later : State} {scope : String} {suspended : Suspended}
    (keyed : state.WellKeyed []) (plain : Plain scope)
    (given : (state.suspend scope).1 = some suspended) (keyed' : later.WellKeyed [])
    (empty : ∀ name, later.bindingIn? scope name = none) :
    (suspended.values.map Prod.fst).Nodup ∧
      (∀ pair ∈ suspended.values, pair.1.slot = pair.2.slot) ∧
      ∀ pair ∈ suspended.values, later.storage.get? pair.1 = none := by
  have taken := from_of_suspend given
  refine ⟨taken.distinct, ?_, ?_⟩
  · rintro ⟨place, value⟩ inside
    exact (Storage.slot_of_get? ((taken.value place value).1 inside).2).symm
  · rintro ⟨place, value⟩ inside
    obtain ⟨⟨name, binding⟩, -⟩ := (taken.value place value).1 inside
    exact keyed'.unstored plain (keyed.key binding) (empty name) place.slot

namespace Ledger

/-- The ledger of a call: the receiver has been taken over, the variables of an earlier activation
are held. -/
def within (ledger : Ledger) (receiver : Option Receiver) (earlier : List Handle) (frame : Frame)
    (plain : Plain frame.scope) (running : frame.receiver = receiver.map Receiver.handle) :
    Ledger where
  toTransit := (ledger.toTransit.receive receiver).hold earlier
  frame := frame
  plain := plain
  rooted handle given := by
    match receiver with
    | none => simp [running] at given
    | some ⟨other, true⟩ =>
      obtain rfl : other = handle := by simpa [running] using given
      exact .inl (by simp [Transit.receive, surviving, Transit.hold])
    | some ⟨other, false⟩ =>
      obtain rfl : other = handle := by simpa [running] using given
      exact .inr (by simp [Transit.receive, passing, Transit.hold])

end Ledger

namespace Regime.Balanced

variable {R : Regime} {ledger : Ledger} {state : State} {params : List String}
  {values : List Value} {frame : Frame} {receiver : Option Receiver} (plain : Plain frame.scope)
  (running : frame.receiver = receiver.map Receiver.handle)
  (begun : R.Balanced ((ledger.carry (offered receiver)).hold (values.flatMap Value.handles)) state)
include plain running begun

/-- The body of a call starts in a balanced state. -/
theorem beginCall (unkept : ∀ given ∈ receiver, given.handle ∉ ledger.kept)
    (live : ∀ given ∈ receiver, given.survives → R.alive →
      (state.heap.references? given.handle).isSome)
    (proper : ∀ param ∈ params, IsVariableName param) (distinct : R.tidy → params.Nodup) :
    R.Balanced
      ((ledger.within receiver (suspendedHandles (state.beginCall frame receiver).1.suspended) frame
        plain running).pass values.length)
      ((state.beginCall frame receiver).2.bindArguments params values) := by
  rw [beginCall_eq]
  have held : Keeps (slotsAndScope frame.scope) [] state (state.holdReceiver receiver) :=
    .holdReceiver begun.keyed receiver
  have suspended := held.trans (.suspend held.keyed frame.scope)
  have entered := suspended.trans (.enter suspended.keyed frame)
  have received : (state.holdReceiver receiver).Counts R.toCare
      ((ledger.toTransit.hold (values.flatMap Value.handles)).receive receiver) :=
    begun.counts.holdReceiver unkept live
  refine bindArguments ⟨?_, ?_, ?_, entered.keyed, ?_⟩ proper distinct
  · exact entered.functions.trans begun.functions
  · exact entered.classes.trans begun.classes
  · rfl
  · refine (received.suspend frame.scope).congr (fun handle => ?_) rfl (fun _ => rfl) fun _ => id
    simp only [Ledger.hold, Ledger.within, Transit.receive, Transit.hold, List.count_append]
    omega

/-- A call that ends in a balanced state leaves its caller in one. What it returns is in hand, and
so is the object that a constructor ran on; both are live if that is asked for. -/
theorem endCall {inner : State} (result : Option Value) {count : Nat}
    (ended : R.Balanced (((ledger.within receiver
      (suspendedHandles (state.beginCall frame receiver).1.suspended) frame plain running).pass
        count).carry (returnedHandles result)) inner)
    (usable : ∀ handle ∈ returnedHandles result, inner.Usable R.toCare ledger.toTransit handle)
    (keeps : Keeps slots [] state
      (inner.endCall (state.beginCall frame receiver).1 result)) :
    R.Balanced ((ledger.carry (surviving receiver)).carry (returnedHandles result))
        (inner.endCall (state.beginCall frame receiver).1 result) ∧
      ∀ handle ∈ surviving receiver ++ returnedHandles result, R.alive →
        ((inner.endCall (state.beginCall frame receiver).1 result).heap.references?
          handle).isSome := by
  have heldResult : Keeps slots [] inner (inner.holdResult result) :=
    .holdResult ended.keyed result
  have dropped := Keeps.drop heldResult.keyed (heldResult.plainNames ended.plainNames) frame.scope
  have heldReceiver : Keeps slots [] state (state.holdReceiver receiver) :=
    .holdReceiver begun.keyed receiver
  have counts : inner.Counts R.toCare (((ledger.toTransit.receive
      (state.beginCall frame receiver).1.receiver).hold (suspendedHandles
        (state.beginCall frame receiver).1.suspended)).carry (returnedHandles result)) :=
    ended.counts
  obtain ⟨balanced, live⟩ := counts.endCall usable fun suspended given => by
    rw [beginCall_eq] at given ⊢
    exact restorable_of_suspend heldReceiver.keyed plain given dropped.keyed
      (bindingIn?_drop_self _ _)
  rw [beginCall_eq] at balanced live keeps ⊢
  refine ⟨begun.step keeps ?_ rfl balanced, live⟩
  rw [frame_endCall]

end Regime.Balanced

end TagScript
