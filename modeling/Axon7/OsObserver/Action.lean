import Mathlib

/-!
# Framework modules

`turnOn` and `turnOff` count the users of a framework module and leave it to
the message task to switch the module when the first comes or the last goes.
The message that `turnOn` posts is to the observer itself, where it counts as
one more user: the framework is never told to turn a module on.
-/

namespace Axon7.OsObserver

open Std (TreeMap)

/-- The object that a message calls when it is processed. -/
inductive IFrameworkActionReq
  | observer
  | framework

inductive ActionMsg (DIT : Type*)
  | handleTurnOn (mFrameworkActionReqObj : IFrameworkActionReq)
      (mDataItemId : DIT) (mTimeOut : Int)
  | handleTurnOff (mFrameworkActionReqObj : IFrameworkActionReq)
      (mDataItemId : DIT)

/-- The module a message is about. -/
def ActionMsg.dit {DIT : Type*} : ActionMsg DIT → DIT
  | .handleTurnOn _ dit _ => dit
  | .handleTurnOff _ dit => dit

/-- The calls the framework gets. -/
inductive ActionCall (DIT : Type*)
  | turnOn (dit : DIT) (timeOut : Int)
  | turnOff (dit : DIT)
deriving DecidableEq

/-- The module a call is for. -/
def ActionCall.dit {DIT : Type*} : ActionCall DIT → DIT
  | .turnOn dit _ => dit
  | .turnOff dit => dit

/-- The part of the observer that the action requests are about, the messages
it has posted and the calls the framework has got. -/
structure ActionState (DIT : Type*) [LinearOrder DIT] where
  mActiveRequestCount : TreeMap DIT Int
  mMsgTask : List (ActionMsg DIT)
  calls : List (ActionCall DIT)

/-- A request of a client, or the next message processed. -/
inductive ActionStep (DIT : Type*)
  | turnOn (dit : DIT) (timeOut : Int)
  | turnOff (dit : DIT)
  | proc

variable {DIT : Type*} [LinearOrder DIT]

namespace ActionState

def init : ActionState DIT := ⟨{}, [], []⟩

def turnOn (s : ActionState DIT) (dit : DIT) (timeOut : Int) : ActionState DIT :=
  match s.mActiveRequestCount[dit]? with
  | none =>
    { s with
      mActiveRequestCount := s.mActiveRequestCount.insert dit 1
      mMsgTask := s.mMsgTask ++ [.handleTurnOn .observer dit timeOut] }
  | some refs =>
    { s with
      mActiveRequestCount := s.mActiveRequestCount.insert dit (refs + 1) }

def turnOff (s : ActionState DIT) (dit : DIT) : ActionState DIT :=
  match s.mActiveRequestCount[dit]? with
  | none => s
  | some refs =>
    if refs - 1 = 0 then
      { s with
        mActiveRequestCount := s.mActiveRequestCount.erase dit
        mMsgTask := s.mMsgTask ++ [.handleTurnOff .framework dit] }
    else
      { s with
        mActiveRequestCount := s.mActiveRequestCount.insert dit (refs - 1) }

/-- `proc` of a message. -/
def procMsg (s : ActionState DIT) : ActionMsg DIT → ActionState DIT
  | .handleTurnOn .observer dit timeOut => s.turnOn dit timeOut
  | .handleTurnOn .framework dit timeOut =>
    { s with calls := s.calls ++ [.turnOn dit timeOut] }
  | .handleTurnOff .observer dit => s.turnOff dit
  | .handleTurnOff .framework dit =>
    { s with calls := s.calls ++ [.turnOff dit] }

def step (s : ActionState DIT) : ActionStep DIT → ActionState DIT
  | .turnOn dit timeOut => s.turnOn dit timeOut
  | .turnOff dit => s.turnOff dit
  | .proc =>
    match s.mMsgTask with
    | [] => s
    | msg :: rest => { s with mMsgTask := rest }.procMsg msg

def run (steps : List (ActionStep DIT)) : ActionState DIT :=
  steps.foldl step init

theorem run_snoc (steps : List (ActionStep DIT)) (a : ActionStep DIT) :
    run (steps ++ [a]) = (run steps).step a := List.foldl_concat ..

end ActionState

/-! ## What the framework is to be told -/

/-- The users of a module, and the calls for the first that comes and the last
that goes. -/
structure Switch (DIT : Type*) where
  users : Nat
  calls : List (ActionCall DIT)

/-- A `turnOff` without a user asks for nothing. -/
def Switch.step (id : DIT) (w : Switch DIT) : ActionStep DIT → Switch DIT
  | .turnOn dit timeOut =>
    if dit = id then
      { users := w.users + 1
        calls := if w.users = 0 then w.calls ++ [.turnOn dit timeOut]
          else w.calls }
    else w
  | .turnOff dit =>
    if dit = id then
      { users := w.users - 1
        calls := if w.users = 1 then w.calls ++ [.turnOff dit]
          else w.calls }
    else w
  | .proc => w

def switch (id : DIT) (steps : List (ActionStep DIT)) : Switch DIT :=
  steps.foldl (Switch.step id) ⟨0, []⟩

/-- The framework has been told of the module what its users ask for. -/
def Switches (steps : List (ActionStep DIT)) (id : DIT) : Prop :=
  (ActionState.run steps).calls.filter (·.dit = id) = (switch id steps).calls

/-! ## What the framework is told -/

namespace ActionState

/-- No message asks the framework to turn a module on, and it has not been
told to. -/
structure OffOnly (s : ActionState DIT) : Prop where
  msgs : ∀ dit timeOut, .handleTurnOn .framework dit timeOut ∉ s.mMsgTask
  calls : ∀ dit timeOut, .turnOn dit timeOut ∉ s.calls

/-- The module has no users, and nothing is told or to be told of it. -/
structure Idle (s : ActionState DIT) (id : DIT) : Prop where
  count : s.mActiveRequestCount[id]? = none
  msgs : ∀ msg ∈ s.mMsgTask, msg.dit ≠ id
  calls : ∀ call ∈ s.calls, call.dit ≠ id

variable {s : ActionState DIT} {id : DIT}

theorem OffOnly.turnOn (h : s.OffOnly) (dit : DIT) (timeOut : Int) :
    (s.turnOn dit timeOut).OffOnly := by
  rw [ActionState.turnOn]
  split
  · refine ⟨fun dit' timeOut' hmem => ?_, h.calls⟩
    obtain hmem | hmem := List.mem_append.mp hmem
    · exact h.msgs dit' timeOut' hmem
    · simp at hmem
  · exact ⟨h.msgs, h.calls⟩

theorem OffOnly.turnOff (h : s.OffOnly) (dit : DIT) :
    (s.turnOff dit).OffOnly := by
  rw [ActionState.turnOff]
  split
  · exact h
  · split
    · refine ⟨fun dit' timeOut' hmem => ?_, h.calls⟩
      obtain hmem | hmem := List.mem_append.mp hmem
      · exact h.msgs dit' timeOut' hmem
      · simp at hmem
    · exact ⟨h.msgs, h.calls⟩

theorem OffOnly.step (h : s.OffOnly) (a : ActionStep DIT) :
    (s.step a).OffOnly := by
  cases a with
  | turnOn dit timeOut => exact h.turnOn dit timeOut
  | turnOff dit => exact h.turnOff dit
  | proc =>
    rw [ActionState.step]
    split
    · exact h
    · next msg rest hcons =>
        have hrest : OffOnly { s with mMsgTask := rest } := by
          refine ⟨fun dit timeOut hmem => ?_, h.calls⟩
          exact h.msgs dit timeOut (hcons ▸ List.mem_cons_of_mem _ hmem)
        cases msg with
        | handleTurnOn obj dit timeOut =>
          cases obj with
          | observer => exact hrest.turnOn dit timeOut
          | framework =>
            -- no such message has been posted
            refine absurd ?_ (h.msgs dit timeOut)
            exact hcons ▸ List.mem_cons_self
        | handleTurnOff obj dit =>
          cases obj with
          | observer => exact hrest.turnOff dit
          | framework =>
            refine ⟨hrest.msgs, fun dit' timeOut hmem => ?_⟩
            obtain hmem | hmem := List.mem_append.mp hmem
            · exact h.calls dit' timeOut hmem
            · simp at hmem

theorem run_offOnly (steps : List (ActionStep DIT)) :
    (run steps).OffOnly := by
  induction steps using List.reverseRecOn with
  | nil => exact ⟨nofun, nofun⟩
  | append_singleton steps a ih =>
    rw [run_snoc]
    exact ih.step a

theorem Idle.turnOn (h : s.Idle id) {dit : DIT} (hne : dit ≠ id)
    (timeOut : Int) : (s.turnOn dit timeOut).Idle id := by
  have hcount : ∀ refs, (s.mActiveRequestCount.insert dit refs)[id]? = none := by
    intro refs
    simp [TreeMap.getElem?_insert, hne, h.count]
  rw [ActionState.turnOn]
  split
  · refine ⟨hcount 1, fun msg hmem => ?_, h.calls⟩
    obtain hmem | hmem := List.mem_append.mp hmem
    · exact h.msgs msg hmem
    · rw [List.mem_singleton.mp hmem]
      exact hne
  · exact ⟨hcount _, h.msgs, h.calls⟩

theorem Idle.turnOff (h : s.Idle id) (dit : DIT) :
    (s.turnOff dit).Idle id := by
  rw [ActionState.turnOff]
  split
  · exact h
  · next refs hsome =>
      have hne : dit ≠ id := by
        intro heq
        rw [heq, h.count] at hsome
        cases hsome
      split
      · refine ⟨?_, fun msg hmem => ?_, h.calls⟩
        · simp [TreeMap.getElem?_erase, h.count]
        · obtain hmem | hmem := List.mem_append.mp hmem
          · exact h.msgs msg hmem
          · rw [List.mem_singleton.mp hmem]
            exact hne
      · refine ⟨?_, h.msgs, h.calls⟩
        simp [TreeMap.getElem?_insert, hne, h.count]

theorem Idle.call (h : s.Idle id) {call : ActionCall DIT}
    (hne : call.dit ≠ id) :
    Idle { s with calls := s.calls ++ [call] } id := by
  refine ⟨h.count, h.msgs, fun call' hmem => ?_⟩
  obtain hmem | hmem := List.mem_append.mp hmem
  · exact h.calls call' hmem
  · rw [List.mem_singleton.mp hmem]
    exact hne

theorem Idle.step (h : s.Idle id) {a : ActionStep DIT}
    (ha : ∀ timeOut, a ≠ .turnOn id timeOut) : (s.step a).Idle id := by
  cases a with
  | turnOn dit timeOut =>
    exact h.turnOn (fun heq => ha timeOut (heq ▸ rfl)) timeOut
  | turnOff dit => exact h.turnOff dit
  | proc =>
    rw [ActionState.step]
    split
    · exact h
    · next msg rest hcons =>
        have hne : msg.dit ≠ id :=
          h.msgs msg (hcons ▸ List.mem_cons_self)
        have hrest : Idle { s with mMsgTask := rest } id := by
          refine ⟨h.count, fun msg' hmem => ?_, h.calls⟩
          exact h.msgs msg' (hcons ▸ List.mem_cons_of_mem _ hmem)
        cases msg with
        | handleTurnOn obj dit timeOut =>
          cases obj with
          | observer => exact hrest.turnOn hne timeOut
          | framework => exact hrest.call hne
        | handleTurnOff obj dit =>
          cases obj with
          | observer => exact hrest.turnOff dit
          | framework => exact hrest.call hne

theorem run_idle {steps : List (ActionStep DIT)}
    (h : ∀ timeOut, .turnOn id timeOut ∉ steps) : (run steps).Idle id := by
  induction steps using List.reverseRecOn with
  | nil => exact ⟨by simp [run, init], nofun, nofun⟩
  | append_singleton steps a ih =>
    rw [run_snoc]
    refine (ih fun timeOut hmem => ?_).step fun timeOut heq => ?_
    · exact h timeOut (List.mem_append_left _ hmem)
    · exact h timeOut (heq ▸ List.mem_append_right _ List.mem_cons_self)

end ActionState

/-! ## What its users ask for -/

theorem switch_snoc (id : DIT) (steps : List (ActionStep DIT))
    (a : ActionStep DIT) :
    switch id (steps ++ [a]) = (switch id steps).step id a :=
  List.foldl_concat ..

theorem switch_eq_nil {id : DIT} {steps : List (ActionStep DIT)}
    (h : ∀ timeOut, .turnOn id timeOut ∉ steps) :
    switch id steps = ⟨0, []⟩ := by
  induction steps using List.reverseRecOn with
  | nil => rfl
  | append_singleton steps a ih =>
    have ih := ih fun timeOut hmem => h timeOut (List.mem_append_left _ hmem)
    rw [switch_snoc, ih]
    cases a with
    | turnOn dit timeOut =>
      have hne : dit ≠ id := fun heq => h timeOut (by simp [heq])
      rw [Switch.step, if_neg hne]
    | turnOff dit => simp [Switch.step]
    | proc => rfl

theorem mem_switch {id : DIT} {steps : List (ActionStep DIT)}
    (h : ∃ timeOut, .turnOn id timeOut ∈ steps) :
    ∃ timeOut, .turnOn id timeOut ∈ (switch id steps).calls := by
  induction steps using List.reverseRecOn with
  | nil => simp at h
  | append_singleton steps a ih =>
    rw [switch_snoc]
    by_cases hsteps : ∃ timeOut, .turnOn id timeOut ∈ steps
    · obtain ⟨timeOut, hmem⟩ := ih hsteps
      refine ⟨timeOut, ?_⟩
      cases a with
      | turnOn dit timeOut' =>
        rw [Switch.step]
        split
        · dsimp only
          split
          · exact List.mem_append_left _ hmem
          · exact hmem
        · exact hmem
      | turnOff dit =>
        rw [Switch.step]
        split
        · dsimp only
          split
          · exact List.mem_append_left _ hmem
          · exact hmem
        · exact hmem
      | proc => exact hmem
    · have hnil : switch id steps = ⟨0, []⟩ :=
        switch_eq_nil fun timeOut hmem => hsteps ⟨timeOut, hmem⟩
      obtain ⟨timeOut, hmem⟩ := h
      obtain hmem | hmem := List.mem_append.mp hmem
      · exact absurd ⟨timeOut, hmem⟩ hsteps
      · rw [← List.mem_singleton.mp hmem, hnil]
        exact ⟨timeOut, by simp [Switch.step]⟩

/-- The framework is told of a module what its users ask for just if nobody
ever turns it on. -/
theorem run_switches_iff (steps : List (ActionStep DIT)) (id : DIT) :
    Switches steps id ↔ ∀ timeOut, .turnOn id timeOut ∉ steps := by
  constructor
  · intro hcalls timeOut hmem
    obtain ⟨timeOut', hcall⟩ := mem_switch ⟨timeOut, hmem⟩
    rw [← hcalls, List.mem_filter] at hcall
    exact (ActionState.run_offOnly steps).calls id timeOut' hcall.1
  · intro hnone
    have hidle := ActionState.run_idle hnone
    rw [Switches, switch_eq_nil hnone, List.filter_eq_nil_iff]
    intro call hcall heq
    exact hidle.calls call hcall (of_decide_eq_true heq)

/-- The first user of a module comes, its message is processed, and the
framework has not been called. -/
theorem turnOn_lost :
    let steps : List (ActionStep Nat) := [.turnOn 5 0, .proc]
    (ActionState.run steps).mMsgTask = [] ∧ ¬ Switches steps 5 := by
  unfold Switches
  decide

end Axon7.OsObserver
