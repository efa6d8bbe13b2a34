import Axon7.Amplifier.Device
import Axon7.Lib.Run

/-!
# No update is lost

The thread waits at a semaphore that says nothing about what has changed. That it does not wait
on an old copy of the state is an invariant of its place: where it is about to wait or to sleep,
its copy is the state, or the semaphore has a count. A call of the framework keeps that because
it posts when it changes the state. The loop takes a count away only to stop, and posts again.

The second part is about the device alone: of two copies one after the other whose devices
differ, the call with the second has set the device.
-/

namespace Axon7.Amplifier

open Lib

variable {w : World}

/-! ## The invariant -/

/-- The copy of the last call that has returned, or the one that the thread begins with. -/
def snapshot : List Call → AmpState
  | [] => {}
  | call :: _ => call.rstate

/-- The amplifier was reinitialised, for the device of the copy. -/
def Call.Reinitialises (call : Call) : Prop := .setDevice call.rstate.device ∈ call.commands

/-- Each call with another device than the copy before it has reinitialised the amplifier. -/
def Reinitialised : List Call → Prop
  | [] => True
  | call :: calls =>
    ((snapshot calls).device ≠ call.rstate.device → call.Reinitialises) ∧ Reinitialised calls

/-- The copy is the state, or the thread will not wait. -/
def World.Fresh (w : World) : Prop := w.rstate = w.state ∨ 0 < w.triggerUpdate

/-- What the thread knows where it is. -/
def World.AtPc (w : World) : Pc → Prop
  | .waiting => w.rstate = snapshot w.calls ∧ w.Fresh
  | .woken => w.rstate = snapshot w.calls
  | .sleeping again commands =>
    again ≠ 0 ∧ w.Fresh ∧
      ((snapshot w.calls).device ≠ w.rstate.device → .setDevice w.rstate.device ∈ commands)
  | .relocking again commands =>
    (again = 0 ∨ w.Fresh) ∧
      ((snapshot w.calls).device ≠ w.rstate.device → .setDevice w.rstate.device ∈ commands)

/-- The invariant. -/
structure World.Inv (w : World) : Prop where
  atPc : w.AtPc w.pc
  reinitialised : Reinitialised w.calls
  control : w.control ≠ .bypass

theorem Setter.post (setter : Setter) (w : World) :
    w.set setter = w ∨ ∃ state, w.set setter =
      { w with state, triggerUpdate := w.triggerUpdate + 1 } := by
  rw [World.set]
  cases setter.apply w.state with
  | none => exact .inl rfl
  | some state => exact .inr ⟨state, rfl⟩

theorem World.Inv.set (h : w.Inv) (setter : Setter) : (w.set setter).Inv := by
  obtain heq | ⟨state, heq⟩ := setter.post w
  · rwa [heq]
  · rw [heq]
    have hfresh : World.Fresh { w with state, triggerUpdate := w.triggerUpdate + 1 } :=
      .inr (Nat.succ_pos _)
    obtain ⟨hpc, hreinit, hcontrol⟩ := h
    refine ⟨?_, hreinit, hcontrol⟩
    generalize w.pc = pc at *
    cases pc with
    | waiting => exact ⟨hpc.1, hfresh⟩
    | woken => exact hpc
    | sleeping again commands => exact ⟨hpc.1, hfresh, hpc.2.2⟩
    | relocking again commands => exact ⟨.inr hfresh, hpc.2⟩

/-- The control mode is not set to bypass. -/
def Step.NoBypass : Step → Prop
  | .setter _ => True
  | .thread _ property => property ≠ 2

theorem switchAmpControlMode_ne {property : Int} (h : property ≠ 2) :
    switchAmpControlMode property ≠ .bypass := by
  rw [switchAmpControlMode, if_neg h]
  split <;> exact nofun

section

variable {commands : List Command} {property : Int}

theorem World.inv_finish (hfresh : w.Fresh) (hreinit : Reinitialised w.calls)
    (hdevice : (snapshot w.calls).device ≠ w.rstate.device → .setDevice w.rstate.device ∈ commands)
    (hcontrol : w.control ≠ .bypass) (hproperty : property ≠ 2) :
    (w.finish commands property).Inv where
  atPc := ⟨rfl, hfresh⟩
  reinitialised := ⟨hdevice, hreinit⟩
  control := by
    rw [World.finish]
    dsimp only
    split
    · exact hcontrol
    · exact switchAmpControlMode_ne hproperty

theorem World.inv_turnOn {again : Nat} (hfresh : again = 0 ∨ w.Fresh)
    (hreinit : Reinitialised w.calls)
    (hdevice : (snapshot w.calls).device ≠ w.rstate.device → .setDevice w.rstate.device ∈ commands)
    (hcontrol : w.control ≠ .bypass) (hproperty : property ≠ 2) (ok : Bool) :
    (w.turnOn again commands ok property).Inv := by
  have hdevice' (command : Command) (h : (snapshot w.calls).device ≠ w.rstate.device) :
      .setDevice w.rstate.device ∈ commands ++ [command] :=
    List.mem_append_left _ (hdevice h)
  rw [World.turnOn]
  by_cases hagain : again = 0
  · -- the count is given back
    rw [if_pos hagain]
    exact inv_finish (.inr (Nat.succ_pos _)) hreinit hdevice hcontrol hproperty
  · have hfresh := hfresh.resolve_left hagain
    rw [if_neg hagain]
    split
    · exact inv_finish hfresh hreinit (hdevice' _) hcontrol hproperty
    · exact ⟨⟨hagain, hfresh, hdevice' _⟩, hreinit, hcontrol⟩

end

theorem ControlMode.setDevice_mem {control : ControlMode} (hcontrol : control ≠ .bypass)
    (rstate : AmpState) :
    .setDevice rstate.device ∈ (control.setAmpState rstate true).1 := by
  cases control with
  | normal =>
    rw [ControlMode.setAmpState, Amplifier.setAmpState]
    cases rstate.needsAmp <;> simp
  | legacy =>
    rw [ControlMode.setAmpState, setAmpStateLegacy]
    cases rstate.needsAmp with
    | false => simp
    | true => cases rstate.inCall <;> simp
  | bypass => exact absurd rfl hcontrol

theorem World.Inv.update (h : w.Inv) (hpc : w.pc = .woken) (ok : Bool) {property : Int}
    (hproperty : property ≠ 2) : (w.update ok property).Inv := by
  have hcopy : w.rstate = snapshot w.calls := by
    have := h.atPc
    rwa [hpc] at this
  set reinitialize := w.reinitialize || w.state.device ≠ w.rstate.device ||
    w.state.reversed ≠ w.rstate.reversed with hre
  set copied : World := { w with triggerUpdate := 0, rstate := w.state, reinitialize } with hcopied
  have hupdate : w.update ok property =
      let told := copied.control.setAmpState copied.rstate reinitialize
      bif told.2 then turnOn copied 1 told.1 ok property else finish copied told.1 property := by
    rw [World.update]
    dsimp only
    split <;> rename_i heq <;> rw [heq] <;> rfl
  have hdevice : (snapshot copied.calls).device ≠ copied.rstate.device →
      .setDevice copied.rstate.device ∈
        (copied.control.setAmpState copied.rstate reinitialize).1 := by
    intro hne
    have hchanged : w.state.device ≠ w.rstate.device := by
      rw [hcopy]
      exact hne.symm
    have htrue : reinitialize = true := by simp [hre, hchanged]
    rw [htrue]
    exact ControlMode.setDevice_mem h.control _
  rw [hupdate]
  generalize copied.control.setAmpState copied.rstate reinitialize = told at *
  obtain ⟨commands, needed⟩ := told
  cases needed with
  | true =>
    have hfresh : 1 = 0 ∨ copied.Fresh := .inr (.inl rfl)
    exact inv_turnOn hfresh h.reinitialised hdevice h.control hproperty ok
  | false =>
    have hfresh : copied.Fresh := .inl rfl
    exact inv_finish hfresh h.reinitialised hdevice h.control hproperty

theorem World.Inv.threadStep (h : w.Inv) (ok : Bool) {property : Int} (hproperty : property ≠ 2) :
    (w.threadStep ok property).Inv := by
  have hat := h.atPc
  rw [World.threadStep]
  cases hpc : w.pc with
  | waiting =>
    rw [hpc] at hat
    dsimp only
    split
    · exact h
    · exact ⟨hat.1, h.reinitialised, h.control⟩
  | woken => exact h.update hpc ok hproperty
  | sleeping again commands =>
    rw [hpc] at hat
    obtain ⟨-, hfresh, hdevice⟩ := hat
    dsimp only
    split
    · exact ⟨⟨.inr hfresh, hdevice⟩, h.reinitialised, h.control⟩
    · exact ⟨⟨.inl rfl, hdevice⟩, h.reinitialised, h.control⟩
  | relocking again commands =>
    rw [hpc] at hat
    exact inv_turnOn hat.1 h.reinitialised hat.2 h.control hproperty ok

theorem World.Inv.step (h : w.Inv) {step : Step} (hstep : step.NoBypass) : (w.step step).Inv := by
  cases step with
  | setter setter => exact h.set setter
  | thread ok property => exact h.threadStep ok hstep

theorem inv_moduleOpen {property : Int} (hproperty : property ≠ 2) : (moduleOpen property).Inv :=
  ⟨⟨rfl, .inl rfl⟩, trivial, switchAmpControlMode_ne hproperty⟩

/-! ## No update is lost -/

theorem Reinitialised.exists {newer older : List Call} (h : Reinitialised (newer ++ older))
    (hne : (snapshot older).device ≠ (snapshot (newer ++ older)).device) :
    ∃ call ∈ newer, call.Reinitialises := by
  induction newer with
  | nil => exact absurd rfl hne
  | cons call newer ih =>
    by_cases hsame : (snapshot (newer ++ older)).device = call.rstate.device
    · obtain ⟨earlier, hmem, hearlier⟩ := ih h.2 (hsame ▸ hne)
      exact ⟨earlier, List.mem_cons_of_mem _ hmem, hearlier⟩
    · exact ⟨call, List.mem_cons_self, h.1 hsame⟩

/-- Where the thread is blocked its last call had the state as it is now, and if some copy before
had another device, that call or one in between has reinitialised the amplifier. -/
theorem run_waiting_upToDate {property : Int} (hproperty : property ≠ 2) (steps : List Step)
    (hsteps : ∀ step ∈ steps, step.NoBypass) :
    let w := (moduleOpen property).run steps
    w.pc = .waiting → w.triggerUpdate = 0 →
      snapshot w.calls = w.state ∧
        ∀ newer older, w.calls = newer ++ older → (snapshot older).device ≠ w.state.device →
          ∃ call ∈ newer, call.Reinitialises := by
  intro w hpc hcount
  have hinv : w.Inv := foldl_invariant World.Inv Step.NoBypass (fun _ _ h hstep => h.step hstep)
    (inv_moduleOpen hproperty) steps hsteps
  have hat := hinv.atPc
  rw [hpc] at hat
  obtain ⟨hcopy, hfresh⟩ := hat
  have hstate : snapshot w.calls = w.state := by
    rw [← hcopy]
    exact hfresh.resolve_right (by omega)
  refine ⟨hstate, fun newer older hcalls hne => ?_⟩
  have hreinit := hinv.reinitialised
  rw [hcalls] at hreinit
  refine hreinit.exists ?_
  rwa [← hcalls, hstate]

theorem run_waiting_upToDate_handset :
    let w := (moduleOpen 0).run [.setter (.setOutputDevices .speaker), .thread true 0,
      .setter (.setOutputDevices .handset), .thread true 0, .thread true 0]
    snapshot w.calls = w.state ∧
      ∀ newer older, w.calls = newer ++ older → (snapshot older).device ≠ w.state.device →
        ∃ call ∈ newer, call.Reinitialises := by
  have hsteps : ∀ step ∈ [Step.setter (.setOutputDevices .speaker), .thread true 0,
      .setter (.setOutputDevices .handset), .thread true 0, .thread true 0], step.NoBypass := by
    simp [Step.NoBypass]
  exact run_waiting_upToDate (by decide) _ hsteps rfl rfl

end Axon7.Amplifier
