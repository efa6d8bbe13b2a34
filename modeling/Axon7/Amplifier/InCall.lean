import Axon7.Amplifier.Device

/-!
# When the amplifier is on

Whether a device is enabled is kept for each device, and streams are counted, but whether there
is a call is one flag that every call of `tfa9890_enable_output_devices` writes. So the flag
tells of the last such call only: a device that is switched off during a call, or another that
is switched on, ends it for the amplifier.
-/

namespace Axon7.Amplifier

/-! ## Calls with an update behind each -/

/-- A call of the framework, and the update of the thread behind it, in which the amplifier can
be turned on. -/
def World.call (w : World) (setter : Setter) : World :=
  ((w.set setter).threadStep true 0).threadStep true 0

/-- Calls from the start on, in the normal control mode. -/
def runCalls (calls : List Setter) : World := calls.foldl World.call (moduleOpen 0)

/-- All that the amplifier was told. -/
def World.told (w : World) : List Command := w.calls.reverse.flatMap Call.commands

/-- The last the amplifier was told is to be on. -/
def World.AmplifierOn (w : World) : Prop := ∃ mode, w.told.getLast? = some (.exSpeakerOn mode true)

/-! ## What the calls amount to -/

/-- The device that a call selects. -/
def Setter.selects : Setter → Option SndDevice
  | .setOutputDevices devices => if devices = .none then none else some devices
  | _ => none

/-- The device that a call switches on or off, if it is routed. -/
def Setter.switches : Setter → Option (SndDevice × Bool)
  | .enableOutputDevices devices enable =>
    if deviceToAmpDevice devices = .default then none else some (devices, enable)
  | _ => none

/-- How many more streams are started behind a call. -/
def Setter.starts : Setter → Int
  | .outputStreamStart => 1
  | .outputStreamStandby => -1
  | _ => 0

/-- The device selected last. -/
def selected (calls : List Setter) : SndDevice :=
  (calls.filterMap Setter.selects).getLast?.getD .none

/-- A device and what it was switched to, of the last call that switched one. -/
def lastSwitch (calls : List Setter) : Option (SndDevice × Bool) :=
  (calls.filterMap Setter.switches).getLast?

/-- Whether a device is enabled: what the last call for it has switched it to. -/
def isEnabled (calls : List Setter) (devices : SndDevice) : Bool :=
  ((calls.filterMap Setter.switches).filter (·.1 = devices)).getLast?.elim false Prod.snd

/-- The streams started that have not gone to standby. -/
def started (calls : List Setter) : Int := (calls.map Setter.starts).sum

/-- The selected device is enabled, and there is a stream, or a device for calls is enabled. -/
def Needed (calls : List Setter) : Prop :=
  isEnabled calls (selected calls) = true ∧
    (0 < started calls ∨ ∃ devices, deviceToCall devices = true ∧ isEnabled calls devices = true)

/-- There is no stream, and a device for calls is enabled, but the last call that switched a
device has not switched on one for calls. -/
def CallMissed (calls : List Setter) : Prop :=
  isEnabled calls (selected calls) = true ∧ started calls = 0 ∧
    (∃ devices, deviceToCall devices = true ∧ isEnabled calls devices = true) ∧
    ¬ ∃ devices, deviceToCall devices = true ∧ lastSwitch calls = some (devices, true)

/-! ## The state behind calls -/

variable {calls : List Setter} {setter : Setter} {w : World}

/-- The state keeps what the calls amount to, and of the calls that switch a device the last. -/
structure AmpState.Follows (s : AmpState) (calls : List Setter) : Prop where
  inDevice : s.inDevice = selected calls
  enableds : s.enableds = isEnabled calls
  streams : s.streams = started calls
  inCall : s.inCall = true ↔
    ∃ devices, deviceToCall devices = true ∧ lastSwitch calls = some (devices, true)

theorem started_concat (calls : List Setter) (setter : Setter) :
    started (calls ++ [setter]) = started calls + setter.starts := by
  simp [started]

theorem selected_concat (calls : List Setter) (setter : Setter) :
    selected (calls ++ [setter]) = setter.selects.getD (selected calls) := by
  cases h : setter.selects <;> simp [selected, List.filterMap_append, h]

theorem lastSwitch_concat (calls : List Setter) (setter : Setter) :
    lastSwitch (calls ++ [setter]) = setter.switches.or (lastSwitch calls) := by
  cases h : setter.switches <;> simp [lastSwitch, List.filterMap_append, h]

theorem isEnabled_concat (calls : List Setter) (setter : Setter) :
    isEnabled (calls ++ [setter]) = match setter.switches with
      | some (devices, enable) => Function.update (isEnabled calls) devices enable
      | none => isEnabled calls := by
  funext devices
  cases h : setter.switches with
  | none => simp [isEnabled, List.filterMap_append, h]
  | some switch =>
    obtain ⟨switched, enable⟩ := switch
    by_cases hsame : devices = switched
    · subst hsame
      simp [isEnabled, List.filterMap_append, h]
    · simp [isEnabled, List.filterMap_append, h, hsame, Ne.symm hsame]

theorem follows_nil : ({} : AmpState).Follows [] where
  inDevice := rfl
  enableds := rfl
  streams := rfl
  inCall := by simp [lastSwitch]

theorem AmpState.Follows.other {s s' : AmpState} (h : s.Follows calls)
    (hselects : setter.selects = none) (hswitches : setter.switches = none)
    (hinDevice : s'.inDevice = s.inDevice) (henableds : s'.enableds = s.enableds)
    (hstreams : s'.streams = s.streams + setter.starts) (hinCall : s'.inCall = s.inCall) :
    s'.Follows (calls ++ [setter]) where
  inDevice := by rw [hinDevice, h.inDevice, selected_concat, hselects, Option.getD_none]
  enableds := by rw [henableds, h.enableds, isEnabled_concat, hswitches]
  streams := by rw [hstreams, h.streams, started_concat]
  inCall := by rw [hinCall, h.inCall, lastSwitch_concat, hswitches, Option.none_or]

theorem AmpState.Follows.apply {s : AmpState} (h : s.Follows calls) (setter : Setter) :
    ((setter.apply s).getD s).Follows (calls ++ [setter]) := by
  cases setter with
  | setOutputDevices devices =>
    by_cases hnone : devices = .none
    · have happly : (Setter.setOutputDevices devices).apply s = none := if_pos hnone
      rw [happly]
      exact h.other (if_pos hnone) rfl rfl rfl (by simp [Setter.starts]) rfl
    · have happly : (Setter.setOutputDevices devices).apply s = some _ := if_neg hnone
      have hselects : (Setter.setOutputDevices devices).selects = some devices := if_neg hnone
      rw [happly]
      refine ⟨?_, ?_, ?_, ?_⟩
      · rw [selected_concat, hselects]
        rfl
      · rw [isEnabled_concat]
        exact h.enableds
      · rw [started_concat]
        exact h.streams.trans (Int.add_zero _).symm
      · rw [lastSwitch_concat]
        exact h.inCall
  | enableOutputDevices devices enable =>
    by_cases hdefault : deviceToAmpDevice devices = .default
    · have happly : (Setter.enableOutputDevices devices enable).apply s = none := if_pos hdefault
      rw [happly]
      exact h.other rfl (if_pos hdefault) rfl rfl (by simp [Setter.starts]) rfl
    · have happly : (Setter.enableOutputDevices devices enable).apply s = some _ :=
        if_neg hdefault
      have hswitches : (Setter.enableOutputDevices devices enable).switches =
        some (devices, enable) := if_neg hdefault
      rw [happly]
      refine ⟨?_, ?_, ?_, ?_⟩
      · rw [selected_concat]
        exact h.inDevice
      · rw [isEnabled_concat, hswitches, ← h.enableds]
        rfl
      · rw [started_concat]
        exact h.streams.trans (Int.add_zero _).symm
      · rw [lastSwitch_concat, hswitches, Option.some_or]
        cases hcall : deviceToCall devices <;> simp [hcall]
  | setMode mode =>
    have happly : ∃ n, (Setter.setMode mode).apply s = some { s with mode := n } := by
      cases mode <;> exact ⟨_, rfl⟩
    obtain ⟨n, happly⟩ := happly
    rw [happly]
    exact h.other rfl rfl rfl rfl (by simp [Setter.starts]) rfl
  | outputStreamStart => exact h.other rfl rfl rfl rfl rfl rfl
  | outputStreamStandby => exact h.other rfl rfl rfl rfl rfl rfl

/-! ## The amplifier behind a call -/

/-- The thread waits and has nothing to do, in the normal control mode. -/
structure World.Idle (w : World) : Prop where
  pc : w.pc = .waiting
  triggerUpdate : w.triggerUpdate = 0
  control : w.control = .normal

theorem idle_moduleOpen : (moduleOpen 0).Idle := ⟨rfl, rfl, rfl⟩

theorem World.Idle.threadStep (h : w.Idle) (ok : Bool) (property : Int) :
    w.threadStep ok property = w := by
  rw [World.threadStep, h.pc]
  exact if_pos h.triggerUpdate

theorem World.Idle.call_some (h : w.Idle) {s : AmpState} (hs : setter.apply w.state = some s) :
    (w.call setter).Idle ∧ (w.call setter).state = s ∧
      ∃ commands, (w.call setter).calls = ⟨s, commands ++
        [if s.needsAmp then .exSpeakerOn s.mode true else .exSpeakerOff]⟩ :: w.calls := by
  obtain ⟨state, triggerUpdate, control, pc, rstate, reinitialize, calls⟩ := w
  obtain ⟨rfl, rfl, rfl⟩ := h
  have hset : World.set ⟨state, 0, .normal, .waiting, rstate, reinitialize, calls⟩ setter =
      ⟨s, 1, .normal, .waiting, rstate, reinitialize, calls⟩ := by
    rw [World.set, hs]
  rw [World.call, hset]
  have hupdate : World.threadStep (World.threadStep ⟨s, 1, .normal, .waiting, rstate, reinitialize,
      calls⟩ true 0) true 0 =
      World.update ⟨s, 0, .normal, .woken, rstate, reinitialize, calls⟩ true 0 := rfl
  rw [hupdate]
  simp only [World.update, ControlMode.setAmpState, Amplifier.setAmpState]
  cases hneeds : s.needsAmp with
  | true =>
    refine ⟨⟨rfl, rfl, ?_⟩, rfl, _, rfl⟩
    exact ite_self _
  | false =>
    refine ⟨⟨rfl, rfl, ?_⟩, rfl, _, rfl⟩
    exact ite_self _

theorem World.amplifierOn_iff {call : Call} {commands : List Command} {command : Command}
    {earlier : List Call} (hcalls : w.calls = call :: earlier)
    (hcommands : call.commands = commands ++ [command]) :
    w.AmplifierOn ↔ ∃ mode, command = .exSpeakerOn mode true := by
  have hlast : w.told.getLast? = some command := by
    rw [World.told, hcalls, List.reverse_cons, List.flatMap_append, List.flatMap_singleton,
      hcommands, ← List.append_assoc, List.getLast?_concat]
  rw [World.AmplifierOn, hlast]
  simp only [Option.some_inj]

theorem runCalls_spec (calls : List Setter) :
    (runCalls calls).Idle ∧ (runCalls calls).state.Follows calls ∧
      ((runCalls calls).AmplifierOn ↔ (runCalls calls).state.needsAmp = true) := by
  induction calls using List.reverseRecOn with
  | nil =>
    refine ⟨idle_moduleOpen, follows_nil, iff_of_false ?_ nofun⟩
    rintro ⟨mode, hmode⟩
    exact absurd hmode nofun
  | append_singleton calls setter ih =>
    obtain ⟨hidle, hfollows, hon⟩ := ih
    have hrun : runCalls (calls ++ [setter]) = (runCalls calls).call setter :=
      List.foldl_concat ..
    have hnext := hfollows.apply setter
    rw [hrun]
    cases hs : setter.apply (runCalls calls).state with
    | none =>
      have hset : (runCalls calls).set setter = runCalls calls := by rw [World.set, hs]
      rw [World.call, hset, hidle.threadStep, hidle.threadStep]
      rw [hs] at hnext
      exact ⟨hidle, hnext, hon⟩
    | some s =>
      obtain ⟨hidle', hstate, commands, hcalls⟩ := hidle.call_some hs
      rw [hs] at hnext
      rw [hstate]
      refine ⟨hidle', hnext, (World.amplifierOn_iff hcalls rfl).trans ?_⟩
      cases s.needsAmp <;> simp

/-! ## When that is right -/

theorem isEnabled_of_lastSwitch {devices : SndDevice} {enable : Bool}
    (h : lastSwitch calls = some (devices, enable)) : isEnabled calls devices = enable := by
  obtain ⟨front, hfront⟩ := List.getLast?_eq_some_iff.1 h
  rw [isEnabled, hfront, List.filter_append]
  simp

theorem and_or_congr_iff {E P L C : Prop} (h : L → C) :
    (E ∧ (P ∨ L) ↔ E ∧ (P ∨ C)) ↔ ¬ (E ∧ ¬ P ∧ C ∧ ¬ L) := by
  tauto

theorem amplifierOn_iff_needed (h : 0 ≤ started calls) :
    ((runCalls calls).AmplifierOn ↔ Needed calls) ↔ ¬ CallMissed calls := by
  obtain ⟨-, hfollows, hon⟩ := runCalls_spec calls
  have hneeds : (runCalls calls).state.needsAmp = true ↔
      isEnabled calls (selected calls) = true ∧ (started calls ≠ 0 ∨
        ∃ devices, deviceToCall devices = true ∧ lastSwitch calls = some (devices, true)) := by
    rw [AmpState.needsAmp, hfollows.inDevice, hfollows.enableds, hfollows.streams]
    simp [hfollows.inCall]
  have hcall : (∃ devices, deviceToCall devices = true ∧ lastSwitch calls = some (devices, true)) →
      ∃ devices, deviceToCall devices = true ∧ isEnabled calls devices = true :=
    fun ⟨devices, hcall, hlast⟩ => ⟨devices, hcall, isEnabled_of_lastSwitch hlast⟩
  have hstarted : started calls ≠ 0 ↔ 0 < started calls := by omega
  have hzero : started calls = 0 ↔ ¬ 0 < started calls := by omega
  rw [hon, hneeds, Needed, CallMissed, hstarted, hzero]
  exact and_or_congr_iff hcall

/-- The amplifier is on exactly while something needs it, if and only if, while no stream is
started and a device for calls is enabled and selected, the last call that switched a device
has switched on one for calls. -/
theorem amplifierOn_iff_needed_run (calls : List Setter)
    (h : ∀ pre, pre <+: calls → 0 ≤ started pre) :
    (∀ pre, pre <+: calls → ((runCalls pre).AmplifierOn ↔ Needed pre)) ↔
      ∀ pre, pre <+: calls → ¬ CallMissed pre :=
  forall₂_congr fun pre hpre => amplifierOn_iff_needed (h pre hpre)

theorem amplifierOn_iff_needed_run_stream :
    (∀ pre, pre <+: [Setter.outputStreamStart, .setOutputDevices .speaker,
        .enableOutputDevices .speaker true] → ((runCalls pre).AmplifierOn ↔ Needed pre)) ↔
      ∀ pre, pre <+: [Setter.outputStreamStart, .setOutputDevices .speaker,
        .enableOutputDevices .speaker true] → ¬ CallMissed pre := by
  refine amplifierOn_iff_needed_run _ fun pre hpre => List.sum_nonneg fun n hn => ?_
  obtain ⟨setter, hmem, rfl⟩ := List.mem_map.1 hn
  have := hpre.subset hmem
  simp only [List.mem_cons, List.not_mem_nil, or_false] at this
  rcases this with rfl | rfl | rfl <;> decide

/-- The amplifier is off for a call on the speaker phone, once the speaker for music, which was
not even on, has been switched off. -/
theorem amplifierOn_voiceSpeaker :
    ¬ ((runCalls [.enableOutputDevices .voiceSpeaker true, .setOutputDevices .voiceSpeaker,
        .enableOutputDevices .speaker false]).AmplifierOn ↔
      Needed [.enableOutputDevices .voiceSpeaker true, .setOutputDevices .voiceSpeaker,
        .enableOutputDevices .speaker false]) := by
  have hneeded : Needed [.enableOutputDevices .voiceSpeaker true, .setOutputDevices .voiceSpeaker,
      .enableOutputDevices .speaker false] :=
    ⟨by decide, .inr ⟨.voiceSpeaker, by decide, by decide⟩⟩
  intro h
  obtain ⟨mode, hmode⟩ := h.2 hneeded
  exact absurd hmode nofun

end Axon7.Amplifier
