import Mathlib

/-!
# The amplifier

The calls of the audio framework change a record of what the speakers are to do, behind a mutex,
and post a semaphore. The thread of `tfa9890_update_amp` waits on the semaphore, copies the
record and drives the amplifier by the copy. While the amplifier cannot be turned on it gives up
the mutex to sleep, and on waking looks at the semaphore itself.

A step here is what is done between two points at which the mutex is free: a whole call of the
framework, or what the thread does up to the next place where it waits, sleeps or locks.
-/

namespace Axon7.Amplifier

/-! ## Devices -/

/-- The device ids below `SND_DEVICE_OUT_VOICE_SPEAKER_AND_VOICE_ANC_FB_HEADSET`: those the two
tables name, `SND_DEVICE_NONE`, and the others. -/
inductive SndDevice
  | none
  | handset
  | speaker
  | speakerReverse
  | speakerVbat
  | speakerAndHeadphones
  | speakerAndLine
  | voiceHandset
  | voiceSpeaker
  | voiceSpeakerVbat
  | voiceSpeaker2
  | voiceSpeaker2Vbat
  | speakerAndHdmi
  | speakerAndDisplayPort
  | speakerAndBtA2dp
  | speakerAndBtSco
  | speakerAndBtScoWb
  | speakerAndUsbHeadset
  | speakerAndAncHeadset
  | speakerAndAncFbHeadset
  | speakerProtected
  | voiceSpeakerProtected
  | voiceSpeaker2Protected
  | speakerProtectedVbat
  | voiceSpeakerProtectedVbat
  | voiceSpeaker2ProtectedVbat
  | speakerWsa
  | voiceSpeakerWsa
  | voiceSpeaker2Wsa
  | speakerProtectedRas
  | speakerProtectedVbatRas
  | voiceSpeakerAndVoiceHeadphones
  | voiceSpeakerAndVoiceAncHeadset
  | other (n : Nat)
  deriving DecidableEq

/-- `DEFAULT`, `STEREO_SPEAKER` and `MONO_SPEAKER`. -/
inductive AmpDevice
  | default
  | stereoSpeaker
  | monoSpeaker
  deriving DecidableEq

/-- The number of an amplifier device. -/
def AmpDevice.num : AmpDevice → Int
  | .default => 0
  | .stereoSpeaker => 1
  | .monoSpeaker => 2

/-- `device_to_amp_device_default`. -/
def deviceToAmpDevice : SndDevice → AmpDevice
  | .none | .other _ => .default
  | .handset | .voiceHandset | .voiceSpeakerWsa | .voiceSpeaker2Wsa
  | .voiceSpeakerAndVoiceHeadphones | .voiceSpeakerAndVoiceAncHeadset => .monoSpeaker
  | _ => .stereoSpeaker

/-- `device_to_call`. -/
def deviceToCall : SndDevice → Bool
  | .handset | .voiceHandset | .voiceSpeaker | .voiceSpeakerVbat | .voiceSpeaker2
  | .voiceSpeaker2Vbat | .voiceSpeakerProtected | .voiceSpeaker2Protected
  | .voiceSpeakerProtectedVbat | .voiceSpeaker2ProtectedVbat | .voiceSpeakerWsa
  | .voiceSpeaker2Wsa | .voiceSpeakerAndVoiceHeadphones | .voiceSpeakerAndVoiceAncHeadset => true
  | _ => false

/-! ## The calls of the framework -/

/-- `tfa9890_state_t`. -/
structure AmpState where
  streams : Int := 0
  inCall : Bool := false
  device : Int := 0
  inDevice : SndDevice := .none
  mode : Int := 0
  reversed : Bool := false
  enabled : Bool := false
  enableds : SndDevice → Bool := fun _ => false

/-- `audio_mode_t`. -/
inductive AudioMode
  | normal
  | ringtone
  | inCall
  | inCommunication
  | other (n : Int)

/-- A call of the framework. -/
inductive Setter
  | setOutputDevices (devices : SndDevice)
  | enableOutputDevices (devices : SndDevice) (enable : Bool)
  | setMode (mode : AudioMode)
  | outputStreamStart
  | outputStreamStandby

/-- `tfa9890_set_output_devices`: the state then, if the semaphore is posted. A device that is
not routed is routed as `STEREO_SPEAKER`. -/
def setOutputDevices (s : AmpState) (devices : SndDevice) : Option AmpState :=
  if devices = .none then none
  else
    let outDevice := deviceToAmpDevice devices
    let outDevice := if outDevice = .default then .stereoSpeaker else outDevice
    some { s with
      device := outDevice.num - 1
      inDevice := devices
      reversed := devices = .speakerReverse }

/-- `tfa9890_enable_output_devices`. -/
def enableOutputDevices (s : AmpState) (devices : SndDevice) (enable : Bool) : Option AmpState :=
  if deviceToAmpDevice devices = .default then none
  else
    some { s with
      inCall := if deviceToCall devices then enable else false
      enableds := Function.update s.enableds devices enable
      enabled := enable }

/-- `tfa9890_set_mode`. -/
def setMode (s : AmpState) (mode : AudioMode) : Option AmpState :=
  match mode with
  | .inCall | .inCommunication => some { s with mode := 1 }
  | _ => some { s with mode := 0 }

/-- `tfa9890_output_stream_start`. -/
def outputStreamStart (s : AmpState) : Option AmpState :=
  some { s with streams := s.streams + 1 }

/-- `tfa9890_output_stream_standby`. -/
def outputStreamStandby (s : AmpState) : Option AmpState :=
  some { s with streams := s.streams - 1 }

/-- What a call does to the state, if it posts the semaphore. -/
def Setter.apply (s : AmpState) : Setter → Option AmpState
  | .setOutputDevices devices => Amplifier.setOutputDevices s devices
  | .enableOutputDevices devices enable => Amplifier.enableOutputDevices s devices enable
  | .setMode mode => Amplifier.setMode s mode
  | .outputStreamStart => Amplifier.outputStreamStart s
  | .outputStreamStandby => Amplifier.outputStreamStandby s

/-! ## What the amplifier is told -/

/-- A call of the library. -/
inductive Command
  | exSpeakerOn (mode : Int) (ok : Bool)
  | exSpeakerOff
  | setDevice (device : Int)
  | setMode (mode : Int)
  | speakerNeeded (needed : Int)
  | stereoSpeakerOn
  | stereoSpeakerOff
  | stereoSpeakerNeeded (left right : Int)
  | speakerOnBypass
  | speakerOffBypass

/-- The function that `set_amp_state` points to. -/
inductive ControlMode
  | normal
  | legacy
  | bypass

/-- `tfa9890_switch_amp_control_mode`, for a value of the property. -/
def switchAmpControlMode (property : Int) : ControlMode :=
  if property = 1 then .legacy else if property = 2 then .bypass else .normal

/-- `rstate.enableds[rstate.in_device] && (rstate.streams || rstate.in_call)`. -/
def AmpState.needsAmp (rstate : AmpState) : Bool :=
  rstate.enableds rstate.inDevice && (rstate.streams ≠ 0 || rstate.inCall)

/-- `tfa9890_set_amp_state` up to its loop: what the amplifier is told, and whether there is the
loop behind it, in which the amplifier is turned on. -/
def setAmpState (rstate : AmpState) ( reinitialize : Bool) : List Command × Bool :=
  let commands := if reinitialize then [.exSpeakerOff, .setDevice rstate.device] else []
  if rstate.needsAmp then (commands, true) else (commands ++ [.exSpeakerOff], false)

/-- `tfa9890_set_amp_state_legacy` up to its loop. -/
def setAmpStateLegacy (rstate : AmpState) ( reinitialize : Bool) : List Command × Bool :=
  let commands :=
    if reinitialize then [.speakerNeeded 0, .stereoSpeakerOff, .setDevice rstate.device] else []
  if rstate.needsAmp then
    if rstate.inCall then (commands ++ [.speakerNeeded 1], true)
    else (commands ++ [.setMode rstate.mode, .speakerNeeded 1, .stereoSpeakerOn], false)
  else (commands ++ [.speakerNeeded 0, .stereoSpeakerOff], false)

/-- `tfa9890_set_amp_state_bypass`. -/
def setAmpStateBypass (rstate : AmpState) : List Command :=
  if rstate.enableds rstate.inDevice then
    [if rstate.inCall then .stereoSpeakerNeeded 1 0 else .stereoSpeakerNeeded 1 1,
      .speakerOnBypass]
  else [.stereoSpeakerNeeded 0 0, .speakerOffBypass]

/-- The call through the pointer. -/
def ControlMode.setAmpState (control : ControlMode) (rstate : AmpState) ( reinitialize : Bool) :
    List Command × Bool :=
  match control with
  | .normal => Amplifier.setAmpState rstate reinitialize
  | .legacy => setAmpStateLegacy rstate reinitialize
  | .bypass => (setAmpStateBypass rstate, false)

/-! ## The thread -/

/-- Where the thread is: at the semaphore, behind it and before the lock, in the sleep of the
loop, and before the lock behind the sleep. In the loop it has told the amplifier something
already. -/
inductive Pc
  | waiting
  | woken
  | sleeping (again : Nat) (commands : List Command)
  | relocking (again : Nat) (commands : List Command)

/-- A call of `set_amp_state` that has returned. -/
structure Call where
  rstate : AmpState
  commands : List Command

/-- The device, the thread with its variables, and its calls of `set_amp_state`, the last in
front. -/
structure World where
  state : AmpState
  triggerUpdate : Nat
  control : ControlMode
  pc : Pc
  rstate : AmpState
  reinitialize : Bool
  calls : List Call

/-- `tfa9890_module_open`. -/
def moduleOpen (property : Int) : World where
  state := {}
  triggerUpdate := 0
  control := switchAmpControlMode property
  pc := .waiting
  rstate := {}
  reinitialize := true
  calls := []

/-- A step: a call of the framework, or a step of the thread. With it comes whether the amplifier
can be turned on, and the value of the property. -/
inductive Step
  | setter (setter : Setter)
  | thread (ok : Bool) (property : Int)

namespace World

/-- A call of the framework. -/
def set (w : World) (setter : Setter) : World :=
  match setter.apply w.state with
  | some state => { w with state, triggerUpdate := w.triggerUpdate + 1 }
  | none => w

/-- What the thread does when `set_amp_state` returns. -/
def finish (w : World) (commands : List Command) (property : Int) : World :=
  { w with
    control :=
      if w.rstate.enableds w.rstate.inDevice then w.control else switchAmpControlMode property
    pc := .waiting
    reinitialize := false
    calls := ⟨w.rstate, commands⟩ :: w.calls }

/-- The head of the loop in `set_amp_state`, up to the next sleep. -/
def turnOn (w : World) (again : Nat) (commands : List Command) (ok : Bool) (property : Int) :
    World :=
  if again = 0 then finish { w with triggerUpdate := w.triggerUpdate + 1 } commands property
  else if ok then finish w (commands ++ [.exSpeakerOn w.rstate.mode true]) property
  else { w with pc := .sleeping again (commands ++ [.exSpeakerOn w.rstate.mode false]) }

/-- What the thread does behind the lock: it drains the semaphore, copies the state and calls
`set_amp_state`. -/
def update (w : World) (ok : Bool) (property : Int) : World :=
  let reinitialize := w.reinitialize || w.state.device ≠ w.rstate.device ||
    w.state.reversed ≠ w.rstate.reversed
  let w := { w with triggerUpdate := 0, rstate := w.state, reinitialize }
  match w.control.setAmpState w.rstate reinitialize with
  | (commands, true) => turnOn w 1 commands ok property
  | (commands, false) => finish w commands property

/-- A step of the thread of `tfa9890_update_amp`. At the semaphore it stays if the count is
zero. -/
def threadStep (w : World) (ok : Bool) (property : Int) : World :=
  match w.pc with
  | .waiting =>
    if w.triggerUpdate = 0 then w
    else { w with triggerUpdate := w.triggerUpdate - 1, pc := .woken }
  | .woken => update w ok property
  | .sleeping again commands =>
    if w.triggerUpdate = 0 then { w with pc := .relocking (again + 1) commands }
    else { w with triggerUpdate := w.triggerUpdate - 1, pc := .relocking 0 commands }
  | .relocking again commands => turnOn w again commands ok property

/-- One step. -/
def step (w : World) : Step → World
  | .setter setter => w.set setter
  | .thread ok property => w.threadStep ok property

/-- Steps one after the other. -/
def run (w : World) (steps : List Step) : World := steps.foldl step w

end World

end Axon7.Amplifier
