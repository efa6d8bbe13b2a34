import Mathlib

/-!
# A setting kept on two sides

A host sets a value on a device and keeps it, encoded, so as not to send the
same again. The device may forget what it was sent; the host then sends what it
decodes from its copy. Until a value has been accepted the device has what the
copy decodes to. What remains to be seen is when it has the value accepted last:
encoding may lose something.
-/

namespace Axon7.Lib

/-- How the host keeps a value, and what it sends for it after a reset. -/
structure Codec (V C : Type*) where
  encode : V → C
  decode : C → V

/-- The copy, the value on the device, and the value accepted last. -/
structure Setting (V C : Type*) where
  cache : C
  device : V
  accepted : Option V

namespace Setting

variable {V C : Type*} {codec : Codec V C} {s : Setting V C}

/-- A value is set, unless it is encoded like the one kept. -/
def update [DecidableEq C] (codec : Codec V C) (v : V) (s : Setting V C) : Setting V C :=
  if codec.encode v ≠ s.cache then ⟨codec.encode v, v, some v⟩
  else { s with accepted := some v }

/-- The device is reset. -/
def reset (codec : Codec V C) (s : Setting V C) : Setting V C :=
  { s with device := codec.decode s.cache }

/-- The copy is of the value accepted last, and before there is one the device
has what the copy says. -/
structure Sound (codec : Codec V C) (s : Setting V C) : Prop where
  cache : ∀ v, s.accepted = some v → s.cache = codec.encode v
  device : s.accepted = none → s.device = codec.decode s.cache

/-- The device has the value accepted last. -/
def Kept (s : Setting V C) : Prop := ∀ v, s.accepted = some v → s.device = v

theorem update_sound [DecidableEq C] (codec : Codec V C) (v : V)
    (s : Setting V C) : (s.update codec v).Sound codec := by
  rw [Setting.update]
  split
  · exact ⟨fun w hw => by rw [Option.some.inj hw], nofun⟩
  · next hsame =>
      rw [ne_eq, not_not] at hsame
      exact ⟨fun w hw => by rw [← Option.some.inj hw, hsame], nofun⟩

theorem Sound.reset (h : s.Sound codec) : (s.reset codec).Sound codec :=
  ⟨h.cache, fun _ => rfl⟩

theorem Sound.update_kept_iff [DecidableEq C] (h : s.Sound codec)
    (hkept : s.Kept) (v : V) :
    (s.update codec v).Kept ↔ (codec.encode v = s.cache →
      v = s.accepted.getD (codec.decode s.cache)) := by
  have hdevice : s.device = s.accepted.getD (codec.decode s.cache) := by
    cases haccepted : s.accepted with
    | none => exact h.device haccepted
    | some w => exact hkept w haccepted
  rw [Setting.update]
  split
  · next hnew =>
      refine ⟨fun _ hsame => absurd hsame hnew, fun _ w hw => ?_⟩
      exact Option.some.inj hw
  · next hsame =>
      rw [ne_eq, not_not] at hsame
      rw [← hdevice]
      constructor
      · intro hall _
        exact (hall v rfl).symm
      · intro heq w hw
        rw [← Option.some.inj hw, heq hsame]

theorem Sound.reset_kept_iff (h : s.Sound codec) : (s.reset codec).Kept ↔
    ∀ v, s.accepted = some v → codec.decode (codec.encode v) = v := by
  refine forall_congr' fun v => imp_congr_right fun hv => ?_
  show codec.decode s.cache = v ↔ _
  rw [h.cache v hv]

theorem Sound.kept_of_lossless [DecidableEq C] (h : s.Sound codec)
    (hkept : s.Kept) (hcodec : ∀ v, codec.decode (codec.encode v) = v) (v : V) :
    (s.update codec v).Kept ∧ (s.reset codec).Kept := by
  refine ⟨(h.update_kept_iff hkept v).mpr fun hsame => ?_,
    h.reset_kept_iff.mpr fun v _ => hcodec v⟩
  cases haccepted : s.accepted with
  | none =>
    rw [Option.getD_none, ← hsame]
    exact (hcodec v).symm
  | some w =>
    have hencode : codec.encode v = codec.encode w :=
      hsame.trans (h.cache w haccepted)
    rw [Option.getD_some, ← hcodec v, hencode]
    exact hcodec w

end Setting

end Axon7.Lib
