import Axon7.Nmea.Gsv

/-!
# Which satellites a position has used

A position report may carry masks of the satellites it has used; the adapter keeps them for the
next satellite report, marks the satellites that are in them, and gives them up. The mark is
looked for with a shift of an `int` in a mask of 64 bits: the satellite 32 shifts into the sign,
those beyond it shift the bit out, and a mark that is there already is never taken away.

The callbacks of the clients and the NMEA sentences are left out: they get the satellites as
they are marked.
-/

namespace Axon7.Gnss

open Lib
open Nmea (GnssSvType MarkedSv constellations usedInFixBit)

/-! ## The reports -/

/-- `loc_sess_status`. -/
inductive LocSessStatus
  | success
  | intermediate
  | failure
  deriving DecidableEq

/-- `GnssSvUsedInPosition`. -/
structure GnssSvUsedInPosition where
  gpsSvUsedIdsMask : BitVec 64
  gloSvUsedIdsMask : BitVec 64
  galSvUsedIdsMask : BitVec 64
  bdsSvUsedIdsMask : BitVec 64
  qzssSvUsedIdsMask : BitVec 64
  deriving DecidableEq

/-- `mGps_conf`, as far as position reports depend on it. -/
structure PosConf where
  intermediatePos : BitVec 32
  accuracyThres : BitVec 32

/-- What `reportPosition` is given. Accuracy and masks are there or not. -/
structure PositionReport where
  status : LocSessStatus
  techMask : BitVec 32
  accuracy : Option ℚ
  gnssSvUsedIds : Option GnssSvUsedInPosition

/-- `mGnssSvIdUsedInPosition`, and whether it is from a position of late. -/
structure SvUsed where
  gnssSvIdUsedInPosition : GnssSvUsedInPosition := ⟨0, 0, 0, 0, 0⟩
  gnssSvIdUsedInPosAvail : Bool := false

/-- The technologies of satellites, sensors and both. -/
def satelliteTech : BitVec 32 := 0x1 ||| 0x8 ||| 0x80

/-- A position is reported if it is final and from satellites or sensors, or if intermediate
ones are wanted and it is accurate enough. -/
def PositionReport.reported (conf : PosConf) (report : PositionReport) : Bool :=
  (report.status = .success ∧ satelliteTech &&& report.techMask ≠ 0) ∨
    (conf.intermediatePos = 1 ∧
      ¬ ∃ accuracy ∈ report.accuracy, conf.accuracyThres ≠ 0 ∧
        (conf.accuracyThres.toNat : ℚ) < accuracy)

/-- `reportPosition`. -/
def SvUsed.reportPosition (conf : PosConf) (s : SvUsed) (report : PositionReport) : SvUsed :=
  if report.reported conf then
    match report.gnssSvUsedIds with
    | some ids => { gnssSvIdUsedInPosition := ids, gnssSvIdUsedInPosAvail := true }
    | none => s
  else s

/-- The mask of a constellation. -/
def GnssSvUsedInPosition.of (ids : GnssSvUsedInPosition) : GnssSvType → BitVec 64
  | .gps => ids.gpsSvUsedIdsMask
  | .glonass => ids.gloSvUsedIdsMask
  | .beidou => ids.bdsSvUsedIdsMask
  | .galileo => ids.galSvUsedIdsMask
  | .qzss => ids.qzssSvUsedIdsMask
  | _ => 0

/-- `svUsedIdMask`. -/
def SvUsed.svUsedIdMask (s : SvUsed) (type : GnssSvType) : BitVec 64 :=
  if s.gnssSvIdUsedInPosAvail then s.gnssSvIdUsedInPosition.of type else 0

/-- One turn of the loop of `reportSv`. The ids of QZSS are told as the framework expects
them. -/
def SvUsed.markSv (undefined : ℤ → BitVec 32) (s : SvUsed) (sv : MarkedSv) : MarkedSv :=
  let gnssSvId := sv.svId.toNat.toInt16.toInt
  let svId := if sv.type = .qzss then sv.svId + 192 else sv.svId
  if s.svUsedIdMask sv.type &&& (shiftOne undefined (gnssSvId - 1)).signExtend 64 ≠ 0 then
    { sv with svId, gnssSvOptionsMask := sv.gnssSvOptionsMask ||| usedInFixBit }
  else { sv with svId }

/-- `reportSv`: the satellites that are told, and what is kept. -/
def SvUsed.reportSv (undefined : ℤ → BitVec 32) (s : SvUsed) (svs : List MarkedSv) :
    SvUsed × List MarkedSv :=
  ({ s with gnssSvIdUsedInPosAvail := false }, svs.map (s.markSv undefined))

/-- A report of either kind. -/
inductive Report
  | position (report : PositionReport)
  | sv (svs : List MarkedSv)

def SvUsed.step (undefined : ℤ → BitVec 32) (conf : PosConf) (s : SvUsed) : Report → SvUsed
  | .position report => s.reportPosition conf report
  | .sv svs => (s.reportSv undefined svs).1

/-- The adapter after reports. -/
def SvUsed.run (undefined : ℤ → BitVec 32) (conf : PosConf) (reports : List Report) : SvUsed :=
  reports.foldl (SvUsed.step undefined conf) {}

end Axon7.Gnss

/-!
# Whether the marks are right

After a position with masks a satellite should be marked if it is in them and else not; with no
position since the last report none should be. Up to the satellite 31 the mark that is set is
the right one, and what remains is the mark that was there. The satellite 32 is looked for in
all the bits from its own on, and what a satellite beyond it is looked for in is undefined.
-/

namespace Axon7.Gnss

open Lib
open Nmea (GnssSvType MarkedSv constellations usedInFixBit)

/-! ## The statement -/

/-- The satellite has the mark. -/
def Used (sv : MarkedSv) : Prop := sv.gnssSvOptionsMask &&& usedInFixBit = usedInFixBit

/-- The masks of the last position that was reported with masks, if no satellites were reported
after it. -/
def lastIds (conf : PosConf) (reports : List Report) : Option GnssSvUsedInPosition :=
  reports.foldl (fun last report =>
    match report with
    | .position report => if report.reported conf then report.gnssSvUsedIds.or last else last
    | .sv _ => none) none

/-- The satellite is marked as it should be. What becomes of a satellite that is not of the
five constellations, or not from 1 to 64, is not said. -/
def Right (last : Option GnssSvUsedInPosition) (sv told : MarkedSv) : Prop :=
  match last with
  | none => ¬ Used told
  | some ids =>
    sv.type ∈ constellations → 1 ≤ sv.svId.toNat → sv.svId.toNat ≤ 64 →
      (Used told ↔ (ids.of sv.type).getLsbD (sv.svId.toNat - 1) = true)

/-- Nothing undefined or left over decides about the satellite. -/
def Decided (last : Option GnssSvUsedInPosition) (sv : MarkedSv) : Prop :=
  match last with
  | none => ¬ Used sv
  | some ids =>
    sv.type ∈ constellations → 1 ≤ sv.svId.toNat → sv.svId.toNat ≤ 64 →
      let mask := ids.of sv.type
      if sv.svId.toNat < 32 then Used sv → mask.getLsbD (sv.svId.toNat - 1) = true
      else if sv.svId.toNat = 32 then
        mask.getLsbD 31 = true ∨ mask >>> 31 = 0 ∧ ¬ Used sv
      else mask.getLsbD (sv.svId.toNat - 1) = true ∧ Used sv ∨ mask = 0 ∧ ¬ Used sv

/-! ## What is kept -/

section

variable {undefined : ℤ → BitVec 32} {conf : PosConf} {reports : List Report}

theorem run_keeps (undefined : ℤ → BitVec 32) (conf : PosConf) (reports : List Report) :
    (SvUsed.run undefined conf reports).gnssSvIdUsedInPosAvail =
      (lastIds conf reports).isSome ∧
    ∀ ids, lastIds conf reports = some ids →
      (SvUsed.run undefined conf reports).gnssSvIdUsedInPosition = ids := by
  induction reports using List.reverseRecOn with
  | nil => exact ⟨rfl, fun _ h => absurd h (by simp [lastIds])⟩
  | append_singleton reports report ih =>
    obtain ⟨havail, hids⟩ := ih
    rw [SvUsed.run, lastIds, List.foldl_append, List.foldl_append, ← SvUsed.run, ← lastIds]
    rcases report with report | svs
    · simp only [List.foldl_cons, List.foldl_nil, SvUsed.step, SvUsed.reportPosition]
      split
      · rcases report.gnssSvUsedIds with _ | ids
        · exact ⟨havail, hids⟩
        · exact ⟨rfl, fun _ h => Option.some.inj h⟩
      · exact ⟨havail, hids⟩
    · exact ⟨rfl, fun _ h => absurd h (by simp)⟩

theorem svUsedIdMask_run (undefined : ℤ → BitVec 32) (type : GnssSvType) :
    (SvUsed.run undefined conf reports).svUsedIdMask type =
      (lastIds conf reports).elim 0 (·.of type) := by
  obtain ⟨havail, hids⟩ := run_keeps undefined conf reports
  rw [SvUsed.svUsedIdMask, havail]
  cases hlast : lastIds conf reports with
  | none => rfl
  | some ids => rw [hids ids hlast]; rfl

/-! ## What is set -/

variable {s : SvUsed} {sv : MarkedSv}

theorem used_or (mask : BitVec 16) :
    (mask ||| usedInFixBit) &&& usedInFixBit = usedInFixBit := by
  refine BitVec.eq_of_getLsbD_eq fun i _ => ?_
  rw [BitVec.getLsbD_and, BitVec.getLsbD_or]
  cases mask.getLsbD i <;> cases usedInFixBit.getLsbD i <;> rfl

theorem used_markSv : Used (s.markSv undefined sv) ↔ Used sv ∨
    s.svUsedIdMask sv.type &&&
      (shiftOne undefined (sv.svId.toNat.toInt16.toInt - 1)).signExtend 64 ≠ 0 := by
  rw [SvUsed.markSv]
  split
  next htest => simp only [Used, used_or, htest, not_false_eq_true, or_true, ne_eq]
  next htest => simp only [Used, htest, or_false]

theorem toInt_svId {n : ℕ} (h : n ≤ 64) : n.toInt16.toInt = n := by
  change (Int16.ofNat n).toInt = n
  rw [Int16.toInt_ofNat_of_lt (by omega)]

theorem test_low (mask : BitVec 64) {n : ℕ} (hn : n < 31) :
    mask &&& (shiftOne undefined n).signExtend 64 ≠ 0 ↔ mask.getLsbD n = true := by
  rw [and_ne_zero_iff]
  simp only [getLsbD_signExtend_shiftOne undefined (show n < 32 by omega)]
  constructor
  · intro h
    obtain ⟨i, hmask, hi⟩ := h
    have : n = i := by
      simp only [Bool.and_eq_true, Bool.or_eq_true, decide_eq_true_eq] at hi
      omega
    rwa [this]
  · intro h
    refine ⟨n, h, ?_⟩
    have : n < 64 := by omega
    simp [this]

theorem ushiftRight_ne_zero {mask : BitVec 64} {i k : ℕ} (hle : k ≤ i)
    (h : mask.getLsbD i = true) : mask >>> k ≠ 0 := by
  intro hzero
  have hbit := congrArg (·.getLsbD (i - k)) hzero
  simp only [BitVec.getLsbD_ushiftRight, Nat.add_sub_cancel' hle, h] at hbit
  simp at hbit

theorem test_sign (mask : BitVec 64) :
    mask &&& (shiftOne undefined (31 : ℕ)).signExtend 64 ≠ 0 ↔ mask >>> 31 ≠ 0 := by
  rw [and_ne_zero_iff]
  simp only [getLsbD_signExtend_shiftOne undefined (show 31 < 32 by omega)]
  constructor
  · intro h hzero
    obtain ⟨i, hmask, hi⟩ := h
    have hle : 31 ≤ i := by
      simp only [Bool.and_eq_true, Bool.or_eq_true, decide_eq_true_eq] at hi
      omega
    exact ushiftRight_ne_zero hle hmask hzero
  · intro h
    by_contra hnone
    push Not at hnone
    refine h (BitVec.eq_of_getLsbD_eq fun i _ => ?_)
    rw [BitVec.getLsbD_ushiftRight]
    rcases hbit : mask.getLsbD (31 + i) with _ | _
    · exact BitVec.getLsbD_zero.symm
    · have hlt := BitVec.lt_of_getLsbD hbit
      exact absurd (by simp [hlt]) (hnone (31 + i) hbit)

theorem test_undefined (mask : BitVec 64) {n : ℕ} (hn : 32 ≤ n) (p q : Prop) :
    (∀ undefined, (p ∨ mask &&& (shiftOne undefined n).signExtend 64 ≠ 0) ↔ q) ↔
      q ∧ p ∨ ¬ q ∧ mask = 0 ∧ ¬ p := by
  have hout : ∀ undefined, shiftOne undefined (n : ℤ) = undefined n := fun undefined => by
    rw [shiftOne, if_neg (by omega)]
  constructor
  · intro h
    have hnothing := h fun _ => 0
    have hall := h fun _ => BitVec.allOnes 32
    rw [hout] at hnothing hall
    have hnothing : p ↔ q := by simpa using hnothing
    have hones : (BitVec.allOnes 32).signExtend 64 = BitVec.allOnes 64 := by decide
    rw [hones, BitVec.and_allOnes] at hall
    tauto
  · intro h undefined
    rcases h with ⟨hq, hp⟩ | ⟨hq, hzero, hp⟩
    · exact ⟨fun _ => hq, fun _ => Or.inl hp⟩
    · simp [hzero, hp, hq]

theorem right_iff {last : Option GnssSvUsedInPosition} {states : (ℤ → BitVec 32) → SvUsed}
    (hstates : ∀ undefined type, (states undefined).svUsedIdMask type = last.elim 0 (·.of type)) :
    (∀ undefined, Right last sv ((states undefined).markSv undefined sv)) ↔ Decided last sv := by
  cases last with
  | none =>
    have hnone : ∀ word : BitVec 64, 0 &&& word = 0 := fun _ => BitVec.zero_and
    simp only [Right, Decided, used_markSv, hstates, Option.elim_none, hnone, ne_eq,
      not_true_eq_false, or_false]
    exact ⟨fun h => h fun _ => 0, fun h _ => h⟩
  | some ids =>
    simp only [Right, Decided, used_markSv, hstates, Option.elim_some]
    by_cases htype : sv.type ∈ constellations
    swap
    · simp [htype]
    by_cases hrange : 1 ≤ sv.svId.toNat ∧ sv.svId.toNat ≤ 64
    swap
    · constructor
      · intro _ _ hpos hle
        exact absurd ⟨hpos, hle⟩ hrange
      · intro _ _ _ hpos hle
        exact absurd ⟨hpos, hle⟩ hrange
    obtain ⟨hpos, hle⟩ := hrange
    simp only [htype, hpos, hle, true_implies, toInt_svId hle]
    obtain ⟨n, hn⟩ : ∃ n, sv.svId.toNat = n + 1 := ⟨sv.svId.toNat - 1, by omega⟩
    rw [hn, Nat.add_sub_cancel, show ((n + 1 : ℕ) : ℤ) - 1 = n by omega]
    rcases lt_trichotomy n 31 with hlow | rfl | hhigh
    · rw [if_pos (by omega)]
      simp only [test_low _ hlow]
      constructor
      · intro h hused
        exact (h fun _ => 0).1 (Or.inl hused)
      · intro h _
        exact ⟨fun hor => hor.elim h id, Or.inr⟩
    · rw [if_neg (by omega), if_pos rfl]
      simp only [test_sign]
      have hbit : (ids.of sv.type).getLsbD 31 = true → ids.of sv.type >>> 31 ≠ 0 :=
        ushiftRight_ne_zero (Nat.le_refl 31)
      constructor
      · intro h
        have := h fun _ => 0
        tauto
      · intro h _
        tauto
    · rw [if_neg (by omega), if_neg (by omega), test_undefined _ (by omega)]
      constructor
      · intro h
        tauto
      · intro h
        rcases h with h | ⟨hzero, hused⟩
        · exact Or.inl h
        · refine Or.inr ⟨?_, hzero, hused⟩
          rw [hzero]
          simp

end

/-- In any run of reports, the satellites of a report are marked as they should be, whatever an
undefined shift gives, exactly if nothing undefined or left over decides about any of them. -/
theorem marks_right_iff (conf : PosConf) (reports : List Report) (svs : List MarkedSv) :
    (∀ undefined, List.Forall₂ (Right (lastIds conf reports)) svs
      ((SvUsed.run undefined conf reports).reportSv undefined svs).2) ↔
      ∀ sv ∈ svs, Decided (lastIds conf reports) sv := by
  simp only [SvUsed.reportSv, List.forall₂_map_right_iff, List.forall₂_same]
  constructor
  · intro h sv hsv
    exact (right_iff svUsedIdMask_run).1
      fun undefined => h undefined sv hsv
  · intro h undefined sv hsv
    exact (right_iff svUsedIdMask_run).2
      (h sv hsv) undefined

/-- A final satellite position that has used the satellite 35 of BeiDou. -/
def usedThirtyFive : PositionReport where
  status := .success
  techMask := 1
  accuracy := none
  gnssSvUsedIds := some ⟨0, 0, 0, BitVec.twoPow 64 34, 0⟩

/-- The satellite 32 of BeiDou, without a mark. -/
def thirtyTwo : MarkedSv where
  svId := 32
  type := .beidou
  cN0Dbhz := 30
  elevation := 45
  azimuth := 90
  gnssSvOptionsMask := 0

/-- It is marked, whatever an undefined shift gives. -/
theorem not_right_thirtyTwo : ¬ ∃ undefined,
    List.Forall₂ (Right (lastIds ⟨0, 0⟩ [.position usedThirtyFive])) [thirtyTwo]
      ((SvUsed.run undefined ⟨0, 0⟩ [.position usedThirtyFive]).reportSv undefined
        [thirtyTwo]).2 := by
  intro h
  obtain ⟨undefined, h⟩ := h
  obtain ⟨hright, -⟩ := List.forall₂_cons.1 h
  have hlast : lastIds ⟨0, 0⟩ [.position usedThirtyFive] =
      some ⟨0, 0, 0, BitVec.twoPow 64 34, 0⟩ := by
    decide
  rw [hlast] at hright
  have hbit := (hright (by decide) (by decide) (by decide)).1 (used_markSv.2 (Or.inr (by
    rw [svUsedIdMask_run, hlast]
    exact (test_sign _).2 (by decide))))
  exact absurd hbit (by decide)

end Axon7.Gnss
