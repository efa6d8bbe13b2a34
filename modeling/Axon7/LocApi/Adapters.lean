import Axon7.Lib.Bits
import Axon7.Lib.Packed
import Axon7.Lib.Run

/-!
# The adapters of the location API

Adapters register with the location API, which opens the modem for the events
they ask for. Each message that opens it carries a mask: on a removal and on an
update the events of all adapters but the excluded ones, when an adapter is added
only those of its own. The slots hold the adapters there are in any history; the
messages cover them iff what is added asks for no less than the others, and what is
excluded is asked for by none.
-/

namespace Axon7.LocApi

open Lib

/-- `LOC_API_ADAPTER_EVENT_MASK_T`. -/
abbrev EventMask := BitVec 32

/-- `MAX_ADAPTERS`. -/
def maxAdapters : ℕ := 10

/-- What goes to the modem: a `LocOpenMsg`, or a close at once. -/
inductive Request
  | locOpenMsg (mask : EventMask)
  | close
deriving DecidableEq

/-- `LocApiBase`, with `mEvtMask` of the adapters. -/
structure LocApiBase (A : Type) where
  locAdapters : List (Option A)
  excludedMask : EventMask
  evtMask : A → EventMask

/-- `loc_registration_mask_status`. -/
inductive RegistrationMask
  | enabled
  | disabled
  | set

namespace LocApiBase

variable {A : Type}

/-- The constructor. -/
def new (excludedMask : EventMask) (evtMask : A → EventMask) : LocApiBase A where
  locAdapters := List.replicate maxAdapters none
  excludedMask := excludedMask
  evtMask := evtMask

/-- The adapters that `TO_ALL_LOCADAPTERS` goes over. -/
def allAdapters (l : LocApiBase A) : List A :=
  (l.locAdapters.takeWhile Option.isSome).filterMap id

def getEvtMask (l : LocApiBase A) : EventMask :=
  l.allAdapters.foldl (fun mask adapter => mask ||| l.evtMask adapter) 0 &&&
    ~~~ l.excludedMask

variable [DecidableEq A]

def addAdapter (adapter : A) (l : LocApiBase A) : LocApiBase A × List Request :=
  match putFirst adapter l.locAdapters with
  | none => (l, [])
  | some slots => ({ l with locAdapters := slots }, [.locOpenMsg (l.evtMask adapter)])

/-- `removeAdapter`. The loop ends after the slot that is free then. -/
def removeAdapter (adapter : A) (l : LocApiBase A) : LocApiBase A × List Request :=
  match swapOut adapter l.locAdapters with
  | none => (l, [])
  | some (i, slots) =>
    let l := { l with locAdapters := slots }
    (l, [if i = 0 then .close else .locOpenMsg l.getEvtMask])

def updateEvtMask (l : LocApiBase A) : LocApiBase A × List Request :=
  (l, [.locOpenMsg l.getEvtMask])

/-- `mEvtMask` of an adapter is written. -/
def setEvtMask (adapter : A) (mask : EventMask) (l : LocApiBase A) : LocApiBase A :=
  { l with evtMask := Function.update l.evtMask adapter mask }

/-- `LocAdapterBase::updateEvtMask`. -/
def updateAdapterEvtMask (adapter : A) (event : EventMask) (status : RegistrationMask)
    (l : LocApiBase A) : LocApiBase A × List Request :=
  (l.setEvtMask adapter (match status with
    | .enabled => l.evtMask adapter ||| event
    | .disabled => l.evtMask adapter &&& ~~~ event
    | .set => event)).updateEvtMask

/-! ## Runs -/

/-- The calls, and the writes of an adapter to its own mask. -/
inductive Op (A : Type)
  | addAdapter (adapter : A)
  | removeAdapter (adapter : A)
  | updateEvtMask
  | setEvtMask (adapter : A) (mask : EventMask)

def step (l : LocApiBase A) : Op A → LocApiBase A × List Request
  | .addAdapter adapter => l.addAdapter adapter
  | .removeAdapter adapter => l.removeAdapter adapter
  | .updateEvtMask => l.updateEvtMask
  | .setEvtMask adapter mask => (l.setEvtMask adapter mask, [])

theorem updateAdapterEvtMask_eq (adapter : A) (event : EventMask)
    (status : RegistrationMask) (l : LocApiBase A) :
    ∃ mask, l.updateAdapterEvtMask adapter event status =
      (l.step (.setEvtMask adapter mask)).1.step .updateEvtMask :=
  ⟨_, rfl⟩

def run (l : LocApiBase A) (ops : List (Op A)) : LocApiBase A :=
  ops.foldl (fun l op => (l.step op).1) l

theorem run_concat (l : LocApiBase A) (ops : List (Op A)) (op : Op A) :
    l.run (ops ++ [op]) = ((l.run ops).step op).1 := by
  rw [run, List.foldl_append]
  rfl

/-- An adapter has been added and not been removed since. -/
def Present (ops : List (Op A)) (adapter : A) : Prop :=
  Since (· = Op.addAdapter adapter) (· = Op.removeAdapter adapter) ops

/-- There are never more adapters than slots. -/
def AtMostMax (ops : List (Op A)) : Prop :=
  ∀ pre, pre <+: ops → ∀ adapters : List A, adapters.Nodup →
    (∀ adapter ∈ adapters, Present pre adapter) → adapters.length ≤ maxAdapters

/-- The slots hold the adapters that are present, each once, and no slot before
them is free. -/
def Holds (l : LocApiBase A) (ops : List (Op A)) : Prop :=
  ∃ adapters : List A, adapters.Nodup ∧ adapters.length ≤ maxAdapters ∧
    (∀ adapter, adapter ∈ adapters ↔ Present ops adapter) ∧
    l.locAdapters = packed maxAdapters adapters

/-- A mask is the union of those of the adapters present. -/
def IsUnion (mask : EventMask) (evtMask : A → EventMask) (ops : List (Op A)) : Prop :=
  ∀ i, mask.getLsbD i = true ↔
    ∃ adapter, Present ops adapter ∧ (evtMask adapter).getLsbD i = true

variable {l : LocApiBase A} {ops : List (Op A)} {adapters : List A} {adapter : A}

omit [DecidableEq A] in
theorem present_concat (op : Op A) : Present (ops ++ [op]) adapter ↔
    op = .addAdapter adapter ∨ Present ops adapter ∧ op ≠ .removeAdapter adapter :=
  since_concat

/-! ## The slots -/

theorem addAdapter_present (hslots : l.locAdapters = packed maxAdapters adapters)
    (h : adapter ∈ adapters) : l.addAdapter adapter = (l, []) := by
  rw [addAdapter, hslots, packed, putFirst_of_mem h]

theorem addAdapter_new (hslots : l.locAdapters = packed maxAdapters adapters)
    (h : adapter ∉ adapters) (hroom : adapters.length < maxAdapters) :
    l.addAdapter adapter =
      ({ l with locAdapters := packed maxAdapters (adapters ++ [adapter]) },
        [.locOpenMsg (l.evtMask adapter)]) := by
  rw [addAdapter, hslots, putFirst_packed h hroom]

theorem removeAdapter_absent (hslots : l.locAdapters = packed maxAdapters adapters)
    (h : adapter ∉ adapters) : l.removeAdapter adapter = (l, []) := by
  rw [removeAdapter, hslots, swapOut_of_notMem h]

theorem removeAdapter_present (hslots : l.locAdapters = packed maxAdapters adapters)
    (h : adapter ∈ adapters) (hnodup : adapters.Nodup)
    (hlength : adapters.length ≤ maxAdapters) :
    ∃ left : List A, left.Perm (adapters.erase adapter) ∧
      l.removeAdapter adapter =
        ({ l with locAdapters := packed maxAdapters left },
          [if left = [] then .close
            else .locOpenMsg
              { l with locAdapters := packed maxAdapters left }.getEvtMask]) := by
  obtain ⟨left, hperm, hout⟩ := swapOut_packed h hnodup hlength
  refine ⟨left, hperm, ?_⟩
  rw [removeAdapter, hslots, hout]
  simp only [List.length_eq_zero_iff]

theorem Holds.addAdapter (h : Holds l ops) (adapter : A)
    (hmost : ∀ adapters : List A, adapters.Nodup →
      (∀ other ∈ adapters, Present (ops ++ [.addAdapter adapter]) other) →
      adapters.length ≤ maxAdapters) :
    Holds (l.addAdapter adapter).1 (ops ++ [.addAdapter adapter]) := by
  obtain ⟨adapters, hnodup, hlength, hpresent, hslots⟩ := h
  have hconcat : ∀ other, Present (ops ++ [.addAdapter adapter]) other ↔
      other = adapter ∨ other ∈ adapters := fun other => by
    rw [present_concat, hpresent]
    simp [eq_comm]
  by_cases hmem : adapter ∈ adapters
  · refine ⟨adapters, hnodup, hlength, fun other => ?_, ?_⟩
    · rw [hconcat]
      exact ⟨.inr, fun hor => hor.elim (fun heq => heq ▸ hmem) id⟩
    · rw [addAdapter_present hslots hmem]
      exact hslots
  · have hnew : (adapters ++ [adapter]).Nodup := by
      rw [List.nodup_append]
      refine ⟨hnodup, List.nodup_singleton _, fun a ha b hb heq => ?_⟩
      rw [List.mem_singleton] at hb
      exact hmem (hb ▸ heq ▸ ha)
    have hroom := hmost _ hnew fun other hother => by
      rw [hconcat]
      simpa [or_comm] using hother
    refine ⟨adapters ++ [adapter], hnew, hroom, fun other => ?_, ?_⟩
    · rw [hconcat]
      simp [or_comm]
    · rw [List.length_append, List.length_singleton] at hroom
      rw [addAdapter_new hslots hmem hroom]

theorem Holds.removeAdapter (h : Holds l ops) (adapter : A) :
    Holds (l.removeAdapter adapter).1 (ops ++ [.removeAdapter adapter]) := by
  obtain ⟨adapters, hnodup, hlength, hpresent, hslots⟩ := h
  have hconcat : ∀ other, Present (ops ++ [.removeAdapter adapter]) other ↔
      other ∈ adapters ∧ other ≠ adapter := fun other => by
    rw [present_concat, hpresent]
    simp [eq_comm]
  by_cases hmem : adapter ∈ adapters
  · obtain ⟨left, hperm, hremove⟩ := removeAdapter_present hslots hmem hnodup hlength
    have hleft := (hperm.length_eq.trans_le List.length_erase_le).trans hlength
    refine ⟨left, hperm.nodup_iff.mpr (hnodup.erase adapter), hleft, fun other => ?_, ?_⟩
    · rw [hconcat, hperm.mem_iff, hnodup.mem_erase_iff, and_comm]
    · rw [hremove]
  · refine ⟨adapters, hnodup, hlength, fun other => ?_, ?_⟩
    · rw [hconcat]
      exact ⟨fun hother => ⟨hother, fun heq => hmem (heq ▸ hother)⟩, And.left⟩
    · rw [removeAdapter_absent hslots hmem]
      exact hslots

theorem Holds.step (h : Holds l ops) (op : Op A)
    (hmost : ∀ adapters : List A, adapters.Nodup →
      (∀ adapter ∈ adapters, Present (ops ++ [op]) adapter) →
      adapters.length ≤ maxAdapters) :
    Holds (l.step op).1 (ops ++ [op]) := by
  cases op with
  | addAdapter adapter => exact h.addAdapter adapter hmost
  | removeAdapter adapter => exact h.removeAdapter adapter
  | updateEvtMask | setEvtMask =>
    obtain ⟨adapters, hnodup, hlength, hpresent, hslots⟩ := h
    refine ⟨adapters, hnodup, hlength, fun other => ?_, hslots⟩
    rw [present_concat, hpresent]
    simp

omit [DecidableEq A] in
theorem holds_new (excludedMask : EventMask) (evtMask : A → EventMask) :
    Holds (new excludedMask evtMask) [] := by
  refine ⟨[], List.nodup_nil, Nat.zero_le _, fun adapter => ?_, rfl⟩
  exact iff_of_false List.not_mem_nil not_since_nil

theorem Holds.run (h : Holds l []) (hmost : AtMostMax ops) :
    Holds (l.run ops) ops := by
  induction ops using List.reverseRecOn with
  | nil => exact h
  | append_singleton ops op ih =>
    rw [run_concat]
    refine (ih fun pre hpre => hmost pre (hpre.trans (List.prefix_append _ _))).step
      op ?_
    exact hmost _ List.prefix_rfl

/-! ## The masks -/

omit [DecidableEq A] in
theorem allAdapters_eq (hslots : l.locAdapters = packed maxAdapters adapters) :
    l.allAdapters = adapters := by
  rw [allAdapters, hslots, takeWhile_packed]
  simp

omit [DecidableEq A] in
theorem Holds.getEvtMask (h : Holds l ops) (i : ℕ) :
    l.getEvtMask.getLsbD i = true ↔
      (∃ adapter, Present ops adapter ∧ (l.evtMask adapter).getLsbD i = true) ∧
        l.excludedMask.getLsbD i = false := by
  obtain ⟨adapters, -, -, hpresent, hslots⟩ := h
  simp only [← hpresent]
  rw [LocApiBase.getEvtMask, BitVec.getLsbD_and, Bool.and_eq_true,
    getLsbD_foldl_or, allAdapters_eq hslots, BitVec.getLsbD_not]
  constructor
  · intro ⟨hany, hnot⟩
    exact ⟨hany.resolve_left (by simp), by simpa using (Bool.and_eq_true_iff.mp hnot).2⟩
  · intro ⟨⟨adapter, hmem, hbit⟩, hnot⟩
    have hi : i < 32 := BitVec.lt_of_getLsbD hbit
    refine ⟨.inr ⟨adapter, hmem, hbit⟩, ?_⟩
    rw [hnot, decide_eq_true hi]
    rfl

theorem and_eq_zero_iff {x y : EventMask} :
    x &&& y = 0 ↔ ∀ i, x.getLsbD i = true → y.getLsbD i = false := by
  rw [← not_iff_not, ← ne_eq, and_ne_zero_iff]
  push Not
  simp

omit [DecidableEq A] in
theorem Holds.isUnion_getEvtMask_iff (h : Holds l ops) :
    IsUnion l.getEvtMask l.evtMask ops ↔
      ∀ adapter, Present ops adapter → l.evtMask adapter &&& l.excludedMask = 0 := by
  simp only [and_eq_zero_iff]
  constructor
  · intro hunion adapter hpresent i hbit
    have hmask := (hunion i).mpr ⟨adapter, hpresent, hbit⟩
    exact ((h.getEvtMask i).mp hmask).2
  · intro hnone i
    rw [h.getEvtMask]
    refine and_iff_left_of_imp fun ⟨adapter, hpresent, hbit⟩ => ?_
    exact hnone adapter hpresent i hbit

omit [DecidableEq A] in
theorem isUnion_added_iff (evtMask : A → EventMask) (adapter : A)
    (ops : List (Op A)) :
    IsUnion (evtMask adapter) evtMask (ops ++ [.addAdapter adapter]) ↔
      ∀ other, Present ops other → evtMask other &&& ~~~ evtMask adapter = 0 := by
  simp only [and_eq_zero_iff]
  constructor
  · intro hunion other hother i hbit
    have hpresent : Present (ops ++ [.addAdapter adapter]) other := by
      rw [present_concat]
      exact .inr ⟨hother, nofun⟩
    have hmask := (hunion i).mpr ⟨other, hpresent, hbit⟩
    simp [hmask]
  · intro hall i
    constructor
    · intro hbit
      exact ⟨adapter, (present_concat _).mpr (.inl rfl), hbit⟩
    · intro ⟨other, hpresent, hbit⟩
      rw [present_concat] at hpresent
      obtain heq | ⟨hother, -⟩ := hpresent
      · rw [Op.addAdapter.inj heq]
        exact hbit
      · have hi : i < 32 := BitVec.lt_of_getLsbD hbit
        have hnot := hall other hother i hbit
        simpa [hi] using hnot

/-- After a call the slots are right, and what it has sent covers the adapters. -/
structure Covers (l : LocApiBase A) (ops : List (Op A)) (op : Op A) : Prop where
  holds : Holds (l.run (ops ++ [op])) (ops ++ [op])
  union : ∀ mask, .locOpenMsg mask ∈ ((l.run ops).step op).2 →
    IsUnion mask (l.run (ops ++ [op])).evtMask (ops ++ [op])

/-- An adapter that is added asks for the events of all others, and when the mask
of all is computed none of them asks for what is excluded. -/
def AsksForAll (l : LocApiBase A) (ops : List (Op A)) : Op A → Prop
  | .addAdapter adapter => ¬ Present ops adapter → ∀ other, Present ops other →
      (l.run ops).evtMask other &&& ~~~ (l.run ops).evtMask adapter = 0
  | .removeAdapter adapter => Present ops adapter → ∀ other, Present ops other →
      other ≠ adapter → (l.run ops).evtMask other &&& (l.run ops).excludedMask = 0
  | .updateEvtMask => ∀ other, Present ops other →
      (l.run ops).evtMask other &&& (l.run ops).excludedMask = 0
  | .setEvtMask _ _ => True

theorem forall_mem_locOpenMsg {P : EventMask → Prop} (mask : EventMask) :
    (∀ mask', .locOpenMsg mask' ∈ [Request.locOpenMsg mask] → P mask') ↔ P mask := by
  simp only [List.mem_singleton, Request.locOpenMsg.injEq, forall_eq]

theorem union_addAdapter_iff (h : Holds l ops)
    (hafter : Holds (l.step (.addAdapter adapter)).1 (ops ++ [.addAdapter adapter])) :
    (∀ mask, .locOpenMsg mask ∈ (l.step (.addAdapter adapter)).2 →
        IsUnion mask (l.step (.addAdapter adapter)).1.evtMask
          (ops ++ [.addAdapter adapter])) ↔
      (¬ Present ops adapter → ∀ other, Present ops other →
        l.evtMask other &&& ~~~ l.evtMask adapter = 0) := by
  obtain ⟨adapters, hnodup, hlength, hpresent, hslots⟩ := h
  by_cases hmem : adapter ∈ adapters
  · rw [step, addAdapter_present hslots hmem]
    refine iff_of_true (fun mask hmask => absurd hmask List.not_mem_nil) fun hnew => ?_
    exact absurd ((hpresent adapter).mp hmem) hnew
  · have hroom : adapters.length < maxAdapters := by
      obtain ⟨adapters', -, hlength', hpresent', -⟩ := hafter
      have hsubset : adapter :: adapters ⊆ adapters' := by
        intro other hother
        rw [hpresent', present_concat]
        obtain rfl | hother := List.mem_cons.mp hother
        · exact .inl rfl
        · exact .inr ⟨(hpresent other).mp hother, nofun⟩
      have hle := List.Nodup.length_le_of_subset
        (List.nodup_cons.mpr ⟨hmem, hnodup⟩) hsubset
      rw [List.length_cons] at hle
      omega
    rw [step, addAdapter_new hslots hmem hroom, ← hpresent]
    rw [forall_mem_locOpenMsg, isUnion_added_iff]
    exact ⟨fun h _ => h, fun h => h hmem⟩

theorem union_removeAdapter_iff (h : Holds l ops)
    (hafter : Holds (l.step (.removeAdapter adapter)).1
      (ops ++ [.removeAdapter adapter])) :
    (∀ mask, .locOpenMsg mask ∈ (l.step (.removeAdapter adapter)).2 →
        IsUnion mask (l.step (.removeAdapter adapter)).1.evtMask
          (ops ++ [.removeAdapter adapter])) ↔
      (Present ops adapter → ∀ other, Present ops other → other ≠ adapter →
        l.evtMask other &&& l.excludedMask = 0) := by
  obtain ⟨adapters, hnodup, hlength, hpresent, hslots⟩ := h
  by_cases hmem : adapter ∈ adapters
  · obtain ⟨left, hperm, hremove⟩ := removeAdapter_present hslots hmem hnodup hlength
    have hleft : ∀ other, Present (ops ++ [.removeAdapter adapter]) other ↔
        Present ops other ∧ other ≠ adapter := fun other => by
      rw [present_concat]
      simp [eq_comm]
    have hothers : (∀ other, Present (ops ++ [.removeAdapter adapter]) other →
        l.evtMask other &&& l.excludedMask = 0) ↔
          (Present ops adapter → ∀ other, Present ops other → other ≠ adapter →
            l.evtMask other &&& l.excludedMask = 0) := by
      simp only [hleft, and_imp]
      exact ⟨fun h _ => h, fun h => h ((hpresent adapter).mp hmem)⟩
    rw [step, hremove] at hafter ⊢
    rw [← hothers]
    by_cases hnil : left = []
    · rw [if_pos hnil]
      refine iff_of_true (fun mask hmask => by simp at hmask) fun other hother => ?_
      rw [hleft, ← hpresent] at hother
      have hgone : other ∈ adapters.erase adapter :=
        (hnodup.mem_erase_iff).mpr ⟨hother.2, hother.1⟩
      rw [← hperm.mem_iff, hnil] at hgone
      exact absurd hgone List.not_mem_nil
    · rw [if_neg hnil, forall_mem_locOpenMsg]
      exact hafter.isUnion_getEvtMask_iff
  · rw [step, removeAdapter_absent hslots hmem]
    refine iff_of_true (fun mask hmask => absurd hmask List.not_mem_nil) fun hold => ?_
    exact absurd ((hpresent adapter).mpr hold) hmem

theorem covers_iff (h : Holds (l.run ops) ops) (op : Op A)
    (hafter : Holds (l.run (ops ++ [op])) (ops ++ [op])) :
    Covers l ops op ↔ AsksForAll l ops op := by
  have hunion : Covers l ops op ↔ ∀ mask, .locOpenMsg mask ∈ ((l.run ops).step op).2 →
      IsUnion mask (l.run (ops ++ [op])).evtMask (ops ++ [op]) :=
    ⟨Covers.union, fun hmask => ⟨hafter, hmask⟩⟩
  rw [hunion, run_concat]
  rw [run_concat] at hafter
  cases op with
  | addAdapter adapter => exact union_addAdapter_iff h hafter
  | removeAdapter adapter => exact union_removeAdapter_iff h hafter
  | updateEvtMask =>
    have hsame : ∀ other, Present (ops ++ [.updateEvtMask]) other ↔
        Present ops other := fun other => by
      rw [present_concat]
      simp
    have hmask := Holds.isUnion_getEvtMask_iff (l := l.run ops) hafter
    simp only [hsame] at hmask
    rw [AsksForAll, ← hmask]
    exact forall_mem_locOpenMsg _
  | setEvtMask adapter mask =>
    exact iff_of_true (fun mask hmask => absurd hmask List.not_mem_nil) trivial

/-- In every history with room for the adapters the slots hold them, and all
messages cover them iff each adapter that is added asks for the events of the others
and none asks for what is excluded. -/
theorem run_covers_iff (excludedMask : EventMask) (evtMask : A → EventMask)
    (ops : List (Op A)) (hmost : AtMostMax ops) :
    (∀ pre op, pre ++ [op] <+: ops → Covers (new excludedMask evtMask) pre op) ↔
      ∀ pre op, pre ++ [op] <+: ops → AsksForAll (new excludedMask evtMask) pre op := by
  have hholds : ∀ pre, pre <+: ops →
      Holds ((new excludedMask evtMask).run pre) pre := fun pre hpre =>
    (holds_new excludedMask evtMask).run fun part hpart => hmost part (hpart.trans hpre)
  have hiff : ∀ pre op, pre ++ [op] <+: ops →
      (Covers (new excludedMask evtMask) pre op ↔
        AsksForAll (new excludedMask evtMask) pre op) := fun pre op hpre =>
    covers_iff (hholds pre ((List.prefix_append _ _).trans hpre)) op (hholds _ hpre)
  constructor
  · exact fun h pre op hpre => (hiff pre op hpre).mp (h pre op hpre)
  · exact fun h pre op hpre => (hiff pre op hpre).mpr (h pre op hpre)

omit [DecidableEq A] in
theorem atMostMax_of_length (h : ops.length ≤ maxAdapters) : AtMostMax ops := by
  intro pre hpre adapters hnodup hpresent
  have hadded : adapters.map Op.addAdapter ⊆ pre := by
    intro op hop
    obtain ⟨adapter, hmem, rfl⟩ := List.mem_map.mp hop
    obtain ⟨before, op, after, rfl, rfl, -⟩ := hpresent adapter hmem
    exact List.mem_append_right _ List.mem_cons_self
  have hinj : Function.Injective (Op.addAdapter (A := A)) :=
    fun a b heq => Op.addAdapter.inj heq
  have hle := List.Nodup.length_le_of_subset (hnodup.map hinj) hadded
  rw [List.length_map] at hle
  exact (hle.trans hpre.length_le).trans h

theorem second_covers :
    Covers (new 0 fun adapter : ℕ => if adapter = 0 then 1 else 3)
      [.addAdapter 0] (.addAdapter 1) := by
  refine (run_covers_iff 0 _ [.addAdapter 0, .addAdapter 1]
    (atMostMax_of_length (by decide))).mpr ?_ _ _ List.prefix_rfl
  refine forall_concat_of_take fun k hk => ?_
  match k, hk with
  | 0, _ => exact fun _ other hother => absurd hother not_since_nil
  | 1, _ =>
    intro _ other hother
    have hsome : Present ([] ++ [.addAdapter 0]) other := hother
    obtain heq | ⟨hnil, -⟩ := (present_concat _).mp hsome
    · rw [← Op.addAdapter.inj heq]
      decide
    · exact absurd hnil not_since_nil

/-- The second asks for another event: that of the first is withdrawn. -/
theorem second_not_covers :
    ¬ Covers (new 0 fun adapter : ℕ => if adapter = 0 then 1 else 2)
      [.addAdapter 0] (.addAdapter 1) := by
  intro h
  have hunion := h.union 2 (by decide)
  have hfirst : Present [.addAdapter 0, .addAdapter 1] 0 :=
    ⟨[], .addAdapter 0, [.addAdapter 1], rfl, rfl, by simp⟩
  have hbit := (hunion 0).mpr ⟨0, hfirst, by decide⟩
  exact absurd hbit (by decide)

end LocApiBase

end Axon7.LocApi
