import Axon7.Dispatch.IfaceManager

/-!
# Delivery to all, or to a freed cell

`ProcessEvt` tells everyone registered for an event, in order, if no one who deletes itself has
a cell behind the one it is told by. All instances are registered last for the event that
deletes them, but for one: an `ECM_WAN` whose category changed deletes itself in
`IPA_CFG_CHANGE_EVENT`, and `ProcessEvt` goes on to its next cell, which is freed.
-/

namespace Axon7.Dispatch

open Lib
open Wan (WanType)

/-- The listeners registered for an event, in order. -/
def listenersOf (l : List (CmdEvts Listener)) (event : IpaCmEventId) : List Listener :=
  (l.filter (·.event = event)).map (·.obj)

/-- The registrations are those of live instances, as the source orders them, and of the
objects made at the start. -/
structure Registrations (objs : Nat → Option Iface) (l : List (CmdEvts Listener)) : Prop where
  together : Together l
  nodup : l.Nodup
  live : ∀ x ∈ l, ∀ obj, x.obj = .iface obj → ∃ i, objs obj = some i
  order : ∀ obj i, objs obj = some i →
    ∃ events ∈ i.cls.orders, (eventsOf l (.iface obj)).Sublist events

section

variable {objs : Nat → Option Iface} {l : List (CmdEvts Listener)}

theorem Registrations.filter (h : Registrations objs l) (obj : Nat) :
    Registrations (Function.update objs obj none) (l.filter (·.obj ≠ .iface obj)) := by
  refine ⟨h.together.filter _, h.nodup.filter _, ?_, ?_⟩
  · intro x hx id hid
    obtain ⟨hx, hxobj⟩ := List.mem_filter.1 hx
    have hne : id ≠ obj := by
      rintro rfl
      simp [hid] at hxobj
    rw [Function.update_of_ne hne]
    exact h.live x hx id hid
  · intro id i hi
    have hne : id ≠ obj := by
      rintro rfl
      simp at hi
    rw [Function.update_of_ne hne] at hi
    obtain ⟨order, horder, hsub⟩ := h.order id i hi
    exact ⟨order, horder, ((List.filter_sublist.filter _).map _).trans hsub⟩

end

/-! ## Telling -/

section

variable {s : World} {l : List (CmdEvts Listener)} {cells pre rest : List (Nat × CmdEvts Listener)}
  {env : Env} {event : IpaCmEventId} {index : Option Nat}

theorem Together.of_append {L : Type} {l l' : List (CmdEvts L)} (h : Together (l ++ l')) :
    Together l' := by
  induction l with
  | nil => exact h
  | cons x l ih => exact ih h.2

theorem LastOfIts.congr {L : Type} {deletes deletes' : L → Bool} {l : List (CmdEvts L)}
    (h : ∀ x ∈ l, deletes x.obj = deletes' x.obj) :
    LastOfIts deletes event l ↔ LastOfIts deletes' event l := by
  induction l with
  | nil => exact Iff.rfl
  | cons x rest ih =>
    obtain ⟨hx, hrest⟩ := List.forall_mem_cons.1 h
    rw [LastOfIts, LastOfIts, hx, ih hrest]

theorem World.processLoop_step {fuel tmp : Nat} {cell : Cell (CmdEvts Listener)}
    (h : s.dispatcher.heap.lookup tmp = some cell) :
    processLoop env event index (fuel + 1) s (some tmp) =
      if event = cell.val.event then do
        let s ← s.eventCallback env event index cell.val.obj
        let (s, told) ← processLoop env event index fuel s cell.next
        .ok (s, cell.val.obj :: told)
      else processLoop env event index fuel s cell.next := by
  rw [processLoop, Heap.read_eq h]
  rfl

/-- What the loop does from a cell on: it tells everyone registered for the event, or someone who
is deleted is told with his next cell behind that one, and it goes on there. -/
structure World.Tells (s : World) (env : Env) (event : IpaCmEventId) (index : Option Nat)
    (fuel : Nat) (rest : List (Nat × CmdEvts Listener)) : Prop where
  told : LastOfIts (s.deletesSelf env event index) event (rest.map Prod.snd) →
    ∃ s' l', processLoop env event index fuel s (rest.head?.map Prod.fst) =
        .ok (s', listenersOf (rest.map Prod.snd) event) ∧
      s'.dispatcher.Lists l' ∧ Registrations s'.objs l'
  freed : ¬ LastOfIts (s.deletesSelf env event index) event (rest.map Prod.snd) →
    processLoop env event index fuel s (rest.head?.map Prod.fst) = .error .freed

theorem World.Tells.skip {fuel : Nat} {cell : Nat × CmdEvts Listener}
    (h : s.Tells env event index fuel rest) (hne : event ≠ cell.2.event)
    (hlookup : s.dispatcher.heap.lookup cell.1 = some ⟨cell.2, rest.head?.map Prod.fst⟩) :
    s.Tells env event index (fuel + 1) (cell :: rest) := by
  have hloop : processLoop env event index (fuel + 1) s (some cell.1) =
      processLoop env event index fuel s (rest.head?.map Prod.fst) := by
    rw [World.processLoop_step hlookup]
    exact if_neg hne
  constructor
  · intro hlast
    rw [List.head?_cons, Option.map_some, hloop, listenersOf, List.map_cons,
      List.filter_cons_of_neg (by simpa using hne.symm)]
    exact h.told hlast.2
  · intro hlast
    rw [List.head?_cons, Option.map_some, hloop]
    exact h.freed fun hrest => hlast ⟨fun heq => absurd heq.symm hne, hrest⟩

theorem World.Tells.call {fuel : Nat} {cell : Nat × CmdEvts Listener} {s₁ : World}
    (h : s₁.Tells env event index fuel rest) (hevent : event = cell.2.event)
    (hlookup : s.dispatcher.heap.lookup cell.1 = some ⟨cell.2, rest.head?.map Prod.fst⟩)
    (hcallback : s.eventCallback env event index cell.2.obj = .ok s₁)
    (hlast : s.deletesSelf env event index cell.2.obj →
      ∀ y ∈ rest.map Prod.snd, y.obj ≠ cell.2.obj)
    (hsame : LastOfIts (s.deletesSelf env event index) event (rest.map Prod.snd) ↔
      LastOfIts (s₁.deletesSelf env event index) event (rest.map Prod.snd)) :
    s.Tells env event index (fuel + 1) (cell :: rest) := by
  have hloop : processLoop env event index (fuel + 1) s (some cell.1) =
      (processLoop env event index fuel s₁ (rest.head?.map Prod.fst)).bind
        fun r => .ok (r.1, cell.2.obj :: r.2) := by
    rw [World.processLoop_step hlookup]
    dsimp only
    rw [if_pos hevent, hcallback]
    rfl
  constructor
  · intro hall
    obtain ⟨s', l', hrest, hlists, hreg⟩ := h.told (hsame.1 hall.2)
    refine ⟨s', l', ?_, hlists, hreg⟩
    rw [List.head?_cons, Option.map_some, hloop, hrest, listenersOf, listenersOf, List.map_cons,
      List.filter_cons_of_pos (by simpa using hevent.symm)]
    rfl
  · intro hall
    have hrest := h.freed fun hrest => hall ⟨fun _ => hlast, hsame.2 hrest⟩
    rw [List.head?_cons, Option.map_some, hloop, hrest]
    rfl

theorem Registrations.next {objs : Nat → Option Iface} {cell : Nat × CmdEvts Listener}
    (hreg : Registrations objs ((pre ++ cell :: rest).map Prod.snd))
    (hlast : ¬ ∀ y ∈ rest.map Prod.snd, y.obj ≠ cell.2.obj) :
    ∃ next behind, rest = next :: behind ∧ next.2.obj = cell.2.obj := by
  obtain ⟨z, hz, hzobj⟩ : ∃ z ∈ rest.map Prod.snd, z.obj = cell.2.obj := by simpa using hlast
  have htogether := hreg.together
  rw [List.map_append] at htogether
  obtain ⟨y, hy, hyobj⟩ := htogether.of_append.1 z hz hzobj
  cases rest with
  | nil => exact absurd hz (by simp)
  | cons next behind =>
    obtain rfl : next.2 = y := Option.some_inj.1 hy
    exact ⟨next, behind, rfl, hyobj⟩

end

/-! ## A cradle -/

end Axon7.Dispatch
