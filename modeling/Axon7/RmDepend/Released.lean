import Axon7.RmDepend.Dependencies

/-!
# Every added resource deleted

An add counts until a delete of the same resource follows it. With nothing left
to count no row is set: also the rows of the Q6 consumer are let go, since the
counter that holds them is at most the number of its adds still to be deleted.
-/

namespace Axon7.RmDepend

open Axon7.Lib

namespace Config

/-- The adds of the resource that no delete has followed yet. -/
def outstanding (rm1 : RmResource) (calls : List Call) : Nat :=
  calls.foldl (fun n call =>
    match call with
    | .add rm _ => if rm = rm1 then n + 1 else n
    | .del rm => if rm = rm1 then n - 1 else n) 0

/-- Every resource added has been deleted. -/
def AllDeleted (calls : List Call) : Prop :=
  ∀ rm1, outstanding rm1 calls = 0

variable {calls : List Call} {rm1 : RmResource}

theorem outstanding_snoc (rm1 : RmResource) (calls : List Call) (call : Call) :
    outstanding rm1 (calls ++ [call]) =
      match call with
      | .add rm _ => if rm = rm1 then outstanding rm1 calls + 1
          else outstanding rm1 calls
      | .del rm => if rm = rm1 then outstanding rm1 calls - 1
          else outstanding rm1 calls := by
  rw [outstanding, List.foldl_concat]
  rfl

theorem run_snoc (calls : List Call) (call : Call) :
    run (calls ++ [call]) = (run calls).step call := List.foldl_concat ..

/-- What is up has an add outstanding. -/
structure Counted (calls : List Call) (c : Config) : Prop where
  check : c.ipaRmA2Check ≤ outstanding .q6Cons calls
  producer : ∀ row ∈ c.ipaRmTbl, row.producer1Up = true →
    0 < outstanding row.producerRm1 calls
  consumer : ∀ row ∈ c.ipaRmTbl, row.consumer1Up = true →
    0 < outstanding row.consumerRm1 calls

theorem Counted.add {c : Config} (h : Counted calls c) (htabled : c.Tabled)
    (rm1 : RmResource) (rxBypassIpa : Bool) :
    Counted (calls ++ [.add rm1 rxBypassIpa])
      (c.addRmDepend rm1 rxBypassIpa) where
  check := by
    have hcheck := h.check
    rw [outstanding_snoc, addRmDepend]
    dsimp only
    split <;> push_cast <;> omega
  producer := by
    rw [addRmDepend_tbl htabled]
    intro x hx hup
    obtain ⟨row, hrow, rfl⟩ := List.mem_map.mp hx
    have hold := h.producer row hrow
    show 0 < outstanding row.producerRm1 _
    rw [outstanding_snoc]
    dsimp only
    simp only [RmClient.added, Bool.or_eq_true, decide_eq_true_eq] at hup
    split
    · omega
    · next hne => exact hold (hup.resolve_right hne)
  consumer := by
    rw [addRmDepend_tbl htabled]
    intro x hx hup
    obtain ⟨row, hrow, rfl⟩ := List.mem_map.mp hx
    have hold := h.consumer row hrow
    show 0 < outstanding row.consumerRm1 _
    rw [outstanding_snoc]
    dsimp only
    simp only [RmClient.added, Bool.or_eq_true, decide_eq_true_eq] at hup
    split
    · omega
    · next hne => exact hold (hup.resolve_right hne)

theorem Counted.del {c : Config} (h : Counted calls c) (htabled : c.Tabled)
    (rm1 : RmResource) :
    Counted (calls ++ [.del rm1]) (c.delRmDepend rm1) where
  check := by
    have hcheck := h.check
    rw [outstanding_snoc, delRmDepend]
    dsimp only
    split <;> omega
  producer := by
    rw [delRmDepend_tbl htabled]
    intro x hx hup
    obtain ⟨row, hrow, rfl⟩ := List.mem_map.mp hx
    have hold := h.producer row hrow
    show 0 < outstanding row.producerRm1 _
    rw [outstanding_snoc]
    dsimp only
    simp only [RmClient.deleted, Bool.and_eq_true, decide_eq_true_eq] at hup
    rw [if_neg hup.2]
    exact hold hup.1
  consumer := by
    have hcheck := h.check
    have hcheck' : rm1 = .q6Cons →
        (c.delRmDepend rm1).ipaRmA2Check = c.ipaRmA2Check - 1 :=
      fun heq => if_pos heq
    rw [delRmDepend_tbl htabled]
    intro x hx hup
    obtain ⟨row, hrow, rfl⟩ := List.mem_map.mp hx
    have hold := h.consumer row hrow
    show 0 < outstanding row.consumerRm1 _
    rw [outstanding_snoc]
    dsimp only
    simp only [RmClient.deleted, RmClient.stays, Bool.and_eq_true,
      decide_eq_true_eq, decide_eq_false_iff_not, not_and,
      Classical.not_imp, not_not] at hup
    split
    · next heq =>
        -- the row has stayed, so the counter says that an add is left
        obtain ⟨hq, hone⟩ := hup.2 heq
        rw [hcheck' (heq.trans hq)] at hone
        rw [hq]
        omega
    · exact hold hup.1

theorem counted_run (calls : List Call) :
    (run calls).Tabled ∧ Counted calls (run calls) := by
  induction calls using List.reverseRecOn with
  | nil =>
    refine ⟨tabled_init, ?_, ?_, ?_⟩
    · exact le_rfl
    · decide
    · decide
  | append_singleton calls call ih =>
    obtain ⟨htabled, hcounted⟩ := ih
    rw [run_snoc]
    refine ⟨htabled.step call, ?_⟩
    cases call with
    | add rm1 rxBypassIpa => exact hcounted.add htabled rm1 rxBypassIpa
    | del rm1 => exact hcounted.del htabled rm1

theorem not_needs_of_allDeleted (h : AllDeleted calls) :
    ∀ row ∈ (run calls).ipaRmTbl, ∀ d, ¬row.Needs d := by
  intro row hrow d hneeds
  obtain ⟨htabled, hcounted⟩ := counted_run calls
  have hset := (htabled.paired row hrow).set
  rw [hneeds.1, eq_comm, Bool.and_eq_true] at hset
  have hout := hcounted.producer row hrow hset.1
  rw [h] at hout
  exact absurd hout (lt_irrefl 0)

/-- The kernel has what the rows need, and nothing once every resource added
has been deleted, throughout the calls just when none of them tells a row that
is set another bypass. -/
theorem run_agrees_iff (calls : List Call) :
    (∀ pre, pre <+: calls → (run pre).Agrees ∧
        (AllDeleted pre → (run pre).deps = ∅)) ↔
      ∀ pre call, pre ++ [call] <+: calls → (run pre).KeepsBypass call := by
  have hempty : ∀ calls, (run calls).Agrees → AllDeleted calls →
      (run calls).deps = ∅ := by
    intro calls hagrees hall
    rw [Finset.eq_empty_iff_forall_notMem]
    intro d hd
    obtain ⟨row, hrow, hneeds⟩ := (hagrees d).mp hd
    exact not_needs_of_allDeleted hall row hrow d hneeds
  refine forall_prefix_iff ⟨fun d => ?_, fun _ => rfl⟩ fun pre call _ hpre => ?_
  · constructor
    · intro hd
      exact absurd hd (Finset.notMem_empty d)
    · rintro ⟨row, hrow, hneeds⟩
      exact absurd hneeds (not_needs_of_allDeleted (fun _ => rfl) row hrow d)
  · have hstep := agrees_step_iff (counted_run pre).1 hpre.1 call
    rw [← hstep, ← run_snoc]
    exact ⟨And.left, fun hagrees => ⟨hagrees, hempty _ hagrees⟩⟩

/-- The USB producer is added again, now for an interface without Rx
properties. Its dependency on the Q6 consumer outlives both. -/
def addedAgain : List Call :=
  [.add .usbProd false, .add .q6Cons false, .add .usbProd true, .del .usbProd,
    .del .usbProd, .del .q6Cons]

theorem addedAgain_leaks :
    ¬((run addedAgain).Agrees ∧
      (AllDeleted addedAgain → (run addedAgain).deps = ∅)) := by
  rintro ⟨-, hempty⟩
  have hall : AllDeleted addedAgain := by
    intro rm1
    cases rm1 <;> rfl
  have hleft : (run addedAgain).deps = {(.usbProd, .q6Cons)} := by decide
  rw [hempty hall] at hleft
  exact absurd hleft (by decide)

end Config

end Axon7.RmDepend

/-!
# The users of the Q6 consumer

The Q6 consumer is added once for each default route, and the counter of the routes is
to keep its rows until the last of them goes. `DelRmDepend` lets the rows be when one
route is left, not when two or more are: the rows go down with the third user still to
come, and stay down until the next add.
-/

namespace Axon7.RmDepend

open Axon7.Lib

namespace Config

/-- The rows of the Q6 consumer are up: its mark is set, and a row is set if its producer
is up too. -/
def Q6Up (c : Config) (up : Prop) : Prop :=
  ∀ row ∈ c.ipaRmTbl, row.consumerRm1 = .q6Cons →
    (row.consumer1Up = true ↔ up) ∧
      (row.rmSet = true ↔ up ∧ row.producer1Up = true)

/-- The deletes never outnumber the adds. -/
def Q6Balanced (calls : List Call) : Prop :=
  ∀ pre, pre ++ [.del .q6Cons] <+: calls → 0 < outstanding .q6Cons pre

/-- What the calls keep: the counter counts, and the consumer is up while it does. -/
structure Q6Inv (calls : List Call) : Prop where
  tabled : (run calls).Tabled
  check : (run calls).ipaRmA2Check = outstanding .q6Cons calls
  up : ∀ row ∈ (run calls).ipaRmTbl, row.consumerRm1 = .q6Cons →
    (row.consumer1Up = true ↔ 0 < outstanding .q6Cons calls)
  row : ∃ row ∈ (run calls).ipaRmTbl, row.consumerRm1 = .q6Cons

variable {calls : List Call} {rm1 : RmResource} {rxBypassIpa : Bool}

theorem q6Inv_nil : Q6Inv [] where
  tabled := tabled_init
  check := rfl
  up := by decide
  row := by decide

theorem Q6Inv.q6Up (h : Q6Inv calls) :
    (run calls).Q6Up (0 < outstanding .q6Cons calls) := by
  intro row hrow hq
  have hup := h.up row hrow hq
  refine ⟨hup, ?_⟩
  rw [(h.tabled.paired row hrow).set, Bool.and_eq_true, hup, and_comm]

theorem Q6Inv.snoc (h : Q6Inv calls) {call : Call} (f : RmClient → RmClient)
    (htbl : (run (calls ++ [call])).ipaRmTbl = (run calls).ipaRmTbl.map f)
    (hcheck : (run (calls ++ [call])).ipaRmA2Check = outstanding .q6Cons (calls ++ [call]))
    (hname : ∀ row, (f row).consumerRm1 = row.consumerRm1)
    (hup : ∀ row, row.consumerRm1 = .q6Cons →
      (row.consumer1Up = true ↔ 0 < outstanding .q6Cons calls) →
      ((f row).consumer1Up = true ↔ 0 < outstanding .q6Cons (calls ++ [call]))) :
    Q6Inv (calls ++ [call]) where
  tabled := run_snoc calls call ▸ h.tabled.step call
  check := hcheck
  up := by
    rw [htbl]
    intro x hx hq
    obtain ⟨row, hrow, rfl⟩ := List.mem_map.mp hx
    rw [hname] at hq
    exact hup row hq (h.up row hrow hq)
  row := by
    obtain ⟨row, hrow, hq⟩ := h.row
    rw [htbl]
    exact ⟨f row, List.mem_map_of_mem hrow, (hname row).trans hq⟩

theorem Q6Inv.add (h : Q6Inv calls) : Q6Inv (calls ++ [.add rm1 rxBypassIpa]) := by
  have hcheck := h.check
  have hsnoc := outstanding_snoc .q6Cons calls (.add rm1 rxBypassIpa)
  dsimp only at hsnoc
  refine h.snoc (.added rm1 rxBypassIpa) ?_ ?_ (fun _ => rfl) fun row hq hup => ?_
  · rw [run_snoc]
    exact addRmDepend_tbl h.tabled
  · rw [run_snoc, hsnoc, step, addRmDepend]
    dsimp only
    split <;> push_cast <;> omega
  · have hmark : (row.added rm1 rxBypassIpa).consumer1Up = true ↔
        row.consumer1Up = true ∨ rm1 = .q6Cons := by
      simp only [RmClient.added, hq, Bool.or_eq_true, decide_eq_true_eq]
    rw [hsnoc, hmark, hup]
    split
    · next heq => exact iff_of_true (.inr heq) (Nat.succ_pos _)
    · next hne => exact or_iff_left hne

theorem deleted_consumer1Up {row : RmClient} (hq : row.consumerRm1 = .q6Cons) (check : Int) :
    (row.deleted rm1 check).consumer1Up = true ↔
      row.consumer1Up = true ∧ (rm1 = .q6Cons → check = 1) := by
  simp only [RmClient.deleted, RmClient.stays, hq, true_and, Bool.and_eq_true,
    decide_eq_true_eq, decide_eq_false_iff_not, not_and, not_not]

theorem Q6Inv.check_del (h : Q6Inv calls)
    (hpos : rm1 = .q6Cons → 0 < outstanding .q6Cons calls) :
    (run (calls ++ [.del rm1])).ipaRmA2Check =
      outstanding .q6Cons (calls ++ [.del rm1]) := by
  have hcheck := h.check
  rw [run_snoc, outstanding_snoc, step, delRmDepend]
  dsimp only
  split
  · next heq =>
      have := hpos heq
      omega
  · exact hcheck

theorem Q6Inv.del_tbl (h : Q6Inv calls) (rm1 : RmResource) :
    (run (calls ++ [.del rm1])).ipaRmTbl = (run calls).ipaRmTbl.map
      (.deleted rm1 (run (calls ++ [.del rm1])).ipaRmA2Check) := by
  rw [run_snoc]
  exact delRmDepend_tbl h.tabled

theorem Q6Inv.del (h : Q6Inv calls)
    (hpos : rm1 = .q6Cons → 0 < outstanding .q6Cons calls)
    (hfew : rm1 = .q6Cons → outstanding .q6Cons calls ≤ 2) :
    Q6Inv (calls ++ [.del rm1]) := by
  have hcheck := h.check_del hpos
  refine h.snoc _ (h.del_tbl rm1) hcheck (fun _ => rfl) fun row hq hup => ?_
  rw [deleted_consumer1Up hq, hup, hcheck, outstanding_snoc]
  dsimp only
  by_cases heq : rm1 = .q6Cons
  · have hsome := hpos heq
    have := hfew heq
    rw [if_pos heq]
    constructor
    · rintro ⟨-, hone⟩
      have := hone heq
      omega
    · exact fun hleft => ⟨hsome, fun _ => by omega⟩
  · rw [if_neg heq]
    exact and_iff_left fun h => absurd h heq

theorem Q6Inv.not_up (h : Q6Inv calls) (hmany : 3 ≤ outstanding .q6Cons calls) :
    ¬(run (calls ++ [.del .q6Cons])).Q6Up
      (0 < outstanding .q6Cons (calls ++ [.del .q6Cons])) := by
  intro hall
  obtain ⟨row, hrow, hq⟩ := h.row
  have hmem := List.mem_map_of_mem (f := RmClient.deleted .q6Cons
    (run (calls ++ [.del .q6Cons])).ipaRmA2Check) hrow
  rw [← h.del_tbl] at hmem
  have hmark := (hall _ hmem hq).1
  rw [deleted_consumer1Up hq, h.check_del (fun _ => by omega), outstanding_snoc] at hmark
  dsimp only at hmark
  rw [if_pos rfl] at hmark
  have hone := (hmark.mpr (by omega)).2 rfl
  omega

/-! ## Runs -/

/-- The rows of the Q6 consumer are up while adds outnumber deletes, throughout the calls
just when no delete comes while three users or more are left. -/
theorem run_q6Up_iff (calls : List Call) (hbalanced : Q6Balanced calls) :
    (∀ pre, pre <+: calls → (run pre).Q6Up (0 < outstanding .q6Cons pre)) ↔
      ∀ pre call, pre ++ [call] <+: calls → call = .del .q6Cons →
        outstanding .q6Cons pre ≤ 2 := by
  refine forall_prefix_iff_of_invariant q6Inv_nil (fun pre h => h.q6Up)
    (fun pre call hpre h hfew => ?_) fun pre call _ h hup heq => ?_
  · cases call with
    | add rm1 rxBypassIpa => exact h.add
    | del rm1 =>
      refine h.del (fun heq => ?_) fun heq => hfew (congrArg _ heq)
      subst heq
      exact hbalanced pre hpre
  · subst heq
    by_contra hmany
    exact h.not_up (by omega) hup

/-- Two default routes with the WLAN producer up, and one of them goes. -/
def twoRoutes : List Call :=
  [.add .wlanProd false, .add .q6Cons false, .add .q6Cons false, .del .q6Cons]

/-- A third one, of which the first to go takes the rows with it. -/
def threeRoutes : List Call :=
  [.add .wlanProd false, .add .q6Cons false, .add .q6Cons false, .add .q6Cons false,
    .del .q6Cons]

theorem twoRoutes_q6Up :
    (run (twoRoutes.take 3)).Q6Up (0 < outstanding .q6Cons (twoRoutes.take 3)) ∧
      (run twoRoutes).Q6Up (0 < outstanding .q6Cons twoRoutes) := by
  have hall := (run_q6Up_iff twoRoutes
    (fun pre hpre => forall_concat_of_take (C := fun pre call => call = .del .q6Cons →
      0 < outstanding .q6Cons pre) (by decide) pre _ hpre rfl)).mpr
    (forall_concat_of_take (by decide))
  exact ⟨hall _ (List.take_prefix ..), hall _ List.prefix_rfl⟩

theorem threeRoutes_not_q6Up :
    Q6Balanced threeRoutes ∧
      ¬(run threeRoutes).Q6Up (0 < outstanding .q6Cons threeRoutes) := by
  refine ⟨fun pre hpre => forall_concat_of_take (C := fun pre call => call = .del .q6Cons →
    0 < outstanding .q6Cons pre) (by decide) pre _ hpre rfl, fun h => ?_⟩
  have hdown : ∃ row ∈ (run threeRoutes).ipaRmTbl,
      row.consumerRm1 = .q6Cons ∧ row.consumer1Up = false := by decide
  obtain ⟨row, hrow, hq, hdown⟩ := hdown
  have hmark := (h row hrow hq).1.mpr (by decide)
  exact absurd (hdown.symm.trans hmark) nofun

end Config

end Axon7.RmDepend
