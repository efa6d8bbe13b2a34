import Axon7.Lib.CloseGap
import Axon7.Lib.Run

/-!
# The private subnets

`private_subnet_table` of `IPACM_Config`: an address and a mask in each row. A subnet
goes by its address. When one is deleted the addresses behind it are moved down, and
the masks stay where they are.
-/

namespace Axon7.Config

open Axon7.Lib

abbrev Ip := BitVec 32

/-- `ipa_private_subnet`. -/
structure PrivateSubnet where
  subnetAddr : Ip
  subnetMask : Ip
deriving DecidableEq

/-- `IPA_MAX_PRIVATE_SUBNET_ENTRIES`. -/
def maxPrivateSubnetEntries : Nat := 3

/-- The mask of a subnet that is added: `(~0 >> 8) << 8`. -/
def addedMask : Ip := ((~~~(0 : Ip)) >>> 8) <<< 8

/-- An address is in a subnet. -/
def PrivateSubnet.contains (p : PrivateSubnet) (ipAddr : Ip) : Prop :=
  p.subnetAddr = p.subnetMask &&& ipAddr

/-- `IPACM_Config`, as far as it is about the private subnets: the rows, how many of
them are in use, and the interfaces that `IPA_PRIVATE_SUBNET_CHANGE_EVENT` was posted
for. -/
structure SubnetTable where
  privateSubnetTable : List PrivateSubnet
  ipaNumPrivateSubnet : Nat
  posted : List Int

namespace SubnetTable

/-- `Init`: the subnets of the configuration, in a table that was cleared. -/
def init (configured : List PrivateSubnet) : SubnetTable where
  privateSubnetTable := configured ++
    List.replicate (maxPrivateSubnetEntries - configured.length) ⟨0, 0⟩
  ipaNumPrivateSubnet := configured.length
  posted := []

/-- The rows in use. -/
def rows (s : SubnetTable) : List PrivateSubnet :=
  s.privateSubnetTable.take s.ipaNumPrivateSubnet

/-- `isPrivateSubnet`. -/
def isPrivateSubnet (s : SubnetTable) (ipAddr : Ip) : Bool :=
  s.rows.any fun row => row.subnetAddr = row.subnetMask &&& ipAddr

/-- `AddPrivateSubnet`, and what it returns. -/
def addPrivateSubnet (ipAddr : Ip) (ipaIfIndex : Int) (s : SubnetTable) :
    Bool × SubnetTable :=
  if s.rows.any fun row => row.subnetAddr = ipAddr then (true, s)
  else if s.ipaNumPrivateSubnet < maxPrivateSubnetEntries then
    (true,
      { privateSubnetTable :=
          s.privateSubnetTable.set s.ipaNumPrivateSubnet ⟨ipAddr, addedMask⟩
        ipaNumPrivateSubnet := s.ipaNumPrivateSubnet + 1
        posted := s.posted ++ [ipaIfIndex] })
  else (false, s)

/-- What the loop of `DelPrivateSubnet` moves: the address. -/
def moveAddr (row next : PrivateSubnet) : PrivateSubnet × PrivateSubnet :=
  ({ row with subnetAddr := next.subnetAddr }, next)

/-- `DelPrivateSubnet`, and what it returns. -/
def delPrivateSubnet (ipAddr : Ip) (ipaIfIndex : Int) (s : SubnetTable) :
    Bool × SubnetTable :=
  match s.rows.findIdx? fun row => row.subnetAddr = ipAddr with
  | none => (false, s)
  | some cnt =>
    (true,
      { privateSubnetTable :=
          closeGap moveAddr cnt s.ipaNumPrivateSubnet s.privateSubnetTable
        ipaNumPrivateSubnet := s.ipaNumPrivateSubnet - 1
        posted := s.posted ++ [ipaIfIndex] })

end SubnetTable

/-- The calls. -/
inductive SubnetOp
  | add (ipAddr : Ip) (ipaIfIndex : Int)
  | del (ipAddr : Ip) (ipaIfIndex : Int)

def SubnetTable.step (s : SubnetTable) : SubnetOp → SubnetTable
  | .add ipAddr ipaIfIndex => (s.addPrivateSubnet ipAddr ipaIfIndex).2
  | .del ipAddr ipaIfIndex => (s.delPrivateSubnet ipAddr ipaIfIndex).2

/-! ## What the table is for -/

/-- The subnets that are configured or were added, and not deleted since. One that is
there already is not added, and none is while there are as many as there may be. -/
def subnets (ps : List PrivateSubnet) : SubnetOp → List PrivateSubnet
  | .add ipAddr _ =>
    if ∃ p ∈ ps, p.subnetAddr = ipAddr then ps
    else if ps.length < maxPrivateSubnetEntries then ps ++ [⟨ipAddr, addedMask⟩]
    else ps
  | .del ipAddr _ => ps.eraseP fun p => p.subnetAddr = ipAddr

/-- The table tells what is in one of the subnets, and has their addresses and masks
together. -/
structure Tells (s : SubnetTable) (ps : List PrivateSubnet) : Prop where
  isPrivateSubnet : ∀ ip, s.isPrivateSubnet ip = true ↔ ∃ p ∈ ps, p.contains ip
  together : s.rows = ps

/-- The subnets from the one that is deleted on have one mask. -/
def OneMask (ps : List PrivateSubnet) : SubnetOp → Prop
  | .add _ _ => True
  | .del ipAddr _ => ∀ p ∈ ps.dropWhile (·.subnetAddr ≠ ipAddr),
      ∀ q ∈ ps.dropWhile (·.subnetAddr ≠ ipAddr), q.subnetMask = p.subnetMask

namespace SubnetTable

variable {s : SubnetTable} {ps : List PrivateSubnet}

theorem tells_iff : Tells s ps ↔ s.rows = ps := by
  refine ⟨Tells.together, fun h => ⟨fun ip => ?_, h⟩⟩
  rw [SubnetTable.isPrivateSubnet, h, List.any_eq_true]
  simp [PrivateSubnet.contains]

/-- The table has room for all rows. -/
def Sized (s : SubnetTable) : Prop :=
  s.privateSubnetTable.length = maxPrivateSubnetEntries ∧
    s.ipaNumPrivateSubnet ≤ maxPrivateSubnetEntries

theorem Sized.length_rows (h : s.Sized) : s.rows.length = s.ipaNumPrivateSubnet :=
  List.length_take_of_le (h.1 ▸ h.2)

theorem Sized.step (h : s.Sized) (op : SubnetOp) : (s.step op).Sized := by
  cases op with
  | add ip i =>
    rw [SubnetTable.step, addPrivateSubnet]
    split
    · exact h
    split
    · rename_i hroom
      exact ⟨(List.length_set ..).trans h.1, hroom⟩
    · exact h
  | del ip i =>
    rw [SubnetTable.step, delPrivateSubnet]
    split
    · exact h
    · exact ⟨length_closeGap.trans h.1, (Nat.sub_le _ _).trans h.2⟩

theorem Sized.addPrivateSubnet_rows (h : s.Sized) (ip : Ip) (i : Int) :
    (s.addPrivateSubnet ip i).2.rows = subnets s.rows (.add ip i) := by
  have hany : (s.rows.any fun row => row.subnetAddr = ip) = true ↔
      ∃ p ∈ s.rows, p.subnetAddr = ip := by
    simp
  rw [addPrivateSubnet, subnets]
  split
  · rename_i hin
    rw [if_pos (hany.mp hin)]
  · rename_i hout
    rw [if_neg fun hin => hout (hany.mpr hin), h.length_rows]
    split
    · rename_i hroom
      have hlt : s.ipaNumPrivateSubnet < s.privateSubnetTable.length := by
        rw [h.1]
        exact hroom
      show (s.privateSubnetTable.set _ _).take (s.ipaNumPrivateSubnet + 1) = _
      rw [List.take_add_one, List.take_set_of_le (Nat.le_refl _),
        List.getElem?_set_self hlt]
      rfl
    · rfl

theorem dropLast_cons_eq_iff {α : Type*} {a : α} {l : List α} :
    (a :: l).dropLast = l ↔ ∀ b ∈ l, b = a := by
  induction l generalizing a with
  | nil => exact iff_of_true rfl fun b hb => absurd hb List.not_mem_nil
  | cons c l ih =>
    rw [List.dropLast_cons_cons, List.cons.injEq, ih, List.forall_mem_cons, eq_comm]
    refine and_congr_right fun hc => ?_
    rw [hc]

theorem ext_maps {rows rows' : List PrivateSubnet}
    (haddr : rows.map (·.subnetAddr) = rows'.map (·.subnetAddr))
    (hmask : rows.map (·.subnetMask) = rows'.map (·.subnetMask)) : rows = rows' := by
  have hpair : Function.Injective
      fun p : PrivateSubnet => (p.subnetAddr, p.subnetMask) := by
    rintro ⟨a, m⟩ ⟨a', m'⟩ h
    obtain ⟨rfl, rfl⟩ := Prod.mk.inj h
    rfl
  have hzip : ∀ l : List PrivateSubnet, l.map (fun p => (p.subnetAddr, p.subnetMask)) =
      (l.map (·.subnetAddr)).zip (l.map (·.subnetMask)) := fun l => List.zip_map'.symm
  apply hpair.list_map
  rw [hzip, hzip, haddr, hmask]

theorem Sized.delPrivateSubnet_rows (h : s.Sized) {pre post : List PrivateSubnet}
    {p : PrivateSubnet} (hrows : s.rows = pre ++ p :: post)
    (hpre : ∀ q ∈ pre, q.subnetAddr ≠ p.subnetAddr) (i : Int) :
    (s.delPrivateSubnet p.subnetAddr i).2.rows.map (·.subnetAddr) =
        (pre ++ post).map (·.subnetAddr) ∧
      (s.delPrivateSubnet p.subnetAddr i).2.rows.map (·.subnetMask) =
        (pre.map (·.subnetMask)) ++ ((p :: post).map (·.subnetMask)).dropLast := by
  have hlen : s.ipaNumPrivateSubnet = pre.length + (post.length + 1) := by
    rw [← h.length_rows, hrows, List.length_append, List.length_cons]
  have hfind : (s.rows.findIdx? fun row => row.subnetAddr = p.subnetAddr) =
      some pre.length := by
    rw [hrows, List.findIdx?_append, List.findIdx?_eq_none_iff.mpr (by simpa using hpre)]
    simp [List.findIdx?_cons]
  have hfit : s.ipaNumPrivateSubnet ≤ s.privateSubnetTable.length := h.1 ▸ h.2
  have hafter : (s.delPrivateSubnet p.subnetAddr i).2.rows =
      (closeGap moveAddr pre.length s.ipaNumPrivateSubnet s.privateSubnetTable).take
        (s.ipaNumPrivateSubnet - 1) := by
    rw [delPrivateSubnet, hfind]
    rfl
  rw [hafter]
  constructor
  · rw [map_take_closeGap (fun _ _ => rfl) (by omega) hfit]
    show (s.rows.eraseIdx pre.length).map _ = _
    rw [hrows, List.eraseIdx_append_of_length_le (Nat.le_refl _), Nat.sub_self,
      List.eraseIdx_cons_zero]
  · have hone : s.ipaNumPrivateSubnet - 1 = (s.rows.map (·.subnetMask)).length - 1 := by
      rw [List.length_map, h.length_rows]
    rw [List.map_take, map_closeGap (fun _ _ => rfl) (fun _ _ => rfl),
      ← Nat.min_eq_left (Nat.sub_le s.ipaNumPrivateSubnet 1), ← List.take_take,
      ← List.map_take]
    show (s.rows.map (·.subnetMask)).take (s.ipaNumPrivateSubnet - 1) = _
    rw [hone, ← List.dropLast_eq_take, hrows, List.map_append, List.map_cons,
      List.dropLast_append_of_ne_nil (List.cons_ne_nil _ _)]

theorem Sized.step_rows_iff (h : s.Sized) (hrows : s.rows = ps) (op : SubnetOp) :
    (s.step op).rows = subnets ps op ↔ OneMask ps op := by
  subst hrows
  cases op with
  | add ip i => exact iff_of_true (h.addPrivateSubnet_rows ip i) trivial
  | del ip i =>
    by_cases hin : ∃ p ∈ s.rows, p.subnetAddr = ip
    · obtain ⟨p, pre, post, hout, hp, hsplit, herase⟩ := List.exists_of_eraseP (p := fun q =>
        decide (q.subnetAddr = ip)) hin.choose_spec.1 (by simpa using hin.choose_spec.2)
      have hpre : ∀ q ∈ pre, q.subnetAddr ≠ ip := fun q hq => by simpa using hout q hq
      obtain rfl : p.subnetAddr = ip := by simpa using hp
      obtain ⟨haddr, hmask⟩ := h.delPrivateSubnet_rows hsplit hpre i
      have hsame : (s.step (.del p.subnetAddr i)).rows =
          subnets s.rows (.del p.subnetAddr i) ↔
            ((p :: post).map (·.subnetMask)).dropLast = post.map (·.subnetMask) := by
        rw [subnets, herase]
        constructor
        · intro heq
          have hboth := hmask.symm.trans (congrArg (List.map (·.subnetMask)) heq)
          rw [List.map_append] at hboth
          exact List.append_cancel_left hboth
        · intro heq
          exact ext_maps haddr (hmask.trans (by rw [heq, List.map_append]))
      have hlater : s.rows.dropWhile (·.subnetAddr ≠ p.subnetAddr) = p :: post := by
        rw [hsplit, List.dropWhile_append_of_pos fun q hq => decide_eq_true (hpre q hq),
          List.dropWhile_cons_of_neg (by simp)]
      rw [hsame, List.map_cons, dropLast_cons_eq_iff, OneMask, hlater]
      constructor
      · intro hall
        have hmasks : ∀ q ∈ p :: post, q.subnetMask = p.subnetMask := by
          intro q hq
          obtain rfl | hq := List.mem_cons.mp hq
          · rfl
          · exact hall _ (List.mem_map_of_mem hq)
        exact fun q hq r hr => (hmasks r hr).trans (hmasks q hq).symm
      · intro hall m hm
        obtain ⟨q, hq, rfl⟩ := List.mem_map.mp hm
        exact hall p List.mem_cons_self q (List.mem_cons_of_mem _ hq)
    · have hnone : (s.rows.findIdx? fun row => row.subnetAddr = ip) = none := by
        rw [List.findIdx?_eq_none_iff]
        intro q hq
        simpa using fun hip => hin ⟨q, hq, hip⟩
      have hstep : s.step (.del ip i) = s := by
        rw [SubnetTable.step, delPrivateSubnet, hnone]
      rw [hstep, subnets, List.eraseP_of_forall_not fun q hq => by
        simpa using fun hip => hin ⟨q, hq, hip⟩]
      have hlater : s.rows.dropWhile (·.subnetAddr ≠ ip) = [] := by
        rw [List.dropWhile_eq_nil_iff]
        exact fun q hq => decide_eq_true fun hip => hin ⟨q, hq, hip⟩
      rw [OneMask, hlater]
      exact iff_of_true rfl fun p hp => absurd hp List.not_mem_nil

/-! ## Runs -/

theorem init_rows {configured : List PrivateSubnet} : (init configured).rows = configured :=
  List.take_left

theorem init_sized {configured : List PrivateSubnet}
    (hfit : configured.length ≤ maxPrivateSubnetEntries) : (init configured).Sized := by
  refine ⟨?_, hfit⟩
  rw [init, List.length_append, List.length_replicate]
  exact Nat.add_sub_cancel' hfit

/-- All along a run the table tells what is in the subnets, and keeps addresses and
masks together, just if no deletion has a subnet with another mask behind it. -/
theorem run_tells_iff (configured : List PrivateSubnet)
    (hfit : configured.length ≤ maxPrivateSubnetEntries) (ops : List SubnetOp) :
    (∀ pre, pre <+: ops →
      Tells (pre.foldl step (init configured)) (pre.foldl subnets configured)) ↔
        ∀ pre op, pre ++ [op] <+: ops → OneMask (pre.foldl subnets configured) op := by
  have hsized : ∀ pre : List SubnetOp, (pre.foldl step (init configured)).Sized := by
    intro pre
    exact foldl_invariant Sized (fun _ => True) (fun s op h _ => h.step op)
      (init_sized hfit) pre fun _ _ => trivial
  simp only [tells_iff]
  refine forall_prefix_iff (P := fun pre => (pre.foldl step (init configured)).rows =
    pre.foldl subnets configured) init_rows fun pre op _ hrows => ?_
  rw [List.foldl_concat, List.foldl_concat]
  exact (hsized pre).step_rows_iff hrows op

/-- 10.0.0.0/8 and 192.168.0.0/16. -/
def configuredSubnets : List PrivateSubnet :=
  [⟨0x0A000000, 0xFF000000⟩, ⟨0xC0A80000, 0xFFFF0000⟩]

/-- A subnet comes and goes. -/
def visit : List SubnetOp := [.add 0xC0A82B00 1, .del 0xC0A82B00 1]

theorem visit_tells : Tells (visit.foldl step (init configuredSubnets))
    (visit.foldl subnets configuredSubnets) := by
  refine (run_tells_iff configuredSubnets (by decide) visit).mpr
    (forall_concat_of_take fun k hk => ?_) visit List.prefix_rfl
  have hk : k < 2 := hk
  have hadded : (visit.take 1).foldl subnets configuredSubnets =
      configuredSubnets ++ [⟨0xC0A82B00, addedMask⟩] := by decide
  interval_cases k
  · exact trivial
  · rw [hadded]
    have hlast : ∀ p ∈ [(⟨0xC0A82B00, addedMask⟩ : PrivateSubnet)],
        ∀ q ∈ [(⟨0xC0A82B00, addedMask⟩ : PrivateSubnet)], q.subnetMask = p.subnetMask := by
      decide
    exact hlast

/-- The first of the configured subnets goes, and 192.168.0.0 is left with the mask of
10.0.0.0: 192.168.1.1 is not in it any more. -/
theorem delFirst_not_tells : ¬ Tells ([SubnetOp.del 0x0A000000 1].foldl step
    (init configuredSubnets)) ([SubnetOp.del 0x0A000000 1].foldl subnets configuredSubnets) := by
  intro h
  have hin := (h.isPrivateSubnet 0xC0A80101).mpr ⟨⟨0xC0A80000, 0xFFFF0000⟩, by decide, rfl⟩
  have hout : ([SubnetOp.del 0x0A000000 1].foldl step
    (init configuredSubnets)).isPrivateSubnet 0xC0A80101 = false := by decide
  exact Bool.false_ne_true (hout.symm.trans hin)

end SubnetTable

end Axon7.Config
