import Axon7.Conntrack.CtListener
import Axon7.Lib.Run

/-!
# The clients of the station

`sta_clnt_ipv4_addr` gets an address in its first free slot, and a slot is free again
when its address goes. `CheckSTAClient` looks at as many slots as there are addresses,
and takes the first for the subnet: it sees all of them as long as there is no hole.
-/

namespace Axon7.Conntrack

open Axon7.Lib

/-- `HandleSTAClientAddEvt`, with what the driver answers, or
`HandleSTAClientDelEvt`. -/
inductive StaEvent
  | add (clntIpAddr : Ip) (reply : Nat → Option Nat)
  | del (clntIpAddr : Ip)

namespace StaEvent

local instance : LawfulBEq Ip := instLawfulBEq

/-- The addresses that were added and not deleted since, in the order they came. -/
def present (clnts : List Ip) : StaEvent → List Ip
  | .add ip _ => if ip ∈ clnts then clnts else clnts ++ [ip]
  | .del ip => clnts.erase ip

/-- An address that comes is not 0. -/
def Valid : StaEvent → Prop
  | .add ip _ => ip ≠ 0
  | .del _ => True

end StaEvent

namespace CtListener

variable {s : CtListener} {clnts : List Ip} {ip : Ip}

def staStep (s : CtListener) : StaEvent → CtListener
  | .add ip reply => s.handleSTAClientAddEvt ip reply
  | .del ip => s.handleSTAClientDelEvt ip

/-- The subnet of an address. -/
def staSubnet (ip : Ip) : Ip := ip &&& staClntSubnetMask

/-- While there are clients, a rule is kept for later just if its target is in their
subnet and is none of them. -/
def TellsClients (s : CtListener) (clnts : List Ip) : Prop :=
  clnts ≠ [] → ∀ rule : TempEntry, s.checkSTAClient rule = true ↔
    (∃ c ∈ clnts, staSubnet c = staSubnet rule.targetIp) ∧ rule.targetIp ∉ clnts

/-- The slots hold the clients without a hole, all of one subnet. -/
structure Stacked (s : CtListener) (clnts : List Ip) : Prop where
  isStaMode : s.isStaMode = true
  slots : s.staClntIpv4Addr = clnts ++ List.replicate (maxStaClntIfaces - clnts.length) 0
  staClntCnt : s.staClntCnt = clnts.length
  fits : clnts.length ≤ maxStaClntIfaces
  nodup : clnts.Nodup
  nonzero : 0 ∉ clnts
  subnet : ∀ c ∈ clnts, ∀ d ∈ clnts, staSubnet c = staSubnet d

theorem checkSTAClient_iff (hmode : s.isStaMode = true) (hcnt : s.staClntCnt ≠ 0)
    (rule : TempEntry) : s.checkSTAClient rule = true ↔
      staSubnet (s.staClntIpv4Addr.headD 0) = staSubnet rule.targetIp ∧
        rule.targetIp ∉ s.staClntIpv4Addr.take s.staClntCnt.toNat := by
  rw [checkSTAClient, hmode, if_neg (by simp [hcnt])]
  split
  · rename_i hne
    exact iff_of_false Bool.false_ne_true fun hand => hne hand.1
  · rename_i hsub
    have hsub : staSubnet (s.staClntIpv4Addr.headD 0) = staSubnet rule.targetIp := not_not.mp hsub
    rw [and_iff_right hsub]
    simp

theorem Stacked.tells (h : s.Stacked clnts) : s.TellsClients clnts := by
  intro hne rule
  obtain ⟨c, rest, hcons⟩ := List.exists_cons_of_ne_nil hne
  have hc : c ∈ clnts := by
    rw [hcons]
    exact List.mem_cons_self
  have hcnt : s.staClntCnt ≠ 0 := by
    rw [h.staClntCnt, hcons]
    exact Int.natCast_ne_zero.mpr (Nat.succ_ne_zero _)
  have hhead : s.staClntIpv4Addr.headD 0 = c := by
    rw [h.slots, hcons]
    rfl
  have htake : s.staClntIpv4Addr.take s.staClntCnt.toNat = clnts := by
    rw [h.staClntCnt, Int.toNat_natCast, h.slots, List.take_left]
  rw [checkSTAClient_iff h.isStaMode hcnt, hhead, htake]
  refine and_congr_left fun _ => ⟨fun hsub => ⟨c, hc, hsub⟩, fun ⟨d, hd, hsub⟩ => ?_⟩
  rw [h.subnet c hc d hd, hsub]

/-- The address of a number in a subnet. -/
def inSubnet (ip : Ip) (k : Nat) : Ip := staSubnet ip ||| BitVec.ofNat 32 k

theorem staSubnet_inSubnet (ip : Ip) {k : Nat} (hk : k < 11) :
    staSubnet (inSubnet ip k) = staSubnet ip := by
  have hlow : ∀ k < 11, BitVec.ofNat 32 k &&& staClntSubnetMask = 0#32 := by decide
  rw [inSubnet, staSubnet, staSubnet, BitVec.and_or_distrib_right, hlow k hk,
    BitVec.and_assoc, BitVec.and_self, BitVec.or_zero]

theorem inSubnet_inj (ip : Ip) {k k' : Nat} (hk : k < 11) (hk' : k' < 11)
    (h : inSubnet ip k = inSubnet ip k') : k = k' := by
  have hhost : ∀ k < 11, inSubnet ip k &&& ~~~staClntSubnetMask = BitVec.ofNat 32 k := by
    intro k hk
    have hlow : ∀ k < 11, BitVec.ofNat 32 k &&& ~~~staClntSubnetMask = BitVec.ofNat 32 k := by
      decide
    have hnone : staClntSubnetMask &&& ~~~staClntSubnetMask = 0#32 := by decide
    rw [inSubnet, staSubnet, BitVec.and_or_distrib_right, hlow k hk, BitVec.and_assoc, hnone,
      BitVec.and_zero, BitVec.zero_or]
  have heq := hhost k hk
  rw [h, hhost k' hk'] at heq
  have hnat := congrArg BitVec.toNat heq
  rw [BitVec.toNat_ofNat, BitVec.toNat_ofNat] at hnat
  omega

theorem exists_stranger (ip : Ip) (h : clnts.length ≤ maxStaClntIfaces) :
    ∃ t, staSubnet t = staSubnet ip ∧ t ∉ clnts := by
  have hcard : clnts.toFinset.card < ((Finset.range 11).image (inSubnet ip)).card := by
    rw [Finset.card_image_of_injOn, Finset.card_range]
    · have hle := clnts.toFinset_card_le
      rw [maxStaClntIfaces] at h
      omega
    · intro k hk k' hk' heq
      exact inSubnet_inj ip (Finset.mem_range.mp hk) (Finset.mem_range.mp hk') heq
  obtain ⟨t, ht, hout⟩ := Finset.exists_mem_notMem_of_card_lt_card hcard
  obtain ⟨k, hk, rfl⟩ := Finset.mem_image.mp ht
  exact ⟨_, staSubnet_inSubnet ip (Finset.mem_range.mp hk),
    fun hmem => hout (List.mem_toFinset.mpr hmem)⟩

theorem TellsClients.scanned (h : s.TellsClients clnts) (hmode : s.isStaMode = true)
    (hcnt : s.staClntCnt ≠ 0) (hfits : clnts.length ≤ maxStaClntIfaces) {c : Ip}
    (hc : c ∈ clnts) : staSubnet (s.staClntIpv4Addr.headD 0) = staSubnet c ∧
      c ∈ s.staClntIpv4Addr.take s.staClntCnt.toNat := by
  have h := h (List.ne_nil_of_mem hc)
  simp only [checkSTAClient_iff hmode hcnt] at h
  have hsub : staSubnet (s.staClntIpv4Addr.headD 0) = staSubnet c := by
    obtain ⟨t, ht, hout⟩ := exists_stranger c hfits
    have hmark := (h { TempEntry.empty with targetIp := t }).mpr ⟨⟨c, hc, ht.symm⟩, hout⟩
    exact hmark.1.trans ht
  refine ⟨hsub, ?_⟩
  by_contra hout
  exact ((h { TempEntry.empty with targetIp := c }).mp ⟨hsub, hout⟩).2 hc

/-! ## The slots -/

theorem Stacked.add_present (h : s.Stacked clnts) (hip : ip ∈ clnts)
    (reply : Nat → Option Nat) : (s.handleSTAClientAddEvt ip reply).Stacked clnts := by
  rw [handleSTAClientAddEvt]
  split
  · exact h
  dsimp only
  obtain ⟨cnt, hcnt⟩ : ∃ cnt, clnts.findIdx? (fun x => (x ≠ 0 && x = ip) || x = 0) =
      some cnt := by
    refine Option.isSome_iff_exists.mp ?_
    rw [List.findIdx?_isSome, List.any_eq_true]
    exact ⟨ip, hip, by simp⟩
  obtain ⟨hlt, -⟩ := List.findIdx?_eq_some_iff_getElem.mp hcnt
  have hslot : s.staClntIpv4Addr[cnt]? ≠ some 0 := by
    rw [h.slots, List.getElem?_append_left hlt, List.getElem?_eq_getElem hlt]
    intro hzero
    exact h.nonzero ((Option.some.inj hzero) ▸ List.getElem_mem hlt)
  have hfind : s.staClntIpv4Addr.findIdx? (fun x => (x ≠ 0 && x = ip) || x = 0) = some cnt := by
    rw [h.slots, List.findIdx?_append, hcnt]
    rfl
  rw [hfind]
  dsimp only
  rw [if_neg hslot]
  exact ⟨h.isStaMode, h.slots, h.staClntCnt, h.fits, h.nodup, h.nonzero, h.subnet⟩

theorem Stacked.add_new (h : s.Stacked clnts) (hip : ip ∉ clnts)
    (hroom : clnts.length < maxStaClntIfaces) (reply : Nat → Option Nat) :
    (s.handleSTAClientAddEvt ip reply).isStaMode = true ∧
      (s.handleSTAClientAddEvt ip reply).staClntIpv4Addr =
        (clnts ++ [ip]) ++ List.replicate (maxStaClntIfaces - (clnts ++ [ip]).length) 0 ∧
      (s.handleSTAClientAddEvt ip reply).staClntCnt = (clnts ++ [ip]).length := by
  have hnone : clnts.findIdx? (fun x => (x ≠ 0 && x = ip) || x = 0) = none := by
    rw [List.findIdx?_eq_none_iff]
    intro x hx
    have hx0 : x ≠ 0#32 := by
      rintro rfl
      exact h.nonzero hx
    have hxip : x ≠ ip := fun heq => hip (heq ▸ hx)
    simp [hx0, hxip]
  obtain ⟨k, hk⟩ : ∃ k, maxStaClntIfaces - clnts.length = k + 1 := ⟨_, (Nat.succ_pred_eq_of_pos
    (Nat.sub_pos_of_lt hroom)).symm⟩
  have hslots : s.staClntIpv4Addr = clnts ++ 0 :: List.replicate k 0 := by
    rw [h.slots, hk, List.replicate_succ]
  have hfind : s.staClntIpv4Addr.findIdx? (fun x => (x ≠ 0 && x = ip) || x = 0) =
      some clnts.length := by
    rw [hslots, List.findIdx?_append, hnone]
    simp [List.findIdx?_cons]
  have hfull : ¬ s.staClntCnt ≥ maxStaClntIfaces := by
    rw [h.staClntCnt]
    omega
  rw [handleSTAClientAddEvt, if_neg hfull]
  dsimp only
  rw [hfind]
  dsimp only
  rw [if_pos (by rw [hslots, List.getElem?_append_right (Nat.le_refl _), Nat.sub_self]; rfl)]
  refine ⟨h.isStaMode, ?_, ?_⟩
  · show s.staClntIpv4Addr.set clnts.length ip = _
    rw [hslots, List.set_append_right _ _ (Nat.le_refl _), Nat.sub_self, List.set_cons_zero,
      List.append_assoc, List.length_append, List.length_singleton, ← Nat.sub_sub, hk]
    rfl
  · show s.staClntCnt + 1 = _
    rw [h.staClntCnt, List.length_append, List.length_singleton]
    rfl

theorem Stacked.del_absent (h : s.Stacked clnts) (hip : ip ∉ clnts) :
    (s.handleSTAClientDelEvt ip).Stacked clnts := by
  have hnone : s.staClntIpv4Addr.findIdx? (fun x => x ≠ 0 && x = ip) = none := by
    rw [h.slots, List.findIdx?_eq_none_iff]
    intro x hx
    obtain hx | hx := List.mem_append.mp hx
    · have hne : x ≠ ip := fun heq => hip (heq ▸ hx)
      simp [hne]
    · simp [List.eq_of_mem_replicate hx]
  rw [handleSTAClientDelEvt, hnone]
  exact ⟨h.isStaMode, h.slots, h.staClntCnt, h.fits, h.nodup, h.nonzero, h.subnet⟩

theorem Stacked.del_slots {before after : List Ip} (h : s.Stacked (before ++ ip :: after)) :
    (s.handleSTAClientDelEvt ip).isStaMode = true ∧
      (s.handleSTAClientDelEvt ip).staClntIpv4Addr = before ++ 0 :: (after ++
        List.replicate (maxStaClntIfaces - (before ++ ip :: after).length) 0) ∧
      (s.handleSTAClientDelEvt ip).staClntCnt = (before ++ after).length := by
  have hslots := h.slots
  rw [List.append_assoc, List.cons_append] at hslots
  have hne : ip ≠ 0#32 := by
    rintro rfl
    exact h.nonzero (List.mem_append_right _ List.mem_cons_self)
  have hnone : before.findIdx? (fun x => x ≠ 0 && x = ip) = none := by
    rw [List.findIdx?_eq_none_iff]
    intro x hx
    have hxip : x ≠ ip := fun heq =>
      (List.nodup_append.mp h.nodup).2.2 x hx ip List.mem_cons_self heq
    simp [hxip]
  have hfind : s.staClntIpv4Addr.findIdx? (fun x => x ≠ 0 && x = ip) = some before.length := by
    rw [hslots, List.findIdx?_append, hnone]
    simp [List.findIdx?_cons, hne]
  rw [handleSTAClientDelEvt, hfind]
  refine ⟨h.isStaMode, ?_, ?_⟩
  · show s.staClntIpv4Addr.set before.length 0 = _
    rw [hslots, List.set_append_right _ _ (Nat.le_refl _), Nat.sub_self, List.set_cons_zero]
  · show s.staClntCnt - 1 = _
    rw [h.staClntCnt, List.length_append, List.length_cons, List.length_append]
    omega

/-! ## One event -/

/-- The clients that come are of one subnet, and the one that came last goes first. -/
def LastOut (clnts : List Ip) : StaEvent → Prop
  | .add ip _ => ∀ c ∈ clnts, staSubnet c = staSubnet ip
  | .del ip => ip ∈ clnts → clnts.getLast? = some ip

theorem Stacked.staStep (h : s.Stacked clnts) {ev : StaEvent} (hvalid : ev.Valid)
    (hfits : (ev.present clnts).length ≤ maxStaClntIfaces) (hev : LastOut clnts ev) :
    (s.staStep ev).Stacked (ev.present clnts) := by
  cases ev with
  | add ip reply =>
    rw [StaEvent.present] at hfits ⊢
    split at hfits
    · rename_i hip
      rw [if_pos hip]
      exact h.add_present hip reply
    · rename_i hip
      rw [if_neg hip]
      have hroom : clnts.length < maxStaClntIfaces := by
        rw [List.length_append, List.length_singleton] at hfits
        exact hfits
      obtain ⟨hmode, hslots, hcnt⟩ := h.add_new hip hroom reply
      have hsame : ∀ c ∈ clnts ++ [ip], staSubnet c = staSubnet ip := by
        intro c hc
        obtain hc | hc := List.mem_append.mp hc
        · exact hev c hc
        · rw [List.mem_singleton.mp hc]
      refine ⟨hmode, hslots, hcnt, hfits, ?_, ?_, fun c hc d hd => ?_⟩
      · rw [← List.concat_eq_append]
        exact h.nodup.concat hip
      · intro hzero
        obtain hzero | hzero := List.mem_append.mp hzero
        · exact h.nonzero hzero
        · exact hvalid (List.mem_singleton.mp hzero).symm
      · rw [hsame c hc, hsame d hd]
  | del ip =>
    by_cases hip : ip ∈ clnts
    · obtain ⟨before, rfl⟩ := List.getLast?_eq_some_iff.mp (hev hip)
      obtain ⟨hmode, hslots, hcnt⟩ := h.del_slots
      have hnot : ip ∉ before := fun hmem =>
        (List.nodup_append.mp h.nodup).2.2 ip hmem ip List.mem_cons_self rfl
      have hpresent : StaEvent.present (before ++ [ip]) (.del ip) = before := by
        rw [StaEvent.present, List.erase_append_right _ hnot, List.erase_cons_head,
          List.append_nil]
      rw [hpresent] at hfits ⊢
      have hlen : (before ++ [ip]).length = before.length + 1 := by simp
      refine ⟨hmode, ?_, ?_, hfits, (List.nodup_append.mp h.nodup).1, ?_, ?_⟩
      · have hle := h.fits
        rw [hlen] at hle
        obtain ⟨k, hk⟩ := Nat.exists_eq_add_of_le hle
        rw [CtListener.staStep, hslots, hlen, List.nil_append, ← List.replicate_succ]
        congr 2
        omega
      · rw [CtListener.staStep, hcnt, List.append_nil]
      · exact fun hzero => h.nonzero (List.mem_append_left _ hzero)
      · exact fun c hc d hd => h.subnet c (List.mem_append_left _ hc) d
          (List.mem_append_left _ hd)
    · rw [StaEvent.present, List.erase_of_not_mem hip]
      exact h.del_absent hip

theorem Stacked.tells_iff (h : s.Stacked clnts) {ev : StaEvent} (hvalid : ev.Valid)
    (hfits : (ev.present clnts).length ≤ maxStaClntIfaces) :
    (s.staStep ev).TellsClients (ev.present clnts) ↔ LastOut clnts ev := by
  refine ⟨fun htells => ?_, fun hev => (h.staStep hvalid hfits hev).tells⟩
  cases ev with
  | add ip reply =>
    intro c hc
    by_cases hip : ip ∈ clnts
    · exact h.subnet c hc ip hip
    · rw [StaEvent.present, if_neg hip] at htells hfits
      have hroom : clnts.length < maxStaClntIfaces := by
        rw [List.length_append, List.length_singleton] at hfits
        exact hfits
      obtain ⟨hmode, hslots, hcnt⟩ := h.add_new hip hroom reply
      have hne : (s.handleSTAClientAddEvt ip reply).staClntCnt ≠ 0 := by
        rw [hcnt, List.length_append, List.length_singleton]
        exact Int.natCast_ne_zero.mpr (Nat.succ_ne_zero _)
      have hscan := fun d hd => (htells.scanned hmode hne hfits (c := d) hd).1
      exact (hscan c (List.mem_append_left _ hc)).symm.trans
        (hscan ip (List.mem_append_right _ List.mem_cons_self))
  | del ip =>
    intro hip
    obtain ⟨before, after, rfl⟩ := List.append_of_mem hip
    obtain rfl | ⟨mid, last, rfl⟩ := after.eq_nil_or_concat'
    · exact List.getLast?_concat
    -- the last client is behind the slots that are looked at
    exfalso
    obtain ⟨hmode, hslots, hcnt⟩ := h.del_slots
    obtain ⟨-, hnodup, hdisj⟩ := List.nodup_append.mp h.nodup
    have hnot : ip ∉ before := fun hmem => hdisj ip hmem ip List.mem_cons_self rfl
    have hpresent : StaEvent.present (before ++ ip :: (mid ++ [last])) (.del ip) =
        before ++ (mid ++ [last]) := by
      rw [StaEvent.present, List.erase_append_right _ hnot, List.erase_cons_head]
    rw [hpresent] at htells hfits
    have hne : (s.handleSTAClientDelEvt ip).staClntCnt ≠ 0 := by
      rw [hcnt, List.length_append, List.length_append, List.length_singleton]
      omega
    have hlast : last ∈ before ++ (mid ++ [last]) := by simp
    have hscan := (htells.scanned hmode hne hfits hlast).2
    have htake : (s.handleSTAClientDelEvt ip).staClntIpv4Addr.take
        (s.handleSTAClientDelEvt ip).staClntCnt.toNat = before ++ 0 :: mid := by
      have hlen : (before ++ (mid ++ [last])).length = (before ++ 0 :: mid).length := by simp
      rw [hslots, hcnt, Int.toNat_natCast, hlen, List.append_assoc, ← List.cons_append,
        ← List.append_assoc, List.take_left]
    rw [show (s.staStep (.del ip)) = s.handleSTAClientDelEvt ip from rfl, htake] at hscan
    have hzero : last ≠ 0 := by
      rintro rfl
      exact h.nonzero (by simp)
    obtain hmem | hmem := List.mem_append.mp hscan
    · exact hdisj last hmem last (by simp) rfl
    · obtain rfl | hmem := List.mem_cons.mp hmem
      · exact hzero rfl
      · rw [List.nodup_cons, List.nodup_append] at hnodup
        exact hnodup.2.2.2 last hmem last List.mem_cons_self rfl

/-! ## Runs -/

/-- `CheckSTAClient` is right all along a run just if every event is in order. -/
theorem staRun_tells_iff (hmode : s.isStaMode = true)
    (hslots : s.staClntIpv4Addr = List.replicate maxStaClntIfaces 0)
    (hcnt : s.staClntCnt = 0) (evs : List StaEvent) (hvalid : ∀ ev ∈ evs, ev.Valid)
    (hfits : ∀ pre, pre <+: evs → (pre.foldl StaEvent.present []).length ≤ maxStaClntIfaces) :
    (∀ pre ev, pre ++ [ev] <+: evs → ((pre ++ [ev]).foldl staStep s).TellsClients
      ((pre ++ [ev]).foldl StaEvent.present [])) ↔
      ∀ pre ev, pre ++ [ev] <+: evs → LastOut (pre.foldl StaEvent.present []) ev := by
  have hstart : s.Stacked [] :=
    ⟨hmode, hslots, hcnt, Nat.zero_le _, List.nodup_nil, List.not_mem_nil,
      fun _ hc => absurd hc List.not_mem_nil⟩
  have hev : ∀ {pre : List StaEvent} {ev : StaEvent}, pre ++ [ev] <+: evs → ev.Valid ∧
      (ev.present (pre.foldl StaEvent.present [])).length ≤ maxStaClntIfaces := by
    intro pre ev hpre
    have hlen := hfits _ hpre
    rw [List.foldl_concat] at hlen
    exact ⟨hvalid ev (hpre.subset (by simp)), hlen⟩
  have hstep : ∀ pre ev, pre ++ [ev] <+: evs →
      (pre.foldl staStep s).Stacked (pre.foldl StaEvent.present []) →
        (((pre ++ [ev]).foldl staStep s).TellsClients
          ((pre ++ [ev]).foldl StaEvent.present []) ↔
            LastOut (pre.foldl StaEvent.present []) ev) := by
    intro pre ev hpre h
    rw [List.foldl_concat, List.foldl_concat]
    exact h.tells_iff (hev hpre).1 (hev hpre).2
  refine forall_concat_iff (I := fun pre => (pre.foldl staStep s).Stacked
    (pre.foldl StaEvent.present [])) hstart (fun pre ev hpre h htells => ?_) hstep
  have hlast := (hstep pre ev hpre h).mp htells
  rw [List.foldl_concat, List.foldl_concat]
  exact h.staStep (hev hpre).1 (hev hpre).2 hlast

/-- A listener in station mode that has no client yet. -/
def inStaMode : CtListener := .new 0x0A000002 true [] (.new 1 0 [] [])

/-- Two clients, of which the second comes and goes. -/
def guest : List StaEvent :=
  [.add 0x0A000003 fun _ => none, .add 0x0A000004 fun _ => none, .del 0x0A000004,
    .add 0x0A000005 fun _ => none]

theorem guest_tells : (guest.foldl staStep inStaMode).TellsClients
    (guest.foldl StaEvent.present []) := by
  refine (staRun_tells_iff rfl rfl rfl guest (by simp [guest, StaEvent.Valid]) ?_).mpr
    (forall_concat_of_take fun k hk => ?_) (guest.take 3) (.add 0x0A000005 fun _ => none)
    List.prefix_rfl
  · intro pre hpre
    have hlen : ∀ k ≤ 4, ((guest.take k).foldl StaEvent.present []).length ≤
        maxStaClntIfaces := by decide
    rw [List.prefix_iff_eq_take.mp hpre]
    exact hlen _ hpre.length_le
  · have hk : k < 4 := hk
    have hone : (guest.take 1).foldl StaEvent.present [] = [0x0A000003] := by decide
    have htwo : (guest.take 2).foldl StaEvent.present [] = [0x0A000003, 0x0A000004] := by
      decide
    have hthree : (guest.take 3).foldl StaEvent.present [] = [0x0A000003] := by decide
    interval_cases k
    · exact fun c hc => absurd hc List.not_mem_nil
    · rw [hone]
      intro c hc
      rw [List.mem_singleton.mp hc]
      decide
    · rw [htwo]
      exact fun _ => rfl
    · rw [hthree]
      intro c hc
      rw [List.mem_singleton.mp hc]
      decide

/-- Two clients, of which the first goes. -/
def hole : List StaEvent :=
  [.add 0x0A000003 fun _ => none, .add 0x0A000004 fun _ => none, .del 0x0A000003]

/-- The first slot is free, and no address is taken for one of the subnet. -/
theorem hole_not_tells : ¬ (hole.foldl staStep inStaMode).TellsClients
    (hole.foldl StaEvent.present []) := by
  intro h
  have hmark := (h (by decide) { TempEntry.empty with targetIp := 0x0A000007 }).mpr
    ⟨⟨0x0A000004, by decide, by decide⟩, by decide⟩
  have hnone : (hole.foldl staStep inStaMode).checkSTAClient
      { TempEntry.empty with targetIp := 0x0A000007 } = false := by decide
  exact Bool.false_ne_true (hnone.symm.trans hmark)

end CtListener

end Axon7.Conntrack
