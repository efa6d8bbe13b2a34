import Axon7.Conntrack.CtListener
import Axon7.Conntrack.NatRefines
import Axon7.Conntrack.NatApp

/-!
# The listener keeps the cache

Whatever events `IPACM_ConntrackListener` gets, the calls it makes of `NatApp`
are such that the cache refines the rules of the driver: a table is asked for
where there is none. What is noted to be from a connection is there.
-/

namespace Axon7.Conntrack

open Axon7.Lib

/-! ## The table -/

namespace NatCache

variable {c : NatCache} {rule : NatTableEntry}

/-- The table that `NatApp` takes the driver to have, and its address. -/
def table (c : NatCache) : Nat × Ip := (c.natTableHdl, c.pubIpAddr)

theorem overCache_table {turn : Nat → NatTableEntry → NatCache → NatCache}
    (hturn : ∀ cnt entry c, (turn cnt entry c).table = c.table) :
    (c.overCache turn).table = c.table := by
  rw [NatCache.overCache]
  refine List.foldlRecOn (motive := fun c' => table c' = c.table) _ _ rfl
    fun c' h cnt _ => ?_
  split
  · exact h
  · exact (hturn _ _ _).trans h

theorem resumePower_table {ip : Ip} {reply : Nat → Option Nat} (cnt : Nat)
    (entry : NatTableEntry) (c : NatCache) :
    (resumePower ip reply cnt entry c).table = c.table := by
  unfold resumePower
  split
  · split <;> rfl
  · rfl

theorem dropRule_table {ip : Ip} (cnt : Nat) (entry : NatTableEntry)
    (c : NatCache) : (dropRule ip cnt entry c).table = c.table := by
  unfold dropRule
  split
  · split <;> rfl
  · rfl

theorem dropEntry_table {ip : Ip} (cnt : Nat) (entry : NatTableEntry)
    (c : NatCache) : (dropEntry ip cnt entry c).table = c.table := by
  unfold dropEntry
  split
  · split
    · split <;> rfl
    · rfl
  · rfl

theorem resetPwrSaveIf_table {ip : Ip} {reply : Nat → Option Nat} :
    (c.resetPwrSaveIf ip reply).table = c.table := by
  rw [resetPwrSaveIf]
  split
  · rfl
  · exact overCache_table resumePower_table

theorem delEntriesOnClntDiscon_table {ip : Ip} :
    (c.delEntriesOnClntDiscon ip).2.table = c.table := by
  rw [delEntriesOnClntDiscon]
  split
  · rfl
  · exact overCache_table dropRule_table

theorem delEntriesOnSTAClntDiscon_table {ip : Ip} :
    (c.delEntriesOnSTAClntDiscon ip).2.table = c.table := by
  rw [delEntriesOnSTAClntDiscon]
  split
  · rfl
  · exact overCache_table dropEntry_table

theorem deleteEntry_table : (c.deleteEntry rule).table = c.table := by
  rw [deleteEntry]
  split
  · rfl
  · split <;> rfl

theorem cacheEntry_table : (c.cacheEntry rule).table = c.table := by
  unfold cacheEntry
  split
  · rfl
  · split
    · rfl
    · split <;> rfl

theorem addEntry_table {reply : Option Nat} :
    (c.addEntry rule reply).2.table = c.table := by
  unfold addEntry
  split
  · rfl
  · split
    · rfl
    · split
      · rfl
      · split
        · rfl
        · split
          · rfl
          · split
            · rfl
            · split <;> rfl

theorem addTempEntry_table {newEntry : TempEntry} :
    (c.addTempEntry newEntry).table = c.table := by
  unfold addTempEntry
  split
  · rfl
  · split
    · rfl
    · split
      · rfl
      · split <;> rfl

theorem deleteTempEntry_table : (c.deleteTempEntry rule).table = c.table := by
  unfold deleteTempEntry
  split <;> rfl

theorem flushTempEntry_table {ip : Ip} {isAdd isDummy : Bool}
    {reply : Nat → Option Nat} {cnt : Nat} :
    (flushTempEntry ip isAdd isDummy reply c cnt).table = c.table := by
  rw [flushTempEntry]
  split
  · rfl
  · split
    · split
      · rename_i temp _ _ _
        generalize (if isDummy = true then _ else temp) = temp
        have hadd : ({ c with temp := c.temp.set cnt temp }.addEntry
            temp.toNatTableEntry (reply cnt)).2.table = c.table :=
          addEntry_table
        dsimp only
        split
        · rename_i c' heq
          rwa [heq] at hadd
        · rename_i c' heq
          rw [heq] at hadd
          exact hadd
      · rfl
    · rfl

theorem deleteTable_true (c : NatCache) (ip : Ip) :
    c.deleteTable ip true = (false, c) ∧
        (c.natTableHdl ≠ 0 → c.pubIpAddr ≠ ip) ∨
      (c.deleteTable ip true).1 = true ∧
        (c.deleteTable ip true).2.natTableHdl = 0 := by
  rw [deleteTable, NatApp.deleteTable]
  by_cases hhdl : c.natTableHdl = 0
  · rw [if_pos hhdl]
    exact .inl ⟨rfl, fun hne => absurd hhdl hne⟩
  · rw [if_neg hhdl]
    by_cases hpub : c.pubIpAddr ≠ ip
    · rw [if_pos hpub]
      exact .inl ⟨rfl, fun _ => hpub⟩
    · rw [if_neg hpub]
      exact .inr ⟨rfl, rfl⟩

end NatCache

/-! ## Places -/

namespace NatInst

open NatCache

variable {n : NatInst} {c : NatCache} {conn : Option Conn} {ct : Conn}
  {cnt : Nat}

section Mark

variable {before after : Nat → Bool} {conns : Nat → Option Conn}

theorem mark_after (h : mark before after conns conn cnt = some ct) :
    after cnt = true := by
  by_contra hne
  rw [mark, if_neg hne] at h
  exact absurd h nofun

end Mark

/-- Only what is there is from a connection. -/
structure Marked (n : NatInst) : Prop where
  cache : ∀ cnt ct, n.cacheConn cnt = some ct → cached n.cache cnt = true
  temp : ∀ cnt ct, n.tempConn cnt = some ct → kept n.temp cnt = true

theorem follow_marked : (n.follow conn c).Marked where
  cache _ _ := mark_after
  temp _ _ := mark_after

end NatInst

namespace CtListener

open NatInst

variable {s : CtListener}

/-! ## Runs -/

/-- What every event keeps: the cache refines the rules of the driver, there is
a table for the WAN address at most, and only what is there is from a
connection. -/
structure Sound (s : CtListener) (maxEntries : Nat) : Prop where
  inv : s.natInst.toNatCache.Inv maxEntries
  table : s.natInst.natTableHdl ≠ 0 →
    s.wanUp = true ∧ s.natInst.pubIpAddr = s.wanIpaddr
  marked : s.natInst.Marked

variable {n : Nat} {conn : Option Conn} {c : NatCache}

theorem Sound.frame {s' : CtListener} (h : s.Sound n)
    (hnat : s'.natInst = s.natInst) (hup : s'.wanUp = s.wanUp)
    (hip : s'.wanIpaddr = s.wanIpaddr) : s'.Sound n where
  inv := hnat ▸ h.inv
  table := by
    rw [hnat, hup, hip]
    exact h.table
  marked := hnat ▸ h.marked

theorem Sound.call (h : s.Sound n) (hinv : c.Inv n)
    (htable : c.table = s.natInst.toNatCache.table) :
    (s.call conn c).Sound n := by
  obtain ⟨hhdl, hpub⟩ := Prod.mk.inj htable
  refine ⟨hinv, ?_, follow_marked⟩
  show c.natTableHdl ≠ 0 → s.wanUp = true ∧ c.pubIpAddr = s.wanIpaddr
  rw [hhdl, hpub]
  exact h.table

theorem Sound.flush (h : s.Sound n) (ip : Ip) (isAdd isDummy : Bool)
    (reply : Nat → Option Nat) : (s.flush ip isAdd isDummy reply).Sound n := by
  exact List.foldlRecOn (motive := fun m : NatInst =>
    Sound { s with natInst := m } n) _ _ h fun _ ih _ _ =>
      ih.call ih.inv.flushTempEntry NatCache.flushTempEntry_table

theorem Sound.triggerWANDown (h : s.Sound n) (ip : Ip) :
    (s.triggerWANDown ip).Sound n ∧
      (ip = s.wanIpaddr → (s.triggerWANDown ip).natInst.natTableHdl = 0) := by
  have hinv := h.inv.deleteTable ip true
  rw [CtListener.triggerWANDown]
  obtain ⟨heq, hpub⟩ | ⟨htrue, hhdl⟩ :=
    NatCache.deleteTable_true s.natInst.toNatCache ip
  · rw [heq]
    refine ⟨h.call h.inv rfl, ?_⟩
    rintro rfl
    by_contra hne
    exact hpub hne (h.table hne).2
  · generalize s.natInst.deleteTable ip true = res at hinv htrue hhdl
    obtain ⟨ok, c⟩ := res
    obtain rfl : ok = true := htrue
    exact ⟨⟨hinv, fun hne => absurd hhdl hne, follow_marked⟩, fun _ => hhdl⟩

theorem Sound.setWanUp (h : s.Sound n) (hhdl : s.natInst.natTableHdl = 0)
    (ip : Ip) (isSta : Bool) (reply : NewTblReply) :
    (s.setWanUp ip isSta reply).Sound n := by
  refine ⟨h.inv.addTable hhdl ip reply, fun hne => ⟨rfl, ?_⟩, follow_marked⟩
  show (s.natInst.toNatApp.addTable ip reply.toTblReply).2.pubIpAddr = ip
  have hne : (s.natInst.toNatApp.addTable ip
      reply.toTblReply).2.natTableHdl ≠ 0 := hne
  cases hsize : s.natInst.toNatApp.noEntries with
  | true =>
    rw [NatApp.addTable, if_pos hsize] at hne
    exact absurd hhdl hne
  | false =>
    cases htbl : reply.tbl with
    | none => exact absurd (NatApp.addTable_none hsize htbl) hne
    | some hdl => exact (NatApp.addTable_some hsize htbl).2

theorem Sound.triggerWANUp (h : s.Sound n) (ip : Ip) (isSta : Bool)
    (reply : NewTblReply) : (s.triggerWANUp ip isSta reply).Sound n := by
  rw [CtListener.triggerWANUp]
  split
  · exact h
  · split
    · split
      · obtain ⟨hdown, hhdl⟩ := h.triggerWANDown s.wanIpaddr
        exact hdown.setWanUp (hhdl rfl) ip isSta reply
      · exact h
    · rename_i hup
      refine h.setWanUp ?_ ip isSta reply
      by_contra hne
      exact hup (h.table hne).1

theorem Sound.handleNonNatIPAddrAdd (h : s.Sound n) (data : IfaceAddr)
    (reply : Nat → Option Nat) :
    (s.handleNonNatIPAddrAdd data reply).Sound n := by
  rw [CtListener.handleNonNatIPAddrAdd]
  split
  · exact h
  · split
    · split
      · exact h
      · refine Sound.flush ?_ _ _ _ _
        exact h.frame rfl rfl rfl
    · exact h

theorem Sound.handleNonNatIPAddrDel (h : s.Sound n) (ip : Ip) :
    (s.handleNonNatIPAddrDel ip).Sound n := by
  rw [CtListener.handleNonNatIPAddrDel]
  split
  · exact h
  · split
    · exact h
    · rename_i cnt _
      have hflush : Sound ({ s with
          nonnatIfaceIpv4Addr := s.nonnatIfaceIpv4Addr.set cnt 0 }.flush
            ip false false fun _ => none) n := by
        refine Sound.flush ?_ _ _ _ _
        exact h.frame rfl rfl rfl
      exact hflush.call (hflush.inv.delEntriesOnClntDiscon ip)
        NatCache.delEntriesOnClntDiscon_table

theorem Sound.handleNeighIpAddrAddEvt (h : s.Sound n) (data : IfaceAddr)
    (resumed reply : Nat → Option Nat) :
    (s.handleNeighIpAddrAddEvt data resumed reply).Sound n := by
  rw [CtListener.handleNeighIpAddrAddEvt]
  split
  · split
    · exact h
    · rename_i cnt _
      have hset : Sound { s with
          natIfaceIpv4Addr := s.natIfaceIpv4Addr.set cnt data.ipv4Addr } n :=
        h.frame rfl rfl rfl
      refine Sound.flush ?_ _ _ _ _
      exact hset.call (h.inv.resetPwrSaveIf data.ipv4Addr resumed)
        NatCache.resetPwrSaveIf_table
  · exact h

theorem Sound.dropNeighIpAddr (h : s.Sound n) (ip : Ip) (cnt : Nat) :
    (dropNeighIpAddr ip s cnt).Sound n := by
  rw [CtListener.dropNeighIpAddr]
  split
  · have hflush : Sound ({ s with
        natIfaceIpv4Addr := s.natIfaceIpv4Addr.set cnt 0 }.flush
          ip false false fun _ => none) n := by
      refine Sound.flush ?_ _ _ _ _
      exact h.frame rfl rfl rfl
    exact hflush.call (hflush.inv.delEntriesOnClntDiscon ip)
      NatCache.delEntriesOnClntDiscon_table
  · exact h

theorem Sound.handleNeighIpAddrDelEvt (h : s.Sound n) (ip : Ip) :
    (s.handleNeighIpAddrDelEvt ip).Sound n := by
  rw [CtListener.handleNeighIpAddrDelEvt]
  split
  · exact h
  · exact List.foldlRecOn (motive := fun s => Sound s n) _ _ h
      fun s h cnt _ => h.dropNeighIpAddr ip cnt

theorem Sound.handleSTAClientAddEvt (h : s.Sound n) (ip : Ip)
    (reply : Nat → Option Nat) :
    (s.handleSTAClientAddEvt ip reply).Sound n := by
  rw [CtListener.handleSTAClientAddEvt]
  split
  · exact h
  · refine Sound.flush ?_ _ _ _ _
    split
    · exact h
    · split
      · exact h.frame rfl rfl rfl
      · exact h

theorem Sound.handleSTAClientDelEvt (h : s.Sound n) (ip : Ip) :
    (s.handleSTAClientDelEvt ip).Sound n := by
  rw [CtListener.handleSTAClientDelEvt]
  refine Sound.flush ?_ _ _ _ _
  split
  · exact h
  · have hcall : Sound
        (s.call none (s.natInst.delEntriesOnSTAClntDiscon ip).2) n :=
      h.call (h.inv.delEntriesOnSTAClntDiscon ip)
        NatCache.delEntriesOnSTAClntDiscon_table
    exact hcall.frame rfl rfl rfl

theorem readConn_protocol {ct : Conn} {read : TempEntry × Bool}
    (h : s.readConn ct = some read) : read.1.protocol = ct.l4proto := by
  rw [readConn] at h
  split at h
  · exact absurd h nofun
  · rename_i status _
    have hproto : (ct.populate status s.wanIpaddr).protocol = ct.l4proto := by
      cases status <;> rfl
    generalize ct.populate status s.wanIpaddr = rule at h hproto
    obtain ⟨read', hread, rfl⟩ := Option.map_eq_some_iff.mp h
    have hsame : read'.1.protocol = rule.protocol := by
      split at hread
      · rw [addIface] at hread
        split at hread
        · rw [← Option.some.inj hread]
        · split at hread
          · rw [← Option.some.inj hread]
            rfl
          · split at hread
            · rw [← Option.some.inj hread]
            · exact absurd hread nofun
      · split at hread
        · exact absurd hread nofun
        · rw [← Option.some.inj hread]
    exact hsame.trans hproto

theorem protocol_ne_zero {ct : Conn}
    (h : ¬((ct.l4proto ≠ ipprotoUdp && ct.l4proto ≠ ipprotoTcp) = true)) :
    ct.l4proto ≠ 0 := by
  intro hzero
  rw [hzero] at h
  exact h (by decide)

theorem Sound.processCTMessage (h : s.Sound n) (msg : CtMessage)
    (reply : Option Nat) : (s.processCTMessage msg reply).Sound n := by
  rw [CtListener.processCTMessage]
  split
  · exact h
  · rename_i hproto
    split
    · exact h
    · rename_i rule isTempEntry hread
      have hrule : rule.protocol ≠ 0 := by
        rw [readConn_protocol hread]
        exact protocol_ne_zero hproto
      rw [addORDeleteNatEntry]
      split
      · split
        · exact h.call (h.inv.cacheEntry _) NatCache.cacheEntry_table
        · split
          · exact h.call (h.inv.addTempEntry _) NatCache.addTempEntry_table
          · exact h.call (h.inv.addEntry _ _) NatCache.addEntry_table
      · split
        · exact h.call ((h.inv.deleteEntry hrule).deleteTempEntry _)
            (NatCache.deleteTempEntry_table.trans NatCache.deleteEntry_table)
        · exact h

theorem Sound.step (h : s.Sound n) (ev : CtEvent) : (s.step ev).Sound n := by
  cases ev with
  | wanUp ip isSta reply => exact h.triggerWANUp ip isSta reply
  | wanDown ip =>
    rw [CtListener.step]
    split
    · exact (h.triggerWANDown ip).1
    · exact h
  | message msg reply => exact h.processCTMessage msg reply
  | ifaceAddrAdd data reply => exact h.handleNonNatIPAddrAdd data reply
  | ifaceAddrDel ip => exact h.handleNonNatIPAddrDel ip
  | neighIpAddrAdd data resumed reply =>
    exact h.handleNeighIpAddrAddEvt data resumed reply
  | neighIpAddrDel ip => exact h.handleNeighIpAddrDelEvt ip
  | staClientAdd ip reply => exact h.handleSTAClientAddEvt ip reply
  | staClientDel ip => exact h.handleSTAClientDelEvt ip

end CtListener

end Axon7.Conntrack
