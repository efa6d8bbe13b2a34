import Axon7.Lib.Run

/-!
# The table of NatApp

`NatApp` has one IPv4 NAT table in the driver and keeps its handle, its public
address and a cache of connections. A new table for the address of the one
before gets the rules of the cache back. Whether the driver obliges is given
with each call.
-/

namespace Axon7.Conntrack

abbrev Ip := BitVec 32

abbrev Port := BitVec 16

/-- `nat_table_entry`, as far as a new table reads and writes it. -/
structure NatTableEntry where
  privateIp : Ip
  privatePort : Port
  targetIp : Ip
  targetPort : Port
  publicPort : Port
  protocol : BitVec 8
  enabled : Bool
  ruleHdl : Nat
deriving DecidableEq

namespace NatTableEntry

/-- An entry cleared. -/
def empty : NatTableEntry where
  privateIp := 0
  privatePort := 0
  targetIp := 0
  targetPort := 0
  publicPort := 0
  protocol := 0
  enabled := false
  ruleHdl := 0

end NatTableEntry

/-- The handle of a table in the driver: its number, which is not 0. -/
abbrev TblHdl := { hdl : Nat // hdl ≠ 0 }

/-- What the driver does when a table is asked for: the handle, if it makes
one, and the handles of the rules it adds for the entries of the cache. -/
structure TblReply where
  tbl : Option TblHdl
  ruleHdl : Nat → Option Nat

/-- `NatApp`. -/
structure NatApp where
  cache : List NatTableEntry
  pubIpAddr : Ip
  pubIpAddrPre : Ip
  natTableHdl : Nat
  curCnt : Int

namespace NatApp

/-- The constructor and `Init`: `max_entries` entries. The address of the table
before is left as the memory has it. -/
def new (maxEntries : Nat) (pubIpAddrPre : Ip) : NatApp where
  cache := List.replicate maxEntries .empty
  pubIpAddr := 0
  pubIpAddrPre := pubIpAddrPre
  natTableHdl := 0
  curCnt := 0

/-- One turn of the loop of `AddTable`. An entry whose rule the driver does not
add is cleared. -/
def restoreEntry (ruleHdl : Option Nat) (entry : NatTableEntry) (curCnt : Int) :
    NatTableEntry × Int :=
  if entry.privateIp ≠ 0 then
    match ruleHdl with
    | none => (.empty, curCnt - 1)
    | some hdl => ({ entry with ruleHdl := hdl, enabled := true }, curCnt)
  else (entry, curCnt)

/-- The loop, from the entry with the number given. -/
def restore (ruleHdl : Nat → Option Nat) :
    Nat → List NatTableEntry → Int → List NatTableEntry × Int
  | _, [], curCnt => ([], curCnt)
  | cnt, entry :: cache, curCnt =>
    let (entry, curCnt) := restoreEntry (ruleHdl cnt) entry curCnt
    let (cache, curCnt) := restore ruleHdl (cnt + 1) cache curCnt
    (entry :: cache, curCnt)

/-- The driver refuses a table of no entries, before it touches the handle. The
number is a 16-bit one there. -/
def noEntries (n : NatApp) : Bool := n.cache.length % 2 ^ 16 = 0

/-- `AddTable`, and whether it returns 0. The driver clears the handle before
it sets out to make the table. -/
def addTable (n : NatApp) (pubIp : Ip) (reply : TblReply) : Bool × NatApp :=
  if n.noEntries then (false, n)
  else
    match reply.tbl with
    | none => (false, { n with natTableHdl := 0 })
    | some hdl =>
      let restored :=
        if pubIp = n.pubIpAddrPre then restore reply.ruleHdl 0 n.cache n.curCnt
        else (n.cache, n.curCnt)
      (true,
        { n with
          natTableHdl := hdl
          pubIpAddr := pubIp
          cache := restored.1
          curCnt := restored.2 })

/-- `Reset`. -/
def reset (n : NatApp) : NatApp :=
  { n with
    natTableHdl := 0
    pubIpAddr := 0
    cache := n.cache.map fun entry => { entry with enabled := false } }

/-- `DeleteTable`, and whether it returns 0, with what the driver answers. -/
def deleteTable (n : NatApp) (pubIp : Ip) (deleted : Bool) : Bool × NatApp :=
  if n.natTableHdl = 0 then (false, n)
  else if n.pubIpAddr ≠ pubIp then (false, n)
  else if deleted then (true, { n with pubIpAddrPre := n.pubIpAddr }.reset)
  else (false, n)

/-! ## What the calls do -/

variable {n : NatApp} {pubIp : Ip} {reply : TblReply} {deleted : Bool}

@[simp] theorem restore_length (ruleHdl : Nat → Option Nat) (cnt : Nat)
    (cache : List NatTableEntry) (curCnt : Int) :
    (restore ruleHdl cnt cache curCnt).1.length = cache.length := by
  induction cache generalizing cnt curCnt with
  | nil => rfl
  | cons entry cache ih => simp [restore, ih]

theorem addTable_noEntries : (n.addTable pubIp reply).2.noEntries =
    n.noEntries := by
  rw [addTable]
  split
  · rfl
  · split
    · rfl
    · dsimp only [noEntries]
      split <;> simp

theorem deleteTable_noEntries : (n.deleteTable pubIp deleted).2.noEntries =
    n.noEntries := by
  rw [deleteTable]
  split
  · rfl
  · split
    · rfl
    · split <;> simp [reset, noEntries]

theorem addTable_some {hdl : TblHdl} (hsize : n.noEntries = false)
    (htbl : reply.tbl = some hdl) :
    (n.addTable pubIp reply).2.natTableHdl = hdl ∧
      (n.addTable pubIp reply).2.pubIpAddr = pubIp := by
  rw [addTable, hsize, htbl]
  exact ⟨rfl, rfl⟩

theorem addTable_none (hsize : n.noEntries = false) (htbl : reply.tbl = none) :
    (n.addTable pubIp reply).2.natTableHdl = 0 := by
  rw [addTable, hsize, htbl]
  rfl

theorem deleteTable_cases (n : NatApp) (pubIp : Ip) (deleted : Bool) :
    (n.deleteTable pubIp deleted).1 = true ∧
        (n.deleteTable pubIp deleted).2.natTableHdl = 0 ∨
      n.deleteTable pubIp deleted = (false, n) := by
  rw [deleteTable]
  split
  · exact .inr rfl
  · split
    · exact .inr rfl
    · split
      · exact .inl ⟨rfl, rfl⟩
      · exact .inr rfl

end NatApp

end Axon7.Conntrack

/-!
# WAN state and table

`IPACM_ConntrackListener` takes the WAN to be up once it has asked `NatApp` for
a table, whether or not there is one. Its flag agrees with the table as long as
no table that is asked for is refused; refused once, the table is not asked for
again while the address stays.
-/

namespace Axon7.Conntrack

open Axon7.Lib

/-- The WAN state of `IPACM_ConntrackListener`, and the `NatApp` it has. -/
structure Listener where
  wanUp : Bool
  wanIpaddr : Ip
  natInst : NatApp

/-- The WAN events, with what the driver answers where it is asked. -/
inductive WanEvent
  | up (ipv4Addr : Ip) (deleted : Bool) (reply : TblReply)
  | down (ipv4Addr : Ip) (deleted : Bool)

namespace Listener

/-- `TriggerWANDown`. -/
def triggerWANDown (s : Listener) (wanAddr : Ip) (deleted : Bool) : Listener :=
  let (ok, natInst) := s.natInst.deleteTable wanAddr deleted
  if ok then { s with wanUp := false, wanIpaddr := 0, natInst := natInst }
  else { s with natInst := natInst }

/-- The last part of `TriggerWANUp`: what `AddTable` returns is not looked
at. -/
def setWanUp (s : Listener) (ipv4Addr : Ip) (reply : TblReply) : Listener :=
  { s with
    wanUp := true
    wanIpaddr := ipv4Addr
    natInst := (s.natInst.addTable ipv4Addr reply).2 }

/-- `TriggerWANUp`. -/
def triggerWANUp (s : Listener) (ipv4Addr : Ip) (deleted : Bool)
    (reply : TblReply) : Listener :=
  if ipv4Addr = 0 then s
  else if s.wanUp then
    if s.wanIpaddr ≠ ipv4Addr then
      (s.triggerWANDown s.wanIpaddr deleted).setWanUp ipv4Addr reply
    else s
  else s.setWanUp ipv4Addr reply

/-- `event_callback`. -/
def step (s : Listener) : WanEvent → Listener
  | .up ipv4Addr deleted reply => s.triggerWANUp ipv4Addr deleted reply
  | .down ipv4Addr deleted =>
    if s.wanUp then s.triggerWANDown ipv4Addr deleted else s

/-- Before the first event. -/
def init (natInst : NatApp) : Listener := ⟨false, 0, natInst⟩

/-- The listener after the events, with a `NatApp` that is new. -/
def run (maxEntries : Nat) (pubIpAddrPre : Ip) (evs : List WanEvent) :
    Listener :=
  evs.foldl step (init (.new maxEntries pubIpAddrPre))

/-! ## Agreement -/

/-- The WAN is up just while there is a table, and then the table has its
address. -/
structure Agrees (s : Listener) : Prop where
  up : s.wanUp = true ↔ s.natInst.natTableHdl ≠ 0
  addr : s.natInst.natTableHdl ≠ 0 → s.natInst.pubIpAddr = s.wanIpaddr

/-- With no table, a WAN that comes up gets one if the driver makes it. -/
def Retries (s : Listener) : Prop :=
  s.natInst.natTableHdl = 0 → ∀ ipv4Addr deleted reply, ipv4Addr ≠ 0 →
    reply.tbl.isSome → s.natInst.noEntries = false →
      (s.triggerWANUp ipv4Addr deleted reply).natInst.natTableHdl ≠ 0

/-- Where the event asks for a table, the driver makes it. -/
def Creates (s : Listener) : WanEvent → Prop
  | .up ipv4Addr _ reply =>
    ipv4Addr ≠ 0 → ¬(s.wanUp = true ∧ s.wanIpaddr = ipv4Addr) →
      reply.tbl.isSome ∧ s.natInst.noEntries = false
  | .down _ _ => True

variable {s : Listener} {ipv4Addr : Ip} {deleted : Bool} {reply : TblReply}

theorem Agrees.retries (h : s.Agrees) : s.Retries := by
  intro hhdl ipv4Addr deleted reply haddr htbl hsize
  have hdown : ¬s.wanUp = true := fun hup => h.up.mp hup hhdl
  obtain ⟨hdl, htbl⟩ := Option.isSome_iff_exists.mp htbl
  rw [triggerWANUp, if_neg haddr, if_neg hdown, setWanUp]
  rw [(NatApp.addTable_some hsize htbl).1]
  exact hdl.property

theorem Agrees.down (h : s.Agrees) (wanAddr : Ip) (deleted : Bool) :
    (s.triggerWANDown wanAddr deleted).Agrees := by
  rw [triggerWANDown]
  obtain ⟨hok, hhdl⟩ | hkept := s.natInst.deleteTable_cases wanAddr deleted
  · simp only [hok, if_true]
    exact ⟨by simp [hhdl], fun hne => absurd hhdl hne⟩
  · rw [hkept]
    exact h

theorem setWanUp_agrees (htbl : reply.tbl.isSome = true)
    (hsize : s.natInst.noEntries = false) :
    (s.setWanUp ipv4Addr reply).Agrees := by
  obtain ⟨hdl, htbl⟩ := Option.isSome_iff_exists.mp htbl
  have hmade : (s.natInst.addTable ipv4Addr reply).2.natTableHdl = hdl ∧
      (s.natInst.addTable ipv4Addr reply).2.pubIpAddr = ipv4Addr :=
    NatApp.addTable_some hsize htbl
  obtain ⟨hhdl, haddr⟩ := hmade
  refine ⟨iff_of_true rfl ?_, fun _ => haddr⟩
  rw [setWanUp, hhdl]
  exact hdl.property

/-- A driver that makes no table of the size has made none. -/
def Sized (s : Listener) : Prop :=
  s.natInst.noEntries = true → s.natInst.natTableHdl = 0

theorem not_setWanUp_agrees (hsized : s.Sized)
    (h : ¬(reply.tbl.isSome = true ∧ s.natInst.noEntries = false)) :
    ¬(s.setWanUp ipv4Addr reply).Agrees := by
  intro hagrees
  refine hagrees.up.mp rfl ?_
  show (s.natInst.addTable ipv4Addr reply).2.natTableHdl = 0
  cases hsize : s.natInst.noEntries with
  | true =>
    rw [NatApp.addTable, hsize]
    exact hsized hsize
  | false =>
    have hnone : reply.tbl = none := by
      rw [← Option.not_isSome_iff_eq_none]
      exact fun hsome => h ⟨hsome, hsize⟩
    exact NatApp.addTable_none hsize hnone

theorem Sized.setWanUp (h : s.Sized) (ipv4Addr : Ip) (reply : TblReply) :
    (s.setWanUp ipv4Addr reply).Sized := by
  intro hsize
  have hsize : s.natInst.noEntries = true :=
    (NatApp.addTable_noEntries).symm.trans hsize
  show (s.natInst.addTable ipv4Addr reply).2.natTableHdl = 0
  rw [NatApp.addTable, hsize]
  exact h hsize

@[simp] theorem triggerWANDown_noEntries :
    (s.triggerWANDown ipv4Addr deleted).natInst.noEntries =
      s.natInst.noEntries := by
  have hsize : (s.natInst.deleteTable ipv4Addr deleted).2.noEntries =
      s.natInst.noEntries := NatApp.deleteTable_noEntries
  rw [triggerWANDown]
  dsimp only
  split <;> exact hsize

theorem Sized.triggerWANDown (h : s.Sized) (ipv4Addr : Ip) (deleted : Bool) :
    (s.triggerWANDown ipv4Addr deleted).Sized := by
  intro hsize
  rw [triggerWANDown_noEntries] at hsize
  rw [Listener.triggerWANDown]
  obtain ⟨hok, hhdl⟩ | hkept := s.natInst.deleteTable_cases ipv4Addr deleted
  · simp only [hok, if_true]
    exact hhdl
  · rw [hkept]
    exact h hsize

theorem Sized.step (h : s.Sized) (ev : WanEvent) : (s.step ev).Sized := by
  cases ev with
  | up ipv4Addr deleted reply =>
    show (s.triggerWANUp ipv4Addr deleted reply).Sized
    rw [triggerWANUp]
    split
    · exact h
    · split
      · split
        · exact (h.triggerWANDown _ deleted).setWanUp ipv4Addr reply
        · exact h
      · exact h.setWanUp ipv4Addr reply
  | down ipv4Addr deleted =>
    rw [Listener.step]
    split
    · exact h.triggerWANDown ipv4Addr deleted
    · exact h

theorem sized_run (maxEntries : Nat) (pubIpAddrPre : Ip) (evs : List WanEvent) :
    (run maxEntries pubIpAddrPre evs).Sized :=
  foldl_invariant Sized (fun _ => True) (fun _ ev h _ => h.step ev)
    (fun _ => rfl) evs fun _ _ => trivial

theorem setWanUp_agrees_iff (hsized : s.Sized) :
    (s.setWanUp ipv4Addr reply).Agrees ↔
      reply.tbl.isSome = true ∧ s.natInst.noEntries = false :=
  ⟨fun hagrees => not_not.mp fun hno => not_setWanUp_agrees hsized hno hagrees,
    fun h => setWanUp_agrees h.1 h.2⟩

theorem agrees_step_iff (hsized : s.Sized) (hagrees : s.Agrees)
    (ev : WanEvent) : (s.step ev).Agrees ↔ s.Creates ev := by
  cases ev with
  | up ipv4Addr deleted reply =>
    show (s.triggerWANUp ipv4Addr deleted reply).Agrees ↔ _
    rw [triggerWANUp, Creates]
    split
    · next haddr => exact iff_of_true hagrees fun hne => absurd haddr hne
    · next haddr =>
        split
        · next hup =>
            split
            · next hne =>
                rw [setWanUp_agrees_iff (hsized.triggerWANDown _ deleted),
                  triggerWANDown_noEntries]
                exact ⟨fun h _ _ => h, fun h => h haddr fun hno => hne hno.2⟩
            · next heq =>
                refine iff_of_true hagrees fun _ hnot => ?_
                exact absurd ⟨hup, not_not.mp heq⟩ hnot
        · next hup =>
            rw [setWanUp_agrees_iff hsized]
            exact ⟨fun h _ _ => h, fun h => h haddr fun hno => hup hno.1⟩
  | down ipv4Addr deleted =>
    refine iff_of_true ?_ trivial
    rw [Listener.step]
    split
    · exact hagrees.down ipv4Addr deleted
    · exact hagrees

/-- The WAN state agrees with the table after every event, and a WAN without a
table gets one when it comes up, just if no table asked for is refused. -/
theorem run_wanUp_iff (maxEntries : Nat) (pubIpAddrPre : Ip)
    (evs : List WanEvent) :
    (∀ pre, pre <+: evs → (run maxEntries pubIpAddrPre pre).Agrees ∧
        (run maxEntries pubIpAddrPre pre).Retries) ↔
      ∀ pre ev, pre ++ [ev] <+: evs →
        (run maxEntries pubIpAddrPre pre).Creates ev := by
  have hinit : (init (.new maxEntries pubIpAddrPre)).Agrees :=
    ⟨by simp [init, NatApp.new], fun hne => absurd rfl hne⟩
  refine forall_prefix_iff ⟨hinit, hinit.retries⟩ fun pre ev _ hpre => ?_
  have hstep := agrees_step_iff (sized_run maxEntries pubIpAddrPre pre)
    hpre.1 ev
  rw [← hstep, show run maxEntries pubIpAddrPre (pre ++ [ev]) =
    (run maxEntries pubIpAddrPre pre).step ev from List.foldl_concat ..]
  exact ⟨And.left, fun hagrees => ⟨hagrees, hagrees.retries⟩⟩

/-- The driver refuses a table once. The WAN is up without one, and coming up
again does not ask for it. -/
theorem refusedOnce_up :
    let refused : TblReply := ⟨none, fun _ => none⟩
    let granted : TblReply := ⟨some ⟨1, by decide⟩, fun _ => none⟩
    let s := run 1 0 [.up 7 true refused]
    ¬(s.Agrees ∧ s.Retries) ∧ s.wanUp = true ∧ s.natInst.natTableHdl = 0 ∧
      (s.step (.up 7 true granted)).natInst.natTableHdl = 0 := by
  refine ⟨fun h => ?_, by decide, by decide, by decide⟩
  exact absurd (h.1.up.mp (by decide)) (by decide)

end Listener

end Axon7.Conntrack
