import Axon7.Conntrack.CtListener

/-!
# NatApp with all fields of its entries

`NatCache` leaves out of an entry what no rule needs, and its driver deletes every rule
that it has. Here an entry has its public address, its time stamp and the flag of
destination NAT too, and the driver answers each request as it likes. Only a request for
no table is refused in any case.
-/

namespace Axon7.Conntrack

/-- `nat_table_entry`. -/
structure NatEntry where
  privateIp : Ip
  privatePort : Port
  targetIp : Ip
  targetPort : Port
  publicIp : Ip
  publicPort : Port
  protocol : BitVec 8
  timestamp : BitVec 32
  dstNat : Bool
  enabled : Bool
  ruleHdl : Nat
deriving DecidableEq

namespace NatEntry

/-- An entry cleared. -/
def empty : NatEntry where
  privateIp := 0
  privatePort := 0
  targetIp := 0
  targetPort := 0
  publicIp := 0
  publicPort := 0
  protocol := 0
  timestamp := 0
  dstNat := false
  enabled := false
  ruleHdl := 0

/-- The entry without what no rule needs. -/
def toTable (entry : NatEntry) : NatTableEntry where
  privateIp := entry.privateIp
  privatePort := entry.privatePort
  targetIp := entry.targetIp
  targetPort := entry.targetPort
  publicPort := entry.publicPort
  protocol := entry.protocol
  enabled := entry.enabled
  ruleHdl := entry.ruleHdl

def key (entry : NatEntry) : NatKey := entry.toTable.key

def isFree (entry : NatEntry) : Bool := entry.toTable.isFree

def isValid (entry : NatEntry) : Bool := entry.toTable.isValid

end NatEntry

/-- `IOffloadManager::ConntrackTimeoutUpdater::natTimeoutUpdate_t`. The protocol is UDP, or
else TCP. -/
structure NatTimeoutUpdate where
  udp : Bool
  srcIpAddr : Ip
  srcPort : Port
  dstIpAddr : Ip
  dstPort : Port

/-- `htonl`, where the lowest byte is stored first. -/
def htonl (ip : Ip) : Ip :=
  ip.extractLsb' 0 8 ++ ip.extractLsb' 8 8 ++ ip.extractLsb' 16 8 ++ ip.extractLsb' 24 8

/-- `NatApp`. `max_entries` is the length of the cache. -/
structure FullNatApp where
  cache : List NatEntry
  temp : List NatEntry
  pubIpAddr : Ip
  pubIpAddrPre : Ip
  natTableHdl : Nat
  curCnt : Int
  algPorts : List (BitVec 8 × Port)
  pwrSaveIfs : List Ip

/-- The entries asked for the time stamp, and the updates sent, each with its entry. -/
structure Refresh where
  queried : List Nat
  updated : List (Nat × NatTimeoutUpdate)

namespace FullNatApp

/-- The constructor and `Init`. -/
def new (maxEntries : Nat) (pubIpAddrPre : Ip) (pwrSaveIfs : List Ip)
    (algPorts : List (BitVec 8 × Port)) : FullNatApp where
  cache := List.replicate maxEntries .empty
  temp := List.replicate maxTempEntries .empty
  pubIpAddr := 0
  pubIpAddrPre := pubIpAddrPre
  natTableHdl := 0
  curCnt := 0
  algPorts := algPorts
  pwrSaveIfs := pwrSaveIfs

/-! ## The driver -/

/-- `ipa_nat_add_ipv4_rule`: the handle. -/
def ipaNatAddIpv4Rule (s : FullNatApp) (reply : Option Nat) : Option Nat :=
  if s.natTableHdl = 0 then none else reply

/-- `ipa_nat_del_ipv4_rule`, and whether it succeeds. -/
def ipaNatDelIpv4Rule (s : FullNatApp) (reply : Bool) : Bool :=
  if s.natTableHdl = 0 then false else reply

/-- `ipa_nat_query_timestamp`: the time stamp of the rule. -/
def ipaNatQueryTimestamp (s : FullNatApp) (reply : Option (BitVec 32)) : Option (BitVec 32) :=
  if s.natTableHdl = 0 then none else reply

/-! ## The loops over the cache -/

/-- A loop whose turns each edit the entry they are for, and what `curCnt` is to be
increased by. The loop is given from an entry on. -/
def turns (turn : Nat → NatEntry → NatEntry × Int) :
    Nat → List NatEntry → Int → List NatEntry × Int
  | _, [], curCnt => ([], curCnt)
  | cnt, entry :: cache, curCnt =>
    let (entry, more) := turn cnt entry
    let (cache, curCnt) := turns turn (cnt + 1) cache (curCnt + more)
    (entry :: cache, curCnt)

def overCache (turn : Nat → NatEntry → NatEntry × Int) (s : FullNatApp) : FullNatApp :=
  { s with
    cache := (turns turn 0 s.cache s.curCnt).1
    curCnt := (turns turn 0 s.cache s.curCnt).2 }

/-! ## The table -/

/-- One turn of the loop of `AddTable`. -/
def restoreEntry (ruleHdl : Nat → Option Nat) (cnt : Nat) (entry : NatEntry) :
    NatEntry × Int :=
  if entry.privateIp ≠ 0 then
    match ruleHdl cnt with
    | none => (.empty, -1)
    | some hdl => ({ entry with ruleHdl := hdl, enabled := true }, 0)
  else (entry, 0)

/-- `AddTable`, and whether it returns 0. The driver refuses a table of no entries, and
clears the handle before it sets out to make one. -/
def addTable (s : FullNatApp) (pubIp : Ip) (reply : TblReply) : Bool × FullNatApp :=
  if s.cache.length % 2 ^ 16 = 0 then (false, s)
  else
    match reply.tbl with
    | none => (false, { s with natTableHdl := 0 })
    | some hdl =>
      let s := { s with natTableHdl := hdl }
      let s :=
        if pubIp = s.pubIpAddrPre then s.overCache (restoreEntry reply.ruleHdl) else s
      (true, { s with pubIpAddr := pubIp })

/-- `Reset`. -/
def reset (s : FullNatApp) : FullNatApp :=
  { s with
    natTableHdl := 0
    pubIpAddr := 0
    cache := s.cache.map fun entry => { entry with enabled := false } }

/-- `DeleteTable`, and whether it returns 0. -/
def deleteTable (s : FullNatApp) (pubIp : Ip) (deleted : Bool) : Bool × FullNatApp :=
  if s.natTableHdl = 0 then (false, s)
  else if s.pubIpAddr ≠ pubIp then (false, s)
  else if deleted then (true, { s with pubIpAddrPre := s.pubIpAddr }.reset)
  else (false, s)

/-! ## The entries -/

/-- `ChkForDup`. -/
def chkForDup (s : FullNatApp) (rule : NatEntry) : Bool :=
  s.cache.any fun entry => entry.key = rule.key

/-- `isAlgPort`. -/
def isAlgPort (s : FullNatApp) (proto : BitVec 8) (port : Port) : Bool :=
  s.algPorts.any fun alg => proto = alg.1 && port = alg.2

/-- `isPwrSaveIf`. -/
def isPwrSaveIf (s : FullNatApp) (ipAddr : Ip) : Bool :=
  s.pwrSaveIfs.any fun ip => 0 ≠ ip && ipAddr = ip

def setEntry (s : FullNatApp) (cnt : Nat) (entry : NatEntry) (more : Int) : FullNatApp :=
  { s with
    cache := s.cache.set cnt entry
    curCnt := s.curCnt + more }

/-- `DeleteEntry`. It returns 0. An entry that is enabled has the driver asked to delete
its rule, but nothing depends on the answer. -/
def deleteEntry (s : FullNatApp) (rule : NatEntry) (_reply : Bool) : FullNatApp :=
  match s.cache.findIdx? fun entry => entry.key = rule.key with
  | none => s
  | some cnt => s.setEntry cnt .empty (-1)

/-- What `AddEntry` writes into an entry that is free: all but the public address. -/
def fill (entry rule : NatEntry) : NatEntry :=
  { entry with
    privateIp := rule.privateIp
    targetIp := rule.targetIp
    targetPort := rule.targetPort
    privatePort := rule.privatePort
    protocol := rule.protocol
    timestamp := 0
    publicPort := rule.publicPort
    dstNat := rule.dstNat }

/-- `AddEntry`, and whether it returns 0. -/
def addEntry (s : FullNatApp) (rule : NatEntry) (reply : Option Nat) : Bool × FullNatApp :=
  if s.natTableHdl = 0 then (false, s)
  else if s.isAlgPort rule.protocol rule.privatePort ||
      s.isAlgPort rule.protocol rule.targetPort then (false, s)
  else if rule.isValid = false then (true, s)
  else if s.chkForDup rule then (false, s)
  else
    match s.cache.findIdx? NatEntry.isFree with
    | none => (false, s)
    | some cnt =>
      match s.cache[cnt]? with
      | none => (false, s)
      | some entry =>
        if s.isPwrSaveIf rule.privateIp || s.isPwrSaveIf rule.targetIp then
          let entry := { entry with enabled := false, ruleHdl := 0 }
          (true, s.setEntry cnt (fill entry rule) 1)
        else
          match s.ipaNatAddIpv4Rule reply with
          | none => (false, s)
          | some hdl =>
            let entry := { entry with enabled := true, ruleHdl := hdl }
            (true, s.setEntry cnt (fill entry rule) 1)

/-- `CacheEntry`. -/
def cacheEntry (s : FullNatApp) (rule : NatEntry) : FullNatApp :=
  if rule.isValid = false then s
  else if s.chkForDup rule then s
  else
    match s.cache.findIdx? NatEntry.isFree with
    | none => s
    | some cnt =>
      match s.cache[cnt]? with
      | none => s
      | some entry =>
        let entry := { entry with enabled := false, ruleHdl := 0 }
        s.setEntry cnt { fill entry rule with publicIp := rule.publicIp } 1

/-! ## The time stamps -/

/-- The update that `UpdateCTUdpTs` makes of an entry. -/
def timeoutUpdate (s : FullNatApp) (rule : NatEntry) : NatTimeoutUpdate :=
  if rule.dstNat = false then
    { udp := rule.protocol = ipprotoUdp
      srcIpAddr := htonl rule.privateIp
      srcPort := rule.privatePort
      dstIpAddr := htonl rule.targetIp
      dstPort := rule.targetPort }
  else
    { udp := rule.protocol = ipprotoUdp
      srcIpAddr := htonl rule.targetIp
      srcPort := rule.targetPort
      dstIpAddr := htonl s.pubIpAddr
      dstPort := rule.publicPort }

/-- `UpdateCTUdpTs`. With an updater registered (`touInstance`) the update is sent, and
the entry gets the new time stamp. -/
def updateCTUdpTs (s : FullNatApp) (touInstance : Bool) (rule : NatEntry) (newTs : BitVec 32) :
    Option NatTimeoutUpdate × NatEntry :=
  if touInstance then (some (s.timeoutUpdate rule), { rule with timestamp := newTs })
  else (none, rule)

/-- One turn of the loop of `UpdateUDPTimeStamp`: whether the entry is asked for, the
update, and the entry then. -/
def refreshEntry (s : FullNatApp) (touInstance : Bool) (reply : Option (BitVec 32))
    (entry : NatEntry) : Bool × Option NatTimeoutUpdate × NatEntry :=
  if entry.enabled && entry.privateIp ≠ entry.publicIp then
    match s.ipaNatQueryTimestamp reply with
    | none => (true, none, entry)
    | some ts =>
      if entry.timestamp = ts then (true, none, entry)
      else (true, s.updateCTUdpTs touInstance entry ts)
  else (false, none, entry)

/-- The loop, from the entry with the number given. -/
def refreshEntries (s : FullNatApp) (touInstance : Bool) (reply : Nat → Option (BitVec 32)) :
    Nat → List NatEntry → Refresh × List NatEntry
  | _, [] => (⟨[], []⟩, [])
  | cnt, entry :: cache =>
    let (queried, update, entry) := s.refreshEntry touInstance (reply cnt) entry
    let (r, cache) := s.refreshEntries touInstance reply (cnt + 1) cache
    ({ queried := if queried then cnt :: r.queried else r.queried
       updated := update.toList.map (fun u => (cnt, u)) ++ r.updated }, entry :: cache)

/-- `UpdateUDPTimeStamp`. -/
def updateUDPTimeStamp (s : FullNatApp) (touInstance : Bool)
    (reply : Nat → Option (BitVec 32)) : Refresh × FullNatApp :=
  let (r, cache) := s.refreshEntries touInstance reply 0 s.cache
  (r, { s with cache := cache })

/-! ## The clients -/

local instance : LawfulBEq Ip := instLawfulBEq

/-- One turn of the loop of `UpdatePwrSaveIf`. -/
def savePower (s : FullNatApp) (clientLanIp : Ip) (reply : Nat → Bool) (cnt : Nat)
    (entry : NatEntry) : NatEntry × Int :=
  if entry.privateIp = clientLanIp && entry.enabled then
    if s.ipaNatDelIpv4Rule (reply cnt) then ({ entry with enabled := false, ruleHdl := 0 }, 0)
    else (entry, 0)
  else (entry, 0)

/-- `UpdatePwrSaveIf`, and whether it returns 0. -/
def updatePwrSaveIf (s : FullNatApp) (clientLanIp : Ip) (reply : Nat → Bool) : Bool × FullNatApp :=
  if clientLanIp = 0 then (false, s)
  else if clientLanIp ∈ s.pwrSaveIfs then (true, s)
  else
    let s := { s with pwrSaveIfs := s.pwrSaveIfs.replace 0 clientLanIp }
    (true, s.overCache (s.savePower clientLanIp reply))

/-- One turn of the loop of `ResetPwrSaveIf`. -/
def resumePower (s : FullNatApp) (clientLanIp : Ip) (reply : Nat → Option Nat) (cnt : Nat)
    (entry : NatEntry) : NatEntry × Int :=
  if entry.privateIp = clientLanIp && !entry.enabled then
    match s.ipaNatAddIpv4Rule (reply cnt) with
    | none => (.empty, -1)
    | some hdl => ({ entry with ruleHdl := hdl, enabled := true }, 0)
  else (entry, 0)

/-- `ResetPwrSaveIf`. It never returns 0. -/
def resetPwrSaveIf (s : FullNatApp) (clientLanIp : Ip) (reply : Nat → Option Nat) : FullNatApp :=
  if clientLanIp = 0 then s
  else
    let s := { s with pwrSaveIfs := s.pwrSaveIfs.replace clientLanIp 0 }
    s.overCache (s.resumePower clientLanIp reply)

/-- One turn of the loop of `DelEntriesOnClntDiscon`. The entry stays, and keeps the
handle. -/
def dropRule (s : FullNatApp) (ipAddr : Ip) (reply : Nat → Bool) (cnt : Nat)
    (entry : NatEntry) : NatEntry × Int :=
  if entry.privateIp = ipAddr && entry.enabled then
    if s.ipaNatDelIpv4Rule (reply cnt) then ({ entry with enabled := false }, 0)
    else (entry, 0)
  else (entry, 0)

/-- `DelEntriesOnClntDiscon`, and whether it returns 0. -/
def delEntriesOnClntDiscon (s : FullNatApp) (ipAddr : Ip) (reply : Nat → Bool) :
    Bool × FullNatApp :=
  if ipAddr = 0 then (false, s)
  else
    let s := { s with pwrSaveIfs := s.pwrSaveIfs.replace ipAddr 0 }
    (true, s.overCache (s.dropRule ipAddr reply))

/-- One turn of the loop of `DelEntriesOnSTAClntDiscon`. -/
def dropEntry (s : FullNatApp) (ipAddr : Ip) (reply : Nat → Bool) (cnt : Nat)
    (entry : NatEntry) : NatEntry × Int :=
  if entry.targetIp = ipAddr then
    if entry.enabled && !s.ipaNatDelIpv4Rule (reply cnt) then (entry, 0) else (.empty, -1)
  else (entry, 0)

/-- `DelEntriesOnSTAClntDiscon`, and whether it returns 0. -/
def delEntriesOnSTAClntDiscon (s : FullNatApp) (ipAddr : Ip) (reply : Nat → Bool) :
    Bool × FullNatApp :=
  if ipAddr = 0 then (false, s) else (true, s.overCache (s.dropEntry ipAddr reply))

/-! ## The entries kept for later -/

/-- `AddTempEntry`. -/
def addTempEntry (s : FullNatApp) (newEntry : NatEntry) : FullNatApp :=
  if s.isAlgPort newEntry.protocol newEntry.privatePort ||
      s.isAlgPort newEntry.protocol newEntry.targetPort then s
  else if s.chkForDup newEntry then s
  else if s.temp.any fun entry => entry.key = newEntry.key then s
  else
    match s.temp.findIdx? fun entry => entry.privateIp = 0 && entry.targetIp = 0 with
    | none => s
    | some cnt => { s with temp := s.temp.set cnt newEntry }

/-- `DeleteTempEntry`. -/
def deleteTempEntry (s : FullNatApp) (entry : NatEntry) : FullNatApp :=
  match s.temp.findIdx? fun temp => temp.key = entry.key with
  | none => s
  | some cnt => { s with temp := s.temp.set cnt .empty }

/-- One turn of the loop of `FlushTempEntries`. -/
def flushTempEntry (ipAddr : Ip) (isAdd isDummy : Bool) (reply : Nat → Option Nat)
    (s : FullNatApp) (cnt : Nat) : FullNatApp :=
  match s.temp[cnt]? with
  | none => s
  | some entry =>
    if entry.privateIp = ipAddr || entry.targetIp = ipAddr then
      if isAdd && entry.publicIp = s.pubIpAddr then
        let entry :=
          if isDummy then
            { entry with
              privateIp := entry.publicIp
              privatePort := entry.publicPort }
          else entry
        let s := { s with temp := s.temp.set cnt entry }
        match s.addEntry entry (reply cnt) with
        | (false, s) => s
        | (true, s) => { s with temp := s.temp.set cnt .empty }
      else { s with temp := s.temp.set cnt .empty }
    else s

/-- `FlushTempEntries`. -/
def flushTempEntries (s : FullNatApp) (ipAddr : Ip) (isAdd isDummy : Bool)
    (reply : Nat → Option Nat) : FullNatApp :=
  (List.range s.temp.length).foldl (flushTempEntry ipAddr isAdd isDummy reply) s

/-! ## Runs -/

/-- The calls, with what the driver answers. -/
inductive Op
  | addTable (pubIp : Ip) (reply : TblReply)
  | deleteTable (pubIp : Ip) (deleted : Bool)
  | addEntry (rule : NatEntry) (reply : Option Nat)
  | deleteEntry (rule : NatEntry) (reply : Bool)
  | cacheEntry (rule : NatEntry)
  | updateUDPTimeStamp (touInstance : Bool) (reply : Nat → Option (BitVec 32))
  | updatePwrSaveIf (clientLanIp : Ip) (reply : Nat → Bool)
  | resetPwrSaveIf (clientLanIp : Ip) (reply : Nat → Option Nat)
  | delEntriesOnClntDiscon (ipAddr : Ip) (reply : Nat → Bool)
  | delEntriesOnSTAClntDiscon (ipAddr : Ip) (reply : Nat → Bool)
  | addTempEntry (newEntry : NatEntry)
  | deleteTempEntry (entry : NatEntry)
  | flushTempEntries (ipAddr : Ip) (isAdd isDummy : Bool) (reply : Nat → Option Nat)

def step (s : FullNatApp) : Op → FullNatApp
  | .addTable pubIp reply => (s.addTable pubIp reply).2
  | .deleteTable pubIp deleted => (s.deleteTable pubIp deleted).2
  | .addEntry rule reply => (s.addEntry rule reply).2
  | .deleteEntry rule reply => s.deleteEntry rule reply
  | .cacheEntry rule => s.cacheEntry rule
  | .updateUDPTimeStamp touInstance reply => (s.updateUDPTimeStamp touInstance reply).2
  | .updatePwrSaveIf clientLanIp reply => (s.updatePwrSaveIf clientLanIp reply).2
  | .resetPwrSaveIf clientLanIp reply => s.resetPwrSaveIf clientLanIp reply
  | .delEntriesOnClntDiscon ipAddr reply => (s.delEntriesOnClntDiscon ipAddr reply).2
  | .delEntriesOnSTAClntDiscon ipAddr reply => (s.delEntriesOnSTAClntDiscon ipAddr reply).2
  | .addTempEntry newEntry => s.addTempEntry newEntry
  | .deleteTempEntry entry => s.deleteTempEntry entry
  | .flushTempEntries ipAddr isAdd isDummy reply =>
    s.flushTempEntries ipAddr isAdd isDummy reply

/-! ## The loops -/

variable {turn : Nat → NatEntry → NatEntry × Int} {s : FullNatApp} {cnt : Nat}

theorem turns_getElem (turn : Nat → NatEntry → NatEntry × Int) (cache : List NatEntry)
    (start cnt : Nat) (curCnt : Int) :
    (turns turn start cache curCnt).1[cnt]? =
      cache[cnt]?.map fun entry => (turn (start + cnt) entry).1 := by
  induction cache generalizing start cnt curCnt with
  | nil => rfl
  | cons entry cache ih =>
    rw [turns]
    dsimp only
    cases cnt with
    | zero => rfl
    | succ cnt =>
      rw [List.getElem?_cons_succ, List.getElem?_cons_succ, ih]
      rw [Nat.add_assoc, Nat.add_comm 1 cnt]

theorem overCache_getElem (turn : Nat → NatEntry → NatEntry × Int) (s : FullNatApp)
    (cnt : Nat) :
    (s.overCache turn).cache[cnt]? = s.cache[cnt]?.map fun entry => (turn cnt entry).1 := by
  rw [overCache, turns_getElem]
  simp only [Nat.zero_add]

end FullNatApp

end Axon7.Conntrack

/-!
# Deletions that the driver refuses

An entry is the only place that has the handle of its rule. Where the driver refuses to
delete the rule, the loops of `UpdatePwrSaveIf`, `DelEntriesOnClntDiscon` and
`DelEntriesOnSTAClntDiscon` go on and leave the entry. `DeleteEntry` clears it all the
same, and the rule stays in the table for good.
-/

namespace Axon7.Conntrack

namespace FullNatApp

/-- The call has the driver asked to delete the rule of an entry that is enabled, and the
driver refuses. -/
inductive Refuses (s : FullNatApp) : Op → Nat → NatEntry → Prop
  | deleteEntry {rule entry : NatEntry} {reply : Bool} {cnt : Nat}
      (hfind : (s.cache.findIdx? fun entry => entry.key = rule.key) = some cnt)
      (hget : s.cache[cnt]? = some entry) (hon : entry.enabled = true)
      (hrefused : s.ipaNatDelIpv4Rule reply = false) :
      Refuses s (.deleteEntry rule reply) cnt entry
  | updatePwrSaveIf {clientLanIp : Ip} {entry : NatEntry} {reply : Nat → Bool} {cnt : Nat}
      (hip : clientLanIp ≠ 0) (hnew : clientLanIp ∉ s.pwrSaveIfs)
      (hget : s.cache[cnt]? = some entry) (hclient : entry.privateIp = clientLanIp)
      (hon : entry.enabled = true) (hrefused : s.ipaNatDelIpv4Rule (reply cnt) = false) :
      Refuses s (.updatePwrSaveIf clientLanIp reply) cnt entry
  | delEntriesOnClntDiscon {ipAddr : Ip} {entry : NatEntry} {reply : Nat → Bool} {cnt : Nat}
      (hip : ipAddr ≠ 0) (hget : s.cache[cnt]? = some entry)
      (hclient : entry.privateIp = ipAddr) (hon : entry.enabled = true)
      (hrefused : s.ipaNatDelIpv4Rule (reply cnt) = false) :
      Refuses s (.delEntriesOnClntDiscon ipAddr reply) cnt entry
  | delEntriesOnSTAClntDiscon {ipAddr : Ip} {entry : NatEntry} {reply : Nat → Bool}
      {cnt : Nat} (hip : ipAddr ≠ 0) (hget : s.cache[cnt]? = some entry)
      (htarget : entry.targetIp = ipAddr) (hon : entry.enabled = true)
      (hrefused : s.ipaNatDelIpv4Rule (reply cnt) = false) :
      Refuses s (.delEntriesOnSTAClntDiscon ipAddr reply) cnt entry

/-- What an entry counts for. -/
def weight (entry : NatEntry) : Int := if entry.isFree then 0 else 1

/-- The entries in use. -/
def used (s : FullNatApp) : Int := (s.cache.map weight).sum

/-- The entry keeps its connection, its handle and its flag, and `curCnt` has changed by as
much as the entries in use. -/
structure Keeps (s s' : FullNatApp) (cnt : Nat) (entry : NatEntry) : Prop where
  entry : ∃ entry', s'.cache[cnt]? = some entry' ∧ entry'.key = entry.key ∧
    entry'.ruleHdl = entry.ruleHdl ∧ entry'.enabled = true
  counted : s'.curCnt - s.curCnt = s'.used - s.used

variable {s : FullNatApp} {op : Op} {cnt : Nat} {entry : NatEntry}
  {turn : Nat → NatEntry → NatEntry × Int}

/-! ## The count -/

theorem turns_counted (hturn : ∀ cnt entry, (turn cnt entry).2 =
      weight (turn cnt entry).1 - weight entry) (cache : List NatEntry) (start : Nat)
    (curCnt : Int) :
    (turns turn start cache curCnt).2 - curCnt =
      ((turns turn start cache curCnt).1.map weight).sum - (cache.map weight).sum := by
  induction cache generalizing start curCnt with
  | nil => simp [turns]
  | cons entry cache ih =>
    have hrest := ih (start + 1) (curCnt + (turn start entry).2)
    have hentry := hturn start entry
    simp only [turns, List.map_cons, List.sum_cons]
    omega

theorem overCache_counted (hturn : ∀ cnt entry, (turn cnt entry).2 =
      weight (turn cnt entry).1 - weight entry) :
    (s.overCache turn).curCnt - s.curCnt = (s.overCache turn).used - s.used :=
  turns_counted hturn s.cache 0 s.curCnt

theorem savePower_counted (clientLanIp : Ip) (reply : Nat → Bool) (cnt : Nat)
    (entry : NatEntry) :
    (s.savePower clientLanIp reply cnt entry).2 =
      weight (s.savePower clientLanIp reply cnt entry).1 - weight entry := by
  rw [savePower]
  split
  · split
    · exact (Int.sub_self _).symm
    · exact (Int.sub_self _).symm
  · exact (Int.sub_self _).symm

theorem dropRule_counted (ipAddr : Ip) (reply : Nat → Bool) (cnt : Nat) (entry : NatEntry) :
    (s.dropRule ipAddr reply cnt entry).2 =
      weight (s.dropRule ipAddr reply cnt entry).1 - weight entry := by
  rw [dropRule]
  split
  · split
    · exact (Int.sub_self _).symm
    · exact (Int.sub_self _).symm
  · exact (Int.sub_self _).symm

theorem weight_of_targetIp (h : entry.targetIp ≠ 0) : weight entry = 1 := by
  rw [weight, if_neg]
  simp only [NatEntry.isFree, NatTableEntry.isFree, NatTableEntry.key, Prod.mk.injEq,
    decide_eq_true_eq]
  exact fun hfree => h hfree.2.1

theorem dropEntry_counted {ipAddr : Ip} (hip : ipAddr ≠ 0) (reply : Nat → Bool) (cnt : Nat)
    (entry : NatEntry) :
    (s.dropEntry ipAddr reply cnt entry).2 =
      weight (s.dropEntry ipAddr reply cnt entry).1 - weight entry := by
  rw [dropEntry]
  split
  · next htarget =>
    split
    · exact (Int.sub_self _).symm
    · have hused : weight entry = 1 := weight_of_targetIp (htarget ▸ hip)
      show (-1 : Int) = weight .empty - weight entry
      rw [hused]
      rfl
  · exact (Int.sub_self _).symm

/-! ## The calls -/

theorem keeps_of_turn (hget : s.cache[cnt]? = some entry) (hon : entry.enabled = true)
    {s₀ : FullNatApp} (hcache : s₀.cache = s.cache) (hcnt : s₀.curCnt = s.curCnt)
    (hself : (turn cnt entry).1 = entry)
    (hturn : ∀ cnt entry, (turn cnt entry).2 = weight (turn cnt entry).1 - weight entry) :
    Keeps s (s₀.overCache turn) cnt entry where
  entry := by
    refine ⟨entry, ?_, rfl, rfl, hon⟩
    rw [overCache_getElem, hcache, hget, Option.map_some, hself]
  counted := by
    have hused : s.used = s₀.used := by rw [used, used, hcache]
    rw [← hcnt, hused]
    exact overCache_counted hturn

theorem deleteEntry_not_keeps {rule : NatEntry} {reply : Bool}
    (h : s.Refuses (.deleteEntry rule reply) cnt entry) :
    ¬ Keeps s (s.deleteEntry rule reply) cnt entry := by
  cases h with
  | deleteEntry hfind hget hon hrefused =>
    intro hkeeps
    obtain ⟨entry', hget', -, -, hon'⟩ := hkeeps.entry
    rw [deleteEntry, hfind] at hget'
    have hcleared : (s.cache.set cnt .empty)[cnt]? = some .empty :=
      List.getElem?_set_self (List.getElem?_eq_some_iff.mp hget).1
    rw [← Option.some.inj (hcleared.symm.trans hget')] at hon'
    exact absurd hon' Bool.false_ne_true

/-- A call that has the driver asked to delete rules keeps every entry that the driver
refuses to delete the rule of, iff it is not a `DeleteEntry` that is refused. -/
theorem refused_kept_iff (s : FullNatApp) (op : Op) :
    (∀ cnt entry, s.Refuses op cnt entry → Keeps s (s.step op) cnt entry) ↔
      ∀ rule reply, op = .deleteEntry rule reply →
        ∀ cnt entry, ¬ s.Refuses op cnt entry := by
  constructor
  · rintro h rule reply rfl cnt entry hrefuses
    exact deleteEntry_not_keeps hrefuses (h cnt entry hrefuses)
  · intro h cnt entry hrefuses
    cases hrefuses with
    | deleteEntry hfind hget hon hrefused =>
      exact absurd (.deleteEntry hfind hget hon hrefused) (h _ _ rfl _ _)
    | updatePwrSaveIf hip hnew hget hclient hon hrefused =>
      rw [step, updatePwrSaveIf, if_neg hip, if_neg hnew]
      refine keeps_of_turn hget hon rfl rfl ?_ (savePower_counted _ _)
      rw [savePower, hclient, hon]
      simp only [decide_true, Bool.and_self, if_true]
      exact congrArg Prod.fst (if_neg (ne_true_of_eq_false hrefused))
    | delEntriesOnClntDiscon hip hget hclient hon hrefused =>
      rw [step, delEntriesOnClntDiscon, if_neg hip]
      refine keeps_of_turn hget hon rfl rfl ?_ (dropRule_counted _ _)
      rw [dropRule, hclient, hon]
      simp only [decide_true, Bool.and_self, if_true]
      exact congrArg Prod.fst (if_neg (ne_true_of_eq_false hrefused))
    | delEntriesOnSTAClntDiscon hip hget htarget hon hrefused =>
      rw [step, delEntriesOnSTAClntDiscon, if_neg hip]
      refine keeps_of_turn hget hon rfl rfl ?_ (dropEntry_counted hip _)
      rw [dropEntry, if_pos htarget, hon, hrefused]
      rfl

/-- A connection of a client is in a table, and closes. -/
def oneRule : List Op :=
  let rule : NatEntry := ⟨0xC0A80002, 5000, 0x08080808, 53, 0x0A000001, 5000, 17, 0, false,
    false, 0⟩
  [.addTable 0x0A000001 ⟨some ⟨1, Nat.one_ne_zero⟩, fun _ => none⟩, .addEntry rule (some 7)]

/-- The driver refuses to delete its rule, and the entry goes. -/
theorem oneRule_not_kept :
    let s := oneRule.foldl step (new 1 0 [] [])
    let rule : NatEntry := ⟨0xC0A80002, 5000, 0x08080808, 53, 0, 0, 17, 0, false, false, 0⟩
    ¬ ∀ cnt entry, s.Refuses (.deleteEntry rule false) cnt entry →
      Keeps s (s.step (.deleteEntry rule false)) cnt entry := by
  intro s rule h
  have hrefuses : s.Refuses (.deleteEntry rule false) 0
      ⟨0xC0A80002, 5000, 0x08080808, 53, 0, 5000, 17, 0, false, true, 7⟩ :=
    .deleteEntry (by decide) (by decide) rfl (by decide)
  exact deleteEntry_not_keeps hrefuses (h _ _ hrefuses)

end FullNatApp

end Axon7.Conntrack
