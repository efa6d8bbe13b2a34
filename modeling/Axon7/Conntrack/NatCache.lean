import Axon7.Conntrack.NatApp
import Axon7.Lib.SlotTable

/-!
# The cache of NatApp

The calls of `NatApp` that edit the cache, the entries kept for later and the
clients that save power. The rules that the driver has are beside them: the
driver adds a rule if it has a table and wants to, under a handle that is free,
and deletes a rule that it has.
-/

namespace Axon7.Conntrack

open Axon7.Lib

/-- `ipa_nat_ipv4_rule`, as far as `NatApp` fills it in. -/
structure NatRule where
  privateIp : Ip
  targetIp : Ip
  targetPort : Port
  privatePort : Port
  publicPort : Port
  protocol : BitVec 8
deriving DecidableEq

/-- The rules of the driver. -/
abbrev NatRules := HandleMap Nat NatRule

/-- The five fields that tell a connection. -/
abbrev NatKey := Ip × Ip × Port × Port × BitVec 8

namespace NatTableEntry

def key (entry : NatTableEntry) : NatKey :=
  (entry.privateIp, entry.targetIp, entry.privatePort, entry.targetPort,
    entry.protocol)

/-- All five are 0. -/
def isFree (entry : NatTableEntry) : Bool := entry.key = (0, 0, 0, 0, 0)

/-- None of the five is 0. -/
def isValid (entry : NatTableEntry) : Bool :=
  entry.privateIp ≠ 0 && entry.targetIp ≠ 0 && entry.privatePort ≠ 0 &&
    entry.targetPort ≠ 0 && entry.protocol ≠ 0

/-- The rule that is asked for. -/
def natRule (entry : NatTableEntry) : NatRule where
  privateIp := entry.privateIp
  targetIp := entry.targetIp
  targetPort := entry.targetPort
  privatePort := entry.privatePort
  publicPort := entry.publicPort
  protocol := entry.protocol

/-- Not in the driver. -/
def off (entry : NatTableEntry) : NatTableEntry :=
  { entry with enabled := false, ruleHdl := 0 }

/-- In the driver, under the handle. -/
def on (entry : NatTableEntry) (hdl : Nat) : NatTableEntry :=
  { entry with enabled := true, ruleHdl := hdl }

end NatTableEntry

/-- `nat_table_entry` where its public address is read too. -/
structure TempEntry extends NatTableEntry where
  publicIp : Ip
deriving DecidableEq

/-- A temporary entry cleared. -/
def TempEntry.empty : TempEntry where
  toNatTableEntry := .empty
  publicIp := 0

/-- `MAX_TEMP_ENTRIES`. -/
def maxTempEntries : Nat := 25

/-- What the driver does when a table is asked for that is new: no two rules get
one handle. -/
structure NewTblReply extends TblReply where
  fresh : ∀ i j hdl, ruleHdl i = some hdl → ruleHdl j = some hdl → i = j

theorem fresh_first : ∀ i j hdl : Nat, (if i = 0 then some 7 else none) = some hdl →
    (if j = 0 then some 7 else none) = some hdl → i = j := by
  grind

/-- `NatApp`, and the rules in the driver. -/
structure NatCache extends NatApp where
  temp : List TempEntry
  pwrSaveIfs : List Ip
  algPorts : List (BitVec 8 × Port)
  rules : NatRules

namespace NatCache

/-- The constructor and `Init`. The clients that save power are left as the
memory has them. -/
def new (maxEntries : Nat) (pubIpAddrPre : Ip) (pwrSaveIfs : List Ip)
    (algPorts : List (BitVec 8 × Port)) : NatCache where
  toNatApp := .new maxEntries pubIpAddrPre
  temp := List.replicate maxTempEntries .empty
  pwrSaveIfs := pwrSaveIfs
  algPorts := algPorts
  rules := fun _ => none

/-! ## The driver -/

/-- `ipa_nat_add_ipv4_rule`: the handle and the rules then. -/
def ipaNatAddIpv4Rule (c : NatCache) (rule : NatRule) (reply : Option Nat) :
    Option (Nat × NatRules) :=
  if c.natTableHdl = 0 then none
  else
    match reply with
    | none => none
    | some hdl => (c.rules.next (.added hdl rule)).map fun rules => (hdl, rules)

/-- `ipa_nat_del_ipv4_rule`: the rules then. -/
def ipaNatDelIpv4Rule (c : NatCache) (hdl : Nat) : Option NatRules :=
  if c.natTableHdl = 0 then none else c.rules.next (.deleted hdl)

/-! ## The entries -/

/-- One entry written, with the count and the rules then. -/
def write (c : NatCache) (cnt : Nat) (entry : NatTableEntry) (curCnt : Int)
    (rules : NatRules) : NatCache :=
  { c with
    cache := c.cache.set cnt entry
    curCnt := curCnt
    rules := rules }

/-- A loop over the entries. Each turn sees the entry as it is then. -/
def overCache (turn : Nat → NatTableEntry → NatCache → NatCache)
    (c : NatCache) : NatCache :=
  (List.range c.cache.length).foldl
    (fun c cnt =>
      match c.cache[cnt]? with
      | none => c
      | some entry => turn cnt entry c) c

/-- `ChkForDup`. -/
def chkForDup (c : NatCache) (rule : NatTableEntry) : Bool :=
  c.cache.any fun entry => entry.key = rule.key

/-- `isAlgPort`. -/
def isAlgPort (c : NatCache) (proto : BitVec 8) (port : Port) : Bool :=
  c.algPorts.any fun alg => proto = alg.1 && port = alg.2

/-- `isPwrSaveIf`. -/
def isPwrSaveIf (c : NatCache) (ipAddr : Ip) : Bool :=
  c.pwrSaveIfs.any fun ip => 0 ≠ ip && ipAddr = ip

/-- `DeleteEntry`. It returns 0. -/
def deleteEntry (c : NatCache) (rule : NatTableEntry) : NatCache :=
  match c.cache.findIdx? fun entry => entry.key = rule.key with
  | none => c
  | some cnt =>
    match c.cache[cnt]? with
    | none => c
    | some entry =>
      -- the entry goes even if its rule stays
      let rules :=
        if entry.enabled then
          (c.ipaNatDelIpv4Rule entry.ruleHdl).getD c.rules
        else c.rules
      c.write cnt .empty (c.curCnt - 1) rules

/-- `AddEntry`, and whether it returns 0. What a driver that adds no rule leaves
in the handle of the free entry is not read. -/
def addEntry (c : NatCache) (rule : NatTableEntry) (reply : Option Nat) :
    Bool × NatCache :=
  if c.natTableHdl = 0 then (false, c)
  else if c.isAlgPort rule.protocol rule.privatePort ||
      c.isAlgPort rule.protocol rule.targetPort then (false, c)
  else if rule.isValid = false then (true, c)
  else if c.chkForDup rule then (false, c)
  else
    match c.cache.findIdx? NatTableEntry.isFree with
    | none => (false, c)
    | some cnt =>
      if c.isPwrSaveIf rule.privateIp || c.isPwrSaveIf rule.targetIp then
        (true, c.write cnt rule.off (c.curCnt + 1) c.rules)
      else
        match c.ipaNatAddIpv4Rule rule.natRule reply with
        | none => (false, c)
        | some (hdl, rules) =>
          (true, c.write cnt (rule.on hdl) (c.curCnt + 1) rules)

/-- `CacheEntry`. -/
def cacheEntry (c : NatCache) (rule : NatTableEntry) : NatCache :=
  if rule.isValid = false then c
  else if c.chkForDup rule then c
  else
    match c.cache.findIdx? NatTableEntry.isFree with
    | none => c
    | some cnt => c.write cnt rule.off (c.curCnt + 1) c.rules

/-! ## The clients -/

/-- One turn of the loop of `UpdatePwrSaveIf`. -/
def savePower (clientLanIp : Ip) (cnt : Nat) (entry : NatTableEntry)
    (c : NatCache) : NatCache :=
  if entry.privateIp = clientLanIp && entry.enabled then
    match c.ipaNatDelIpv4Rule entry.ruleHdl with
    | none => c
    | some rules => c.write cnt entry.off c.curCnt rules
  else c

/-- `UpdatePwrSaveIf`, and whether it returns 0. -/
def updatePwrSaveIf (c : NatCache) (clientLanIp : Ip) : Bool × NatCache :=
  if clientLanIp = 0 then (false, c)
  else if clientLanIp ∈ c.pwrSaveIfs then (true, c)
  else
    let c := { c with pwrSaveIfs := c.pwrSaveIfs.replace 0 clientLanIp }
    (true, c.overCache (savePower clientLanIp))

/-- One turn of the loop of `ResetPwrSaveIf`. -/
def resumePower (clientLanIp : Ip) (reply : Nat → Option Nat) (cnt : Nat)
    (entry : NatTableEntry) (c : NatCache) : NatCache :=
  if entry.privateIp = clientLanIp && !entry.enabled then
    match c.ipaNatAddIpv4Rule entry.natRule (reply cnt) with
    | none => c.write cnt .empty (c.curCnt - 1) c.rules
    | some (hdl, rules) => c.write cnt (entry.on hdl) c.curCnt rules
  else c

/-- `ResetPwrSaveIf`. It never returns 0. -/
def resetPwrSaveIf (c : NatCache) (clientLanIp : Ip)
    (reply : Nat → Option Nat) : NatCache :=
  if clientLanIp = 0 then c
  else
    let c := { c with pwrSaveIfs := c.pwrSaveIfs.replace clientLanIp 0 }
    c.overCache (resumePower clientLanIp reply)

/-- One turn of the loop of `DelEntriesOnClntDiscon`. The entry stays, and keeps
the handle. -/
def dropRule (ipAddr : Ip) (cnt : Nat) (entry : NatTableEntry) (c : NatCache) :
    NatCache :=
  if entry.privateIp = ipAddr && entry.enabled then
    match c.ipaNatDelIpv4Rule entry.ruleHdl with
    | none => c
    | some rules => c.write cnt { entry with enabled := false } c.curCnt rules
  else c

/-- `DelEntriesOnClntDiscon`, and whether it returns 0. -/
def delEntriesOnClntDiscon (c : NatCache) (ipAddr : Ip) : Bool × NatCache :=
  if ipAddr = 0 then (false, c)
  else
    let c := { c with pwrSaveIfs := c.pwrSaveIfs.replace ipAddr 0 }
    (true, c.overCache (dropRule ipAddr))

/-- One turn of the loop of `DelEntriesOnSTAClntDiscon`. -/
def dropEntry (ipAddr : Ip) (cnt : Nat) (entry : NatTableEntry) (c : NatCache) :
    NatCache :=
  if entry.targetIp = ipAddr then
    if entry.enabled then
      match c.ipaNatDelIpv4Rule entry.ruleHdl with
      | none => c
      | some rules => c.write cnt .empty (c.curCnt - 1) rules
    else c.write cnt .empty (c.curCnt - 1) c.rules
  else c

/-- `DelEntriesOnSTAClntDiscon`, and whether it returns 0. -/
def delEntriesOnSTAClntDiscon (c : NatCache) (ipAddr : Ip) : Bool × NatCache :=
  if ipAddr = 0 then (false, c) else (true, c.overCache (dropEntry ipAddr))

/-! ## The entries kept for later -/

/-- `AddTempEntry`. -/
def addTempEntry (c : NatCache) (newEntry : TempEntry) : NatCache :=
  if c.isAlgPort newEntry.protocol newEntry.privatePort ||
      c.isAlgPort newEntry.protocol newEntry.targetPort then c
  else if c.chkForDup newEntry.toNatTableEntry then c
  else if c.temp.any fun entry => entry.key = newEntry.key then c
  else
    -- two of the five fields tell a place that is free
    match c.temp.findIdx? fun entry =>
        entry.privateIp = 0 && entry.targetIp = 0 with
    | none => c
    | some cnt => { c with temp := c.temp.set cnt newEntry }

/-- `DeleteTempEntry`. -/
def deleteTempEntry (c : NatCache) (entry : NatTableEntry) : NatCache :=
  match c.temp.findIdx? fun temp => temp.key = entry.key with
  | none => c
  | some cnt => { c with temp := c.temp.set cnt .empty }

/-- One turn of the loop of `FlushTempEntries`. -/
def flushTempEntry (ipAddr : Ip) (isAdd isDummy : Bool)
    (reply : Nat → Option Nat) (c : NatCache) (cnt : Nat) : NatCache :=
  match c.temp[cnt]? with
  | none => c
  | some entry =>
    if entry.privateIp = ipAddr || entry.targetIp = ipAddr then
      if isAdd && entry.publicIp = c.pubIpAddr then
        let entry :=
          if isDummy then
            { entry with
              privateIp := entry.publicIp
              privatePort := entry.publicPort }
          else entry
        let c := { c with temp := c.temp.set cnt entry }
        match c.addEntry entry.toNatTableEntry (reply cnt) with
        | (false, c) => c
        | (true, c) => { c with temp := c.temp.set cnt .empty }
      else { c with temp := c.temp.set cnt .empty }
    else c

/-- `FlushTempEntries`. -/
def flushTempEntries (c : NatCache) (ipAddr : Ip) (isAdd isDummy : Bool)
    (reply : Nat → Option Nat) : NatCache :=
  (List.range c.temp.length).foldl (flushTempEntry ipAddr isAdd isDummy reply) c

/-! ## The table -/

/-- The rules that the loop of `AddTable` adds, from the entry with the number
given. -/
def restoreRules (ruleHdl : Nat → Option Nat) :
    Nat → List NatTableEntry → NatRules → NatRules
  | _, [], rules => rules
  | cnt, entry :: cache, rules =>
    restoreRules ruleHdl (cnt + 1) cache <|
      if entry.privateIp ≠ 0 then
        match ruleHdl cnt with
        | none => rules
        | some hdl => Function.update rules hdl (some entry.natRule)
      else rules

/-- `AddTable` where there is no table, and whether it returns 0. -/
def addTable (c : NatCache) (pubIp : Ip) (reply : NewTblReply) :
    Bool × NatCache :=
  let (ok, n) := c.toNatApp.addTable pubIp reply.toTblReply
  (ok,
    { c with
      toNatApp := n
      rules :=
        if ok && pubIp = c.pubIpAddrPre then
          restoreRules reply.ruleHdl 0 c.cache c.rules
        else c.rules })

/-- `DeleteTable`, and whether it returns 0. The rules go with the table. -/
def deleteTable (c : NatCache) (pubIp : Ip) (deleted : Bool) :
    Bool × NatCache :=
  let (ok, n) := c.toNatApp.deleteTable pubIp deleted
  (ok,
    { c with
      toNatApp := n
      rules := if ok then fun _ => none else c.rules })

/-! ## Runs -/

/-- The calls, with what the driver answers where it is asked. -/
inductive Op
  | addTable (pubIp : Ip) (reply : NewTblReply)
  | deleteTable (pubIp : Ip) (deleted : Bool)
  | addEntry (rule : NatTableEntry) (reply : Option Nat)
  | deleteEntry (rule : NatTableEntry)
  | cacheEntry (rule : NatTableEntry)
  | addTempEntry (newEntry : TempEntry)
  | deleteTempEntry (entry : NatTableEntry)
  | flushTempEntries (ipAddr : Ip) (isAdd isDummy : Bool)
      (reply : Nat → Option Nat)
  | updatePwrSaveIf (clientLanIp : Ip)
  | resetPwrSaveIf (clientLanIp : Ip) (reply : Nat → Option Nat)
  | delEntriesOnClntDiscon (ipAddr : Ip)
  | delEntriesOnSTAClntDiscon (ipAddr : Ip)

/-- What the callers see to: a table is asked for where there is none, and the
connection to delete has a protocol. -/
def Op.Allowed (c : NatCache) : Op → Prop
  | .addTable _ _ => c.natTableHdl = 0
  | .deleteEntry rule => rule.protocol ≠ 0
  | _ => True

def step (c : NatCache) : Op → NatCache
  | .addTable pubIp reply => (c.addTable pubIp reply).2
  | .deleteTable pubIp deleted => (c.deleteTable pubIp deleted).2
  | .addEntry rule reply => (c.addEntry rule reply).2
  | .deleteEntry rule => c.deleteEntry rule
  | .cacheEntry rule => c.cacheEntry rule
  | .addTempEntry newEntry => c.addTempEntry newEntry
  | .deleteTempEntry entry => c.deleteTempEntry entry
  | .flushTempEntries ipAddr isAdd isDummy reply =>
    c.flushTempEntries ipAddr isAdd isDummy reply
  | .updatePwrSaveIf clientLanIp => (c.updatePwrSaveIf clientLanIp).2
  | .resetPwrSaveIf clientLanIp reply => c.resetPwrSaveIf clientLanIp reply
  | .delEntriesOnClntDiscon ipAddr => (c.delEntriesOnClntDiscon ipAddr).2
  | .delEntriesOnSTAClntDiscon ipAddr => (c.delEntriesOnSTAClntDiscon ipAddr).2

/-- The calls come where they are allowed. -/
def Legal (c : NatCache) : List Op → Prop
  | [] => True
  | op :: ops => op.Allowed c ∧ Legal (c.step op) ops

end NatCache

end Axon7.Conntrack
