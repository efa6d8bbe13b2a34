import Axon7.Gnss.Tracking
import Axon7.LocationApi.Client

/-!
# Configuring the modem

`gnssUpdateConfigCommand` sends the items that a client sets to the modem and
keeps them in `mGps_conf`, and the SUPL server in `mServerUrl`; most are not
sent again when they have not changed. `setConfigCommand` sends `mGps_conf` when
the engine comes up. The calls into the modem succeed.
-/

namespace Axon7.ModemConfig

open Gnss (LocationError)

abbrev Word := BitVec 32

/-- The masks of `LocationAPI.h`. -/
abbrev Mask := BitVec 16

abbrev Url := List Char

inductive GnssConfigGpsLock
  | none
  | mo
  | ni
  | moAndNi
deriving DecidableEq

inductive GnssConfigSuplVersion
  | v1_0_0
  | v2_0_0
  | v2_0_2
deriving DecidableEq

inductive GnssConfigLppProfile
  | rrlpOnLte
  | userPlane
  | controlPlane
  | userPlaneAndControlPlane
deriving DecidableEq

inductive GnssAssistanceType
  | supl
  | c2k
  | other
deriving DecidableEq

structure GnssConfigSetAssistanceServer where
  type : GnssAssistanceType
  hostName : Option Url
  port : Word

/-- `GnssConfig`. -/
structure GnssConfig where
  flags : Word
  gpsLock : GnssConfigGpsLock
  suplVersion : GnssConfigSuplVersion
  assistanceServer : GnssConfigSetAssistanceServer
  lppProfile : GnssConfigLppProfile
  lppeControlPlaneMask : Mask
  lppeUserPlaneMask : Mask
  aGlonassPositionProtocolMask : Mask
  emergencyPdnForEmergencySupl : Bool
  suplEmergencyServices : Bool
  suplModeMask : Mask

/-- `mGps_conf`, as far as it is set here. -/
structure GpsConf where
  gpsLock : Word
  suplVer : Word
  lppProfile : Word
  lppeCpTechnology : Word
  lppeUpTechnology : Word
  aGlonassPosProtocolSelect : Word
  useEmergencyPdnForEmergencySupl : Word
  suplEs : Word
  suplMode : Word
  agpsConfigInject : Bool

/-- What the modem has been set to. -/
structure Modem where
  gpsLock : GnssConfigGpsLock
  suplVersion : GnssConfigSuplVersion
  suplServer : Url
  c2kServer : Option (Word × Word)
  lppConfig : GnssConfigLppProfile
  lppeProtocolCp : Mask
  lppeProtocolUp : Mask
  aGlonassProtocol : Mask

/-- The adapter and the modem. -/
structure Adapter where
  conf : GpsConf
  serverUrl : Url
  powerVoteId : Word
  modem : Modem

/-! ## Conversions -/

def convertGpsLock : GnssConfigGpsLock → Word
  | .mo => 1
  | .ni => 2
  | .moAndNi => 3
  | .none => 0

def convertSuplVersion : GnssConfigSuplVersion → Word
  | .v2_0_0 => 0x00020000
  | .v2_0_2 => 0x00020002
  | .v1_0_0 => 0x00010000

/-- The other `convertSuplVersion`. -/
def suplVersionOf (suplVersion : Word) : GnssConfigSuplVersion :=
  if suplVersion = 0x00020000 then .v2_0_0
  else if suplVersion = 0x00020002 then .v2_0_2
  else .v1_0_0

def convertLppProfile : GnssConfigLppProfile → Word
  | .userPlane => 1
  | .controlPlane => 2
  | .userPlaneAndControlPlane => 3
  | .rrlpOnLte => 0

/-- The other `convertLppProfile`. -/
def lppProfileOf (lppProfile : Word) : GnssConfigLppProfile :=
  if lppProfile = 1 then .userPlane
  else if lppProfile = 2 then .controlPlane
  else if lppProfile = 3 then .userPlaneAndControlPlane
  else .rrlpOnLte

/-- The bits of a mask by their numbers, each with that of the bit it sets. -/
def convertBits {w w' : ℕ} (bits : List (ℕ × ℕ)) (mask : BitVec w) : BitVec w' :=
  bits.foldl (fun out bit =>
    if mask.getLsbD bit.1 then out ||| BitVec.twoPow w' bit.2 else out) 0

def convertLppeCp : Mask → Word := convertBits [(0, 0), (1, 1), (2, 2), (3, 3)]

/-- The other `convertLppeCp`. -/
def lppeCpOf : Word → Mask := convertBits [(0, 0), (1, 1), (2, 2), (3, 3)]

def convertLppeUp : Mask → Word := convertBits [(0, 0), (1, 1), (2, 2), (3, 3)]

/-- The other `convertLppeUp`. -/
def lppeUpOf : Word → Mask := convertBits [(0, 0), (1, 1), (2, 2), (3, 3)]

def convertAGloProt : Mask → Word := convertBits [(0, 0), (1, 1), (2, 2), (3, 3)]

/-- `setAGLONASSProtocol` takes a mask and is given a word. -/
def aGloProtOf (aGlonassPosProtocolSelect : Word) : Mask :=
  aGlonassPosProtocolSelect.setWidth 16

def convertEP4ES (emergencyPdnForEmergencySupl : Bool) : Word :=
  if emergencyPdnForEmergencySupl then 1 else 0

def convertSuplEs (suplEmergencyServices : Bool) : Word :=
  if suplEmergencyServices then 1 else 0

def convertSuplMode : Mask → Word := convertBits [(0, 0), (1, 1)]

/-! ## `MsgGnssUpdateConfig` -/

/-- The adapter and the errors so far. -/
abbrev Proc := Adapter × List LocationError

/-- An item that is kept as a word and sent when that changes, some only if
`AGPS_CONFIG_INJECT` is set. -/
structure Item (V : Type) where
  validBit : ℕ
  value : GnssConfig → V
  convert : V → Word
  cached : GpsConf → Word
  cache : Word → GpsConf → GpsConf
  device : Modem → V
  send : V → Modem → Modem
  ifInject : Bool

namespace Item

variable {V : Type}

def proc (item : Item V) (config : GnssConfig) (p : Proc) : Proc :=
  if config.flags.getLsbD item.validBit then
    let new := item.convert (item.value config)
    let a := p.1
    (if new ≠ item.cached a.conf ∧
        (item.ifInject = true → a.conf.agpsConfigInject = true) then
      { a with
        conf := item.cache new a.conf
        modem := item.send (item.value config) a.modem }
    else a, p.2 ++ [.success])
  else p

end Item

def suplVersion : Item GnssConfigSuplVersion where
  validBit := 1
  value := (·.suplVersion)
  convert := convertSuplVersion
  cached := (·.suplVer)
  cache word conf := { conf with suplVer := word }
  device := (·.suplVersion)
  send version modem := { modem with suplVersion := version }
  ifInject := true

def lppProfile : Item GnssConfigLppProfile where
  validBit := 3
  value := (·.lppProfile)
  convert := convertLppProfile
  cached := (·.lppProfile)
  cache word conf := { conf with lppProfile := word }
  device := (·.lppConfig)
  send profile modem := { modem with lppConfig := profile }
  ifInject := true

def lppeControlPlane : Item Mask where
  validBit := 4
  value := (·.lppeControlPlaneMask)
  convert := convertLppeCp
  cached := (·.lppeCpTechnology)
  cache word conf := { conf with lppeCpTechnology := word }
  device := (·.lppeProtocolCp)
  send mask modem := { modem with lppeProtocolCp := mask }
  ifInject := false

def lppeUserPlane : Item Mask where
  validBit := 5
  value := (·.lppeUserPlaneMask)
  convert := convertLppeUp
  cached := (·.lppeUpTechnology)
  cache word conf := { conf with lppeUpTechnology := word }
  device := (·.lppeProtocolUp)
  send mask modem := { modem with lppeProtocolUp := mask }
  ifInject := false

def aGlonassPositionProtocol : Item Mask where
  validBit := 6
  value := (·.aGlonassPositionProtocolMask)
  convert := convertAGloProt
  cached := (·.aGlonassPosProtocolSelect)
  cache word conf := { conf with aGlonassPosProtocolSelect := word }
  device := (·.aGlonassProtocol)
  send mask modem := { modem with aGlonassProtocol := mask }
  ifInject := true

/-- The GPS lock is always sent, while no client has powered the engine. -/
def procGpsLock (config : GnssConfig) (p : Proc) : Proc :=
  if config.flags.getLsbD 0 then
    let a := p.1
    let conf := { a.conf with gpsLock := convertGpsLock config.gpsLock }
    (if a.powerVoteId = 0 then
      { a with conf := conf, modem := { a.modem with gpsLock := config.gpsLock } }
    else { a with conf := conf }, p.2 ++ [.success])
  else p

/-- `MAX_URL_LEN`. -/
def maxUrlLen : ℕ := 256

/-- `strncasecmp` finds no difference. -/
def sameCase (s t : Url) : Bool := s.map Char.toLower = t.map Char.toLower

/-- The host, if it is given and not `NONE`. -/
def suplHost (hostName : Option Url) : Option Url :=
  hostName.filter fun host => !sameCase "NONE".toList host

/-- The URL, as `snprintf` would have it with room enough. -/
def urlOf (host : Url) (port : Word) : Url :=
  host ++ ':' :: Nat.toDigits 10 port.toNat

/-- The assistance server. The URL kept is sent no second time. `resolve` is
`resolveInAddress`, for a host that is given. -/
def procAssistanceServer (resolve : Url → Option Word) (config : GnssConfig)
    (p : Proc) : Proc :=
  if config.flags.getLsbD 2 then
    let a := p.1
    let server := config.assistanceServer
    match server.type with
    | .supl =>
      if a.conf.agpsConfigInject then
        match suplHost server.hostName with
        | none => (a, p.2 ++ [.invalidParameter])
        | some host =>
          let serverUrl := (urlOf host server.port).take (maxUrlLen - 1)
          (if sameCase a.serverUrl serverUrl then a
          else
            { a with
              serverUrl := serverUrl
              modem := { a.modem with suplServer := serverUrl } },
            p.2 ++ [.success])
      else (a, p.2 ++ [.success])
    | .c2k =>
      if a.conf.agpsConfigInject then
        match server.hostName.bind resolve with
        | none => (a, p.2 ++ [.invalidParameter])
        | some ip =>
          ({ a with modem := { a.modem with c2kServer := some (ip, server.port) } },
            p.2 ++ [.success])
      else (a, p.2 ++ [.success])
    | .other => (a, p.2 ++ [.invalidParameter])
  else p

/-- An item that is kept and not sent. -/
def procKept (validBit : ℕ) (cache : GpsConf → GpsConf) (config : GnssConfig)
    (p : Proc) : Proc :=
  if config.flags.getLsbD validBit then
    ({ p.1 with conf := cache p.1.conf }, p.2 ++ [.success])
  else p

def procEmergencyPdn (config : GnssConfig) : Proc → Proc :=
  procKept 7 (fun conf =>
    { conf with
      useEmergencyPdnForEmergencySupl :=
        convertEP4ES config.emergencyPdnForEmergencySupl }) config

def procSuplEmServices (config : GnssConfig) : Proc → Proc :=
  procKept 8 (fun conf =>
    { conf with suplEs := convertSuplEs config.suplEmergencyServices }) config

def procSuplMode (config : GnssConfig) : Proc → Proc :=
  procKept 9 (fun conf =>
    { conf with suplMode := convertSuplMode config.suplModeMask }) config

/-- The items in the order they are looked at. -/
def blocks (resolve : Url → Option Word) (config : GnssConfig) :
    List (Proc → Proc) :=
  [procGpsLock config, suplVersion.proc config,
    procAssistanceServer resolve config, lppProfile.proc config,
    lppeControlPlane.proc config, lppeUserPlane.proc config,
    aGlonassPositionProtocol.proc config, procEmergencyPdn config,
    procSuplEmServices config, procSuplMode config]

namespace Adapter

/-- `MsgGnssUpdateConfig`, and the errors that are reported. -/
def updateConfig (resolve : Url → Option Word) (config : GnssConfig)
    (a : Adapter) : Proc :=
  (blocks resolve config).foldl (fun p block => block p) (a, [])

/-- `setConfigCommand`, as far as the modem's settings here. -/
def setConfig (a : Adapter) : Adapter :=
  let modem :=
    if a.conf.agpsConfigInject then
      { a.modem with
        suplVersion := suplVersionOf a.conf.suplVer
        lppConfig := lppProfileOf a.conf.lppProfile
        aGlonassProtocol := aGloProtOf a.conf.aGlonassPosProtocolSelect }
    else a.modem
  { a with
    modem :=
      { modem with
        lppeProtocolCp := lppeCpOf a.conf.lppeCpTechnology
        lppeProtocolUp := lppeUpOf a.conf.lppeUpTechnology } }

/-- The constructor, with `mGps_conf` read. -/
def new (conf : GpsConf) (modem : Modem) : Adapter :=
  setConfig { conf := conf, serverUrl := [], powerVoteId := 0, modem := modem }

/-- A client sets items, or the modem restarts with settings of its own and
`handleEngineUpEvent` follows. -/
inductive Op
  | updateConfig (resolve : Url → Option Word) (config : GnssConfig)
  | restart (modem : Modem)

def step (a : Adapter) : Op → Adapter
  | .updateConfig resolve config => (a.updateConfig resolve config).1
  | .restart modem => setConfig { a with modem := modem }

/-- The adapter after the messages. -/
def run (conf : GpsConf) (modem : Modem) (ops : List Op) : Adapter :=
  ops.foldl step (new conf modem)

end Adapter

end Axon7.ModemConfig

/-!
# What the modem answers

`gnssUpdateConfigCommand` with calls into the modem that may fail. The blocks of its message
share the variable `err`: a block that calls the modem sets it to what the call returns, most
others set it to success, and two may leave it as it is. What is kept of an item is written
before its call returns.

What the modem has been set to is not followed here, nor are the capabilities that a change of
the SUPL mode broadcasts.
-/

namespace Axon7.ModemConfig.Answered

open LocationApi (LocationError)

/-- The calls of `LocApiBase`, with what they are given. -/
inductive LocApiCall
  | setGpsLock (lock : GnssConfigGpsLock)
  | setSUPLVersion (version : GnssConfigSuplVersion)
  | setServer (url : Url)
  | setServerIp (ip port : Word)
  | setLPPConfig (profile : GnssConfigLppProfile)
  | setLPPeProtocolCp (mask : Mask)
  | setLPPeProtocolUp (mask : Mask)
  | setAGLONASSProtocol (mask : Mask)

/-- What a block does to `err`: it makes it the result of a call, sets it, or leaves it. -/
inductive Answer
  | call (made : LocApiCall)
  | set (err : LocationError)
  | leave

/-- A block of the message: the flag it is for, when two configurations have the same value for
it, and what it does. -/
structure Block where
  validBit : ℕ
  same : GnssConfig → GnssConfig → Prop
  act : GnssConfig → Adapter → Adapter × Answer

/-- The adapter, the variable `err`, the errors so far and the calls that were made. -/
structure Proc where
  adapter : Adapter
  err : LocationError := .success
  errs : List LocationError := []
  calls : List LocApiCall := []

/-- What `err` is after a block. -/
def Answer.after (api : LocApiCall → LocationError) (err : LocationError) :
    Answer → LocationError
  | .call made => api made
  | .set err => err
  | .leave => err

/-- The call of a block, if it makes one. -/
def Answer.made : Answer → Option LocApiCall
  | .call made => some made
  | _ => none

/-- The number of the flags, for which there is an error each. -/
def flagCount (config : GnssConfig) : ℕ := (List.range 32).countP config.flags.getLsbD

/-- A block is passed over without its flag. -/
def Block.proc (api : LocApiCall → LocationError) (config : GnssConfig) (p : Proc)
    (block : Block) : Proc :=
  if config.flags.getLsbD block.validBit then
    let acted := block.act config p.adapter
    let err := acted.2.after api p.err
    { adapter := acted.1
      err := err
      errs := if p.errs.length < flagCount config then p.errs ++ [err] else p.errs
      calls := p.calls ++ acted.2.made.toList }
  else p

/-! ## The blocks -/

def procGpsLock : Block where
  validBit := 0
  same config config' := config'.gpsLock = config.gpsLock
  act config a :=
    ({ a with conf := { a.conf with gpsLock := convertGpsLock config.gpsLock } },
      if a.powerVoteId = 0 then .call (.setGpsLock config.gpsLock) else .leave)

/-- An item that is kept as a word and sent when that changes. -/
def procItem {V : Type} (item : Item V) (send : V → LocApiCall) : Block where
  validBit := item.validBit
  same config config' := item.value config' = item.value config
  act config a :=
    let new := item.convert (item.value config)
    if new ≠ item.cached a.conf ∧
        (item.ifInject = true → a.conf.agpsConfigInject = true) then
      ({ a with conf := item.cache new a.conf }, .call (send (item.value config)))
    else (a, .set .success)

/-- The URL of a SUPL server, cut off where its buffer ends. -/
def serverUrlOf (host : Url) (port : Word) : Url := (urlOf host port).take (maxUrlLen - 1)

/-- The assistance server. With the URL that is kept, nothing is done and `err` is left. -/
def procAssistanceServer (resolve : Url → Option Word) : Block where
  validBit := 2
  same config config' := config'.assistanceServer = config.assistanceServer
  act config a :=
    let server := config.assistanceServer
    match server.type with
    | .supl =>
      if a.conf.agpsConfigInject then
        match suplHost server.hostName with
        | none => (a, .set .invalidParameter)
        | some host =>
          let serverUrl := serverUrlOf host server.port
          if sameCase a.serverUrl serverUrl then (a, .leave)
          else ({ a with serverUrl := serverUrl }, .call (.setServer serverUrl))
      else (a, .set .success)
    | .c2k =>
      if a.conf.agpsConfigInject then
        match server.hostName.bind resolve with
        | none => (a, .set .invalidParameter)
        | some ip => (a, .call (.setServerIp ip server.port))
      else (a, .set .success)
    | .other => (a, .set .invalidParameter)

/-- An item that is kept and not sent. -/
def procKept {V : Type} (validBit : ℕ) (value : GnssConfig → V)
    (cache : V → GpsConf → GpsConf) : Block where
  validBit := validBit
  same config config' := value config' = value config
  act config a := ({ a with conf := cache (value config) a.conf }, .set .success)

def procEmergencyPdn : Block :=
  procKept 7 (·.emergencyPdnForEmergencySupl) fun value conf =>
    { conf with useEmergencyPdnForEmergencySupl := convertEP4ES value }

def procSuplEmServices : Block :=
  procKept 8 (·.suplEmergencyServices) fun value conf =>
    { conf with suplEs := convertSuplEs value }

def procSuplMode : Block :=
  procKept 9 (·.suplModeMask) fun value conf => { conf with suplMode := convertSuplMode value }

/-- The blocks in the order of their flags. -/
def blocks (resolve : Url → Option Word) : List Block :=
  [procGpsLock, procItem suplVersion .setSUPLVersion, procAssistanceServer resolve,
    procItem lppProfile .setLPPConfig, procItem lppeControlPlane .setLPPeProtocolCp,
    procItem lppeUserPlane .setLPPeProtocolUp,
    procItem aGlonassPositionProtocol .setAGLONASSProtocol, procEmergencyPdn,
    procSuplEmServices, procSuplMode]

/-- `gnssUpdateConfigCommand` and its message. Without a flag no message is sent. -/
def updateConfig (resolve : Url → Option Word) (api : LocApiCall → LocationError)
    (config : GnssConfig) (a : Adapter) : Proc :=
  if flagCount config = 0 then { adapter := a }
  else (blocks resolve).foldl (Block.proc api config) { adapter := a }

/-! ## One block and another -/

/-- What the block answers does not depend on whether the other has acted. -/
def Block.Ignores (block other : Block) : Prop :=
  ∀ config config' a, (block.act config (other.act config' a).1).2 = (block.act config a).2

section

variable {resolve : Url → Option Word} {block : Block}

/-- What an item answers, from what is kept of it. -/
def itemAnswer {V : Type} (item : Item V) (send : V → LocApiCall) (config : GnssConfig)
    (cached : Word) (inject : Bool) : Answer :=
  if item.convert (item.value config) ≠ cached ∧ (item.ifInject = true → inject = true) then
    .call (send (item.value config))
  else .set .success

theorem procItem_answer {V : Type} (item : Item V) (send : V → LocApiCall) (config : GnssConfig)
    (a : Adapter) : ((procItem item send).act config a).2 =
      itemAnswer item send config (item.cached a.conf) a.conf.agpsConfigInject := by
  simp only [procItem, itemAnswer]
  split <;> rfl

/-- What the assistance server answers, from the URL that is kept. -/
def serverAnswer (resolve : Url → Option Word) (server : GnssConfigSetAssistanceServer)
    (kept : Url) (inject : Bool) : Answer :=
  if server.type = .other then .set .invalidParameter
  else if inject = false then .set .success
  else if server.type = .supl then
    match suplHost server.hostName with
    | none => .set .invalidParameter
    | some host =>
      if sameCase kept (serverUrlOf host server.port) then .leave
      else .call (.setServer (serverUrlOf host server.port))
  else
    match server.hostName.bind resolve with
    | none => .set .invalidParameter
    | some ip => .call (.setServerIp ip server.port)

theorem procAssistanceServer_answer (config : GnssConfig) (a : Adapter) :
    ((procAssistanceServer resolve).act config a).2 =
      serverAnswer resolve config.assistanceServer a.serverUrl a.conf.agpsConfigInject := by
  simp only [procAssistanceServer, serverAnswer]
  rcases config.assistanceServer.type with _ | _ | _
  · cases a.conf.agpsConfigInject
    · rfl
    · cases suplHost config.assistanceServer.hostName with
      | none => rfl
      | some host =>
        simp only [reduceCtorEq, if_true, if_false, Bool.true_eq_false]
        split <;> rfl
  · cases a.conf.agpsConfigInject
    · rfl
    · cases config.assistanceServer.hostName.bind resolve <;> rfl
  · rfl

theorem ignores_gpsLock (h : ∀ config a word,
    (block.act config { a with conf := { a.conf with gpsLock := word } }).2 =
      (block.act config a).2) : block.Ignores procGpsLock :=
  fun config _ a => h config a _

theorem ignores_item {V : Type} {item : Item V} {send : V → LocApiCall} (h : ∀ config a word,
    (block.act config { a with conf := item.cache word a.conf }).2 = (block.act config a).2) :
    block.Ignores (procItem item send) := by
  intro config config' a
  simp only [procItem]
  split
  · exact h config a _
  · rfl

theorem ignores_assistanceServer (h : ∀ config a url,
    (block.act config { a with serverUrl := url }).2 = (block.act config a).2) :
    block.Ignores (procAssistanceServer resolve) := by
  intro config config' a
  simp only [procAssistanceServer]
  split
  · split
    · split
      · rfl
      · split
        · rfl
        · exact h config a _
    · rfl
  · split
    · split <;> rfl
    · rfl
  · rfl

theorem ignores_kept {V : Type} {validBit : ℕ} {value : GnssConfig → V}
    {cache : V → GpsConf → GpsConf} (h : ∀ config a v,
    (block.act config { a with conf := cache v a.conf }).2 = (block.act config a).2) :
    block.Ignores (procKept validBit value cache) :=
  fun config _ a => h config a _

theorem blocks_ignore {other : Block} (hblock : block ∈ blocks resolve)
    (hother : other ∈ blocks resolve) (hne : block.validBit ≠ other.validBit) :
    block.Ignores other := by
  simp only [blocks, List.mem_cons, List.not_mem_nil, or_false] at hblock hother
  -- what the other writes comes first, and then who might read it
  rcases hother with rfl | rfl | rfl | rfl | rfl | rfl | rfl | rfl | rfl | rfl <;> first
    | refine ignores_gpsLock fun config a _ => ?_
    | refine ignores_item fun config a _ => ?_
    | refine ignores_assistanceServer fun config a _ => ?_
    | refine ignores_kept fun config a _ => ?_
  all_goals
    rcases hblock with rfl | rfl | rfl | rfl | rfl | rfl | rfl | rfl | rfl | rfl <;> first
      | exact absurd rfl hne
      | rfl
      | exact (procItem_answer _ _ config _).trans (procItem_answer _ _ config a).symm
      | exact (procAssistanceServer_answer config _).trans
          (procAssistanceServer_answer config a).symm

theorem validBits (resolve : Url → Option Word) :
    (blocks resolve).map (·.validBit) = List.range 10 := rfl

end

end Axon7.ModemConfig.Answered
