import Axon7.ModemConfig.Items

/-!
# The modem has what was accepted last

The GPS lock and the SUPL server are not sent again when the engine comes up,
and the server that is kept is not sent by a client's repeating it either. The
other items come back, the masks with their defined bits.
-/

namespace Axon7.ModemConfig

open Lib

variable {conf : GpsConf} {modem : Modem} {ops : List Adapter.Op}

/-- The lock a message sets. -/
def gpsLockOf (config : GnssConfig) : Option GnssConfigGpsLock :=
  if config.flags.getLsbD 0 then some config.gpsLock else none

/-- The URL of the SUPL server it sets. A host that is not there, or `NONE`, is
refused. -/
def suplUrlOf (config : GnssConfig) : Option Url :=
  if config.flags.getLsbD 2 ∧ config.assistanceServer.type = .supl then
    (suplHost config.assistanceServer.hostName).map fun host =>
      urlOf host config.assistanceServer.port
  else none

/-- The modem has the items accepted last. -/
structure Kept (conf : GpsConf) (modem : Modem) (ops : List Adapter.Op) :
    Prop where
  gpsLock : ∀ lock, lastAccepted gpsLockOf ops = some lock →
    (Adapter.run conf modem ops).modem.gpsLock = lock
  suplServer : ∀ url, lastAccepted suplUrlOf ops = some url →
    (Adapter.run conf modem ops).modem.suplServer = url
  suplVersion : ∀ version, lastAccepted suplVersion.accepted ops = some version →
    (Adapter.run conf modem ops).modem.suplVersion = version
  lppConfig : ∀ profile, lastAccepted lppProfile.accepted ops = some profile →
    (Adapter.run conf modem ops).modem.lppConfig = profile
  lppeProtocolCp : ∀ mask,
    lastAccepted lppeControlPlane.accepted ops = some mask →
      (Adapter.run conf modem ops).modem.lppeProtocolCp = mask
  lppeProtocolUp : ∀ mask,
    lastAccepted lppeUserPlane.accepted ops = some mask →
      (Adapter.run conf modem ops).modem.lppeProtocolUp = mask
  aGlonassProtocol : ∀ mask,
    lastAccepted aGlonassPositionProtocol.accepted ops = some mask →
      (Adapter.run conf modem ops).modem.aGlonassProtocol = mask

/-! ## The lock -/

theorem powerVoteId_run (conf : GpsConf) (modem : Modem) (ops : List Adapter.Op) :
    (Adapter.run conf modem ops).powerVoteId = 0 := by
  induction ops using List.reverseRecOn with
  | nil => rfl
  | append_singleton ops op ih =>
    rw [run_concat]
    cases op with
    | updateConfig resolve config =>
      have hleaves : ∀ b ∈ blocks resolve config,
          Leaves Adapter.powerVoteId b := by
        simp only [blocks, List.forall_mem_cons]
        exact ⟨procGpsLock_leaves fun _ _ _ => rfl,
          suplVersion.leaves fun _ _ _ => rfl,
          procAssistanceServer_leaves (fun _ _ _ _ => rfl) resolve,
          lppProfile.leaves fun _ _ _ => rfl,
          lppeControlPlane.leaves fun _ _ _ => rfl,
          lppeUserPlane.leaves fun _ _ _ => rfl,
          aGlonassPositionProtocol.leaves fun _ _ _ => rfl,
          procKept_leaves fun _ => rfl, procKept_leaves fun _ => rfl,
          procKept_leaves fun _ => rfl, List.forall_mem_nil _⟩
      exact (Leaves.foldl hleaves _).trans ih
    | restart modem' => exact ih

theorem gpsLock_update (resolve : Url → Option Word) (config : GnssConfig) :
    (Adapter.run conf modem
      (ops ++ [.updateConfig resolve config])).modem.gpsLock =
        (gpsLockOf config).getD (Adapter.run conf modem ops).modem.gpsLock := by
  obtain ⟨p, hrun, hp⟩ := @updateConfig_at _
    (fun a : Adapter => (a.modem.gpsLock, a.powerVoteId)) config resolve 0 _ rfl
    (by
      simp only [blocks, List.eraseIdx, List.forall_mem_cons]
      exact ⟨suplVersion.leaves fun _ _ _ => rfl,
        procAssistanceServer_leaves (fun _ _ _ _ => rfl) resolve,
        lppProfile.leaves fun _ _ _ => rfl, lppeControlPlane.leaves fun _ _ _ => rfl,
        lppeUserPlane.leaves fun _ _ _ => rfl,
        aGlonassPositionProtocol.leaves fun _ _ _ => rfl,
        procKept_leaves fun _ => rfl, procKept_leaves fun _ => rfl,
        procKept_leaves fun _ => rfl, List.forall_mem_nil _⟩)
    (Adapter.run conf modem ops)
  have hvote : p.1.powerVoteId = 0 :=
    (congrArg (·.2) hp).trans (powerVoteId_run conf modem ops)
  rw [run_concat]
  refine (congrArg (·.1) hrun).trans ?_
  rw [gpsLockOf, procGpsLock]
  split
  · dsimp only
    rw [if_pos hvote, Option.getD_some]
  · exact congrArg (·.1) hp

/-! ## The SUPL server -/

/-- What is kept of the server, and what the modem has. -/
def servers (conf : GpsConf) (modem : Modem) (ops : List Adapter.Op) : Url × Url :=
  ((Adapter.run conf modem ops).serverUrl,
    (Adapter.run conf modem ops).modem.suplServer)

/-- A URL fits into the buffer. -/
def trim (url : Url) : Url := url.take (maxUrlLen - 1)

theorem servers_update (hinject : conf.agpsConfigInject = true)
    (resolve : Url → Option Word) (config : GnssConfig) :
    servers conf modem (ops ++ [.updateConfig resolve config]) =
      match suplUrlOf config with
      | none => servers conf modem ops
      | some url =>
        if sameCase (servers conf modem ops).1 (trim url) then
          servers conf modem ops
        else (trim url, trim url) := by
  obtain ⟨p, hrun, hp⟩ := @updateConfig_at _
    (fun a : Adapter => (a.serverUrl, a.modem.suplServer,
      a.conf.agpsConfigInject)) config resolve 2 _ rfl
    (by
      simp only [blocks, List.eraseIdx, List.forall_mem_cons]
      exact ⟨procGpsLock_leaves fun _ _ _ => rfl,
        suplVersion.leaves fun _ _ _ => rfl, lppProfile.leaves fun _ _ _ => rfl,
        lppeControlPlane.leaves fun _ _ _ => rfl,
        lppeUserPlane.leaves fun _ _ _ => rfl,
        aGlonassPositionProtocol.leaves fun _ _ _ => rfl,
        procKept_leaves fun _ => rfl, procKept_leaves fun _ => rfl,
        procKept_leaves fun _ => rfl, List.forall_mem_nil _⟩)
    (Adapter.run conf modem ops)
  have hpInject : p.1.conf.agpsConfigInject = true :=
    (congrArg (·.2.2) hp).trans (suplVersion_resent.inject hinject modem ops)
  have hold : (p.1.serverUrl, p.1.modem.suplServer) = servers conf modem ops :=
    congrArg (fun view => (view.1, view.2.1)) hp
  have hnew : servers conf modem (ops ++ [.updateConfig resolve config]) =
      ((procAssistanceServer resolve config p).1.serverUrl,
        (procAssistanceServer resolve config p).1.modem.suplServer) := by
    rw [servers, run_concat]
    exact congrArg (fun view => (view.1, view.2.1)) hrun
  rw [hnew, ← hold, suplUrlOf, procAssistanceServer]
  by_cases hflag : config.flags.getLsbD 2 = true
  · rw [if_pos hflag]
    dsimp only
    cases htype : config.assistanceServer.type with
    | supl =>
      dsimp only
      rw [if_pos hpInject, if_pos ⟨hflag, rfl⟩]
      cases suplHost config.assistanceServer.hostName with
      | none => rfl
      | some host =>
        show _ = if sameCase p.1.serverUrl
          (trim (urlOf host config.assistanceServer.port)) then _ else _
        dsimp only
        rw [trim]
        split <;> rfl
    | c2k =>
      dsimp only
      rw [if_pos hpInject, if_neg fun hand => absurd hand.2 (by rintro ⟨⟩)]
      split <;> rfl
    | other =>
      dsimp only
      rw [if_neg fun hand => absurd hand.2 (by rintro ⟨⟩)]
  · rw [if_neg hflag, if_neg fun hand => hflag hand.1]

theorem suplUrlOf_ne_nil {config : GnssConfig} {url : Url}
    (h : suplUrlOf config = some url) : trim url ≠ [] := by
  rw [suplUrlOf] at h
  split at h
  · obtain ⟨host, -, rfl⟩ := Option.map_eq_some_iff.mp h
    simp [trim, urlOf, maxUrlLen]
  · exact absurd h nofun

theorem servers_of_lastAccepted (hinject : conf.agpsConfigInject = true)
    (modem : Modem) (h : lastAccepted suplUrlOf ops = none) :
    (servers conf modem ops).1 = [] := by
  induction ops using List.reverseRecOn with
  | nil => rfl
  | append_singleton ops op ih =>
    cases op with
    | updateConfig resolve config =>
      rw [lastAccepted_update, Option.or_eq_none_iff] at h
      rw [servers_update hinject, h.1]
      exact ih h.2
    | restart modem' =>
      rw [lastAccepted_restart] at h
      rw [servers, run_concat]
      exact ih h

/-! ## Runs -/

/-- The URL is sent and fits, or is the one accepted last. -/
def FitsUrl (conf : GpsConf) (modem : Modem) (ops : List Adapter.Op) (url : Url) :
    Prop :=
  if sameCase (servers conf modem ops).1 (trim url) then
    lastAccepted suplUrlOf ops = some url
  else url.length ≤ maxUrlLen - 1

/-- A mask kept as the one before is that one, or what the configuration read
gave if there is none. -/
def FitsMask (item : Item Mask) (decode : Word → Mask) (conf : GpsConf)
    (modem : Modem) (ops : List Adapter.Op) (mask : Mask) : Prop :=
  item.convert mask = item.cached (Adapter.run conf modem ops).conf →
    mask = (lastAccepted item.accepted ops).getD
      (decode (item.cached (Adapter.run conf modem ops).conf))

/-- A message sets what can be told from the items before; at a restart no lock
and no server is in force but what the modem starts with, and no mask with bits
that are not defined. -/
def Fits (conf : GpsConf) (modem : Modem) (ops : List Adapter.Op) :
    Adapter.Op → Prop
  | .updateConfig _ config =>
    (∀ url, suplUrlOf config = some url → FitsUrl conf modem ops url) ∧
    (∀ mask, lppeControlPlane.accepted config = some mask →
      FitsMask lppeControlPlane lppeCpOf conf modem ops mask) ∧
    (∀ mask, lppeUserPlane.accepted config = some mask →
      FitsMask lppeUserPlane lppeUpOf conf modem ops mask) ∧
    ∀ mask, aGlonassPositionProtocol.accepted config = some mask →
      FitsMask aGlonassPositionProtocol aGloProtOf conf modem ops mask
  | .restart modem' =>
    (∀ lock, lastAccepted gpsLockOf ops = some lock → modem'.gpsLock = lock) ∧
    (∀ url, lastAccepted suplUrlOf ops = some url → modem'.suplServer = url) ∧
    (∀ mask, lastAccepted lppeControlPlane.accepted ops = some mask →
      mask &&& definedBits = mask) ∧
    (∀ mask, lastAccepted lppeUserPlane.accepted ops = some mask →
      mask &&& definedBits = mask) ∧
    ∀ mask, lastAccepted aGlonassPositionProtocol.accepted ops = some mask →
      mask &&& definedBits = mask

theorem gpsLock_kept_update (resolve : Url → Option Word) (config : GnssConfig)
    (h : ∀ lock, lastAccepted gpsLockOf ops = some lock →
      (Adapter.run conf modem ops).modem.gpsLock = lock) :
    ∀ lock, lastAccepted gpsLockOf (ops ++ [.updateConfig resolve config]) =
        some lock →
      (Adapter.run conf modem
        (ops ++ [.updateConfig resolve config])).modem.gpsLock = lock := by
  intro lock hlock
  rw [lastAccepted_update] at hlock
  rw [gpsLock_update]
  cases hset : gpsLockOf config with
  | none =>
    rw [hset, Option.none_or] at hlock
    exact h lock hlock
  | some lock' =>
    rw [hset, Option.some_or] at hlock
    exact Option.some.inj hlock

theorem suplServer_kept_update_iff (hinject : conf.agpsConfigInject = true)
    (resolve : Url → Option Word) (config : GnssConfig)
    (h : ∀ url, lastAccepted suplUrlOf ops = some url →
      (servers conf modem ops).2 = url) :
    (∀ url, lastAccepted suplUrlOf (ops ++ [.updateConfig resolve config]) =
        some url →
      (servers conf modem (ops ++ [.updateConfig resolve config])).2 = url) ↔
    ∀ url, suplUrlOf config = some url → FitsUrl conf modem ops url := by
  rw [lastAccepted_update, servers_update hinject]
  cases hset : suplUrlOf config with
  | none =>
    rw [Option.none_or]
    exact ⟨fun _ => nofun, fun _ => h⟩
  | some url =>
    simp only [Option.some_or, Option.some.injEq, forall_eq']
    rw [FitsUrl]
    split
    · next hsame =>
        cases hlast : lastAccepted suplUrlOf ops with
        | none =>
          -- nothing is kept, and no URL is like nothing
          rw [servers_of_lastAccepted hinject modem hlast] at hsame
          have hnil : trim url = [] := by simpa [sameCase] using hsame
          exact absurd hnil (suplUrlOf_ne_nil hset)
        | some url' => rw [h url' hlast, Option.some.injEq]
    · show trim url = url ↔ _
      rw [trim, List.take_eq_self_iff]

theorem kept_of_lossless {V : Type} {item : Item V} {decode : Word → V}
    (hitem : item.Resent decode) (hinject : conf.agpsConfigInject = true)
    (hdecode : ∀ v, decode (item.convert v) = v)
    (h : (item.setting conf modem ops).Kept) (op : Adapter.Op) :
    (item.setting conf modem (ops ++ [op])).Kept := by
  have hsound := hitem.sound hinject modem ops
  cases op with
  | updateConfig resolve config =>
    rw [hitem.setting_update hinject]
    split
    · exact h
    · next v _ => exact (hsound.kept_of_lossless h hdecode v).1
  | restart modem' =>
    rw [hitem.setting_restart hinject]
    exact hsound.reset_kept_iff.mpr fun v _ => hdecode v

theorem mask_kept_update_iff {item : Item Mask} {decode : Word → Mask}
    (hitem : item.Resent decode) (hinject : conf.agpsConfigInject = true)
    (resolve : Url → Option Word) (config : GnssConfig)
    (h : (item.setting conf modem ops).Kept) :
    (item.setting conf modem (ops ++ [.updateConfig resolve config])).Kept ↔
      ∀ mask, item.accepted config = some mask →
        FitsMask item decode conf modem ops mask := by
  rw [hitem.setting_update hinject]
  cases haccepted : item.accepted config with
  | none => exact ⟨fun _ => nofun, fun _ => h⟩
  | some mask =>
    simp only [Option.some.injEq, forall_eq']
    exact (hitem.sound hinject modem ops).update_kept_iff h mask

theorem mask_kept_restart_iff {item : Item Mask} {decode : Word → Mask}
    (hitem : item.Resent decode) (hinject : conf.agpsConfigInject = true)
    (hdecode : ∀ mask, decode (item.convert mask) = mask &&& definedBits)
    (modem' : Modem) :
    (item.setting conf modem (ops ++ [.restart modem'])).Kept ↔
      ∀ mask, lastAccepted item.accepted ops = some mask →
        mask &&& definedBits = mask := by
  rw [hitem.setting_restart hinject, (hitem.sound hinject modem ops).reset_kept_iff]
  exact forall_congr' fun mask => imp_congr_right fun _ => by
    rw [← hdecode mask]
    rfl

theorem setConfig_gpsLock (a : Adapter) :
    a.setConfig.modem.gpsLock = a.modem.gpsLock := by
  rw [Adapter.setConfig]
  dsimp only
  split <;> rfl

theorem setConfig_suplServer (a : Adapter) :
    a.setConfig.modem.suplServer = a.modem.suplServer := by
  rw [Adapter.setConfig]
  dsimp only
  split <;> rfl

theorem kept_concat_iff (hinject : conf.agpsConfigInject = true)
    (h : Kept conf modem ops) (op : Adapter.Op) :
    Kept conf modem (ops ++ [op]) ↔ Fits conf modem ops op := by
  have hversion := kept_of_lossless suplVersion_resent hinject
    suplVersionOf_convertSuplVersion h.suplVersion op
  have hprofile := kept_of_lossless lppProfile_resent hinject
    lppProfileOf_convertLppProfile h.lppConfig op
  cases op with
  | updateConfig resolve config =>
    have hserver := suplServer_kept_update_iff hinject resolve config h.suplServer
    have hcp := mask_kept_update_iff lppeControlPlane_resent hinject resolve
      config h.lppeProtocolCp
    have hup := mask_kept_update_iff lppeUserPlane_resent hinject resolve config
      h.lppeProtocolUp
    have haglo := mask_kept_update_iff aGlonassPositionProtocol_resent hinject
      resolve config h.aGlonassProtocol
    constructor
    · intro hkept
      exact ⟨hserver.mp hkept.suplServer, hcp.mp hkept.lppeProtocolCp,
        hup.mp hkept.lppeProtocolUp, haglo.mp hkept.aGlonassProtocol⟩
    · rintro ⟨hfitsUrl, hfitsCp, hfitsUp, hfitsAglo⟩
      exact ⟨gpsLock_kept_update resolve config h.gpsLock,
        hserver.mpr hfitsUrl, hversion, hprofile, hcp.mpr hfitsCp,
        hup.mpr hfitsUp, haglo.mpr hfitsAglo⟩
  | restart modem' =>
    have hrun := run_concat conf modem ops (.restart modem')
    have hlock : (Adapter.run conf modem
        (ops ++ [.restart modem'])).modem.gpsLock = modem'.gpsLock := by
      rw [hrun]
      exact setConfig_gpsLock _
    have hserver : (Adapter.run conf modem
        (ops ++ [.restart modem'])).modem.suplServer = modem'.suplServer := by
      rw [hrun]
      exact setConfig_suplServer _
    constructor
    · intro hkept
      refine ⟨fun lock hlast => ?_, fun url hlast => ?_,
        (mask_kept_restart_iff lppeControlPlane_resent hinject
          lppeCpOf_convertLppeCp modem').mp hkept.lppeProtocolCp,
        (mask_kept_restart_iff lppeUserPlane_resent hinject
          lppeUpOf_convertLppeUp modem').mp hkept.lppeProtocolUp,
        (mask_kept_restart_iff aGlonassPositionProtocol_resent hinject
          aGloProtOf_convertAGloProt modem').mp hkept.aGlonassProtocol⟩
      · rw [← hlock]
        exact hkept.gpsLock lock (by rwa [lastAccepted_restart])
      · rw [← hserver]
        exact hkept.suplServer url (by rwa [lastAccepted_restart])
    · rintro ⟨hfitsLock, hfitsUrl, hfitsCp, hfitsUp, hfitsAglo⟩
      refine ⟨fun lock hlast => ?_, fun url hlast => ?_, hversion, hprofile,
        (mask_kept_restart_iff lppeControlPlane_resent hinject
          lppeCpOf_convertLppeCp modem').mpr hfitsCp,
        (mask_kept_restart_iff lppeUserPlane_resent hinject
          lppeUpOf_convertLppeUp modem').mpr hfitsUp,
        (mask_kept_restart_iff aGlonassPositionProtocol_resent hinject
          aGloProtOf_convertAGloProt modem').mpr hfitsAglo⟩
      · rw [lastAccepted_restart] at hlast
        rw [hlock]
        exact hfitsLock lock hlast
      · rw [lastAccepted_restart] at hlast
        rw [hserver]
        exact hfitsUrl url hlast

/-- The modem has what was accepted last all along a run, iff each message and
each restart fits what went before. -/
theorem run_kept_iff (conf : GpsConf) (hinject : conf.agpsConfigInject = true)
    (modem : Modem) (ops : List Adapter.Op) :
    (∀ pre, pre <+: ops → Kept conf modem pre) ↔
      ∀ pre op, pre ++ [op] <+: ops → Fits conf modem pre op :=
  forall_prefix_iff ⟨nofun, nofun, nofun, nofun, nofun, nofun, nofun⟩
    fun _ op _ h => kept_concat_iff hinject h op

/-! ## A crash -/

/-- The configuration as it is when nothing is read. -/
def defaultConf : GpsConf where
  gpsLock := 0
  suplVer := 0x10000
  lppProfile := 0
  lppeCpTechnology := 0
  lppeUpTechnology := 0
  aGlonassPosProtocolSelect := 0
  useEmergencyPdnForEmergencySupl := 1
  suplEs := 0
  suplMode := 1
  agpsConfigInject := true

/-- A modem with nothing set. -/
def blankModem : Modem where
  gpsLock := .none
  suplVersion := .v1_0_0
  suplServer := []
  c2kServer := none
  lppConfig := .rrlpOnLte
  lppeProtocolCp := 0
  lppeProtocolUp := 0
  aGlonassProtocol := 0

/-- A message with all seven items. -/
def allItems : GnssConfig where
  flags := 0x7f
  gpsLock := .moAndNi
  suplVersion := .v2_0_0
  assistanceServer := ⟨.supl, some "supl.host".toList, 7275⟩
  lppProfile := .userPlane
  lppeControlPlaneMask := 1
  lppeUserPlaneMask := 2
  aGlonassPositionProtocolMask := 4
  emergencyPdnForEmergencySupl := false
  suplEmergencyServices := false
  suplModeMask := 0

theorem lockedThenCrash_not_fits :
    let calls : List Adapter.Op :=
      [.updateConfig (fun _ => none) allItems, .restart blankModem]
    ¬ ∀ pre op, pre ++ [op] <+: calls → Fits defaultConf blankModem pre op := by
  intro calls hfits
  have hkept := (run_kept_iff defaultConf rfl blankModem calls).mpr hfits calls
    List.prefix_rfl
  exact absurd (hkept.gpsLock .moAndNi (by decide)) (by decide)

/-- A lock and a server are set, the modem restarts without them, and the same is
set again: the server stays missing, as the lock did until then. -/
theorem crash_loses :
    let set : Adapter.Op := .updateConfig (fun _ => none) allItems
    ¬ Kept defaultConf blankModem [set, .restart blankModem] ∧
      ¬ Kept defaultConf blankModem [set, .restart blankModem, set] := by
  refine ⟨fun h => ?_, fun h => ?_⟩
  · exact absurd (h.gpsLock .moAndNi (by decide)) (by decide)
  · exact absurd (h.suplServer "supl.host:7275".toList (by decide)) (by decide)

end Axon7.ModemConfig
