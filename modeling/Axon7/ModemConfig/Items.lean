import Axon7.ModemConfig.Adapter
import Axon7.Lib.Run
import Axon7.Lib.Setting

/-!
# The items that are kept and sent again

Five items are kept in `mGps_conf`, sent when they change, and sent again when
the engine comes up. Each is a setting kept on two sides, whatever the other
items of a message are. The versions and profiles are encoded without loss, the
masks up to their defined bits.
-/

namespace Axon7.ModemConfig

open Lib

variable {V : Type} {item : Item V} {conf : GpsConf} {modem : Modem}
  {ops : List Adapter.Op}

/-! ## What is lost -/

theorem getLsbD_convertBits {w w' : ℕ} (bits : List (ℕ × ℕ)) (mask : BitVec w)
    (i : ℕ) : (convertBits bits mask : BitVec w').getLsbD i =
      (decide (i < w') && bits.any fun bit => mask.getLsbD bit.1 && bit.2 == i) := by
  have hfold : ∀ out : BitVec w', (bits.foldl (fun out bit =>
      if mask.getLsbD bit.1 then out ||| BitVec.twoPow w' bit.2 else out)
        out).getLsbD i = (out.getLsbD i || decide (i < w') &&
          bits.any fun bit => mask.getLsbD bit.1 && bit.2 == i) := by
    induction bits with
    | nil => simp
    | cons bit bits ih =>
      intro out
      rw [List.foldl_cons, ih, List.any_cons]
      cases hbit : mask.getLsbD bit.1 with
      | true =>
        rw [if_pos rfl, BitVec.getLsbD_or, BitVec.getLsbD_twoPow]
        by_cases hi : i < w'
        · grind
        · have hout := BitVec.getLsbD_of_ge out i (by omega)
          simp only [hi, hout, decide_false, Bool.false_and, Bool.or_false]
          grind
      | false => simp
  rw [convertBits, hfold]
  simp

/-- The bits of a mask that `LocationAPI.h` defines. -/
def definedBits : Mask := (BitVec.allOnes 4).setWidth 16

theorem getLsbD_definedBits (i : ℕ) :
    definedBits.getLsbD i = decide (i < 4) := by
  rw [definedBits, BitVec.getLsbD_setWidth, BitVec.getLsbD_allOnes]
  by_cases hi : i < 4
  · have hi' : i < 16 := by omega
    simp [hi, hi']
  · simp [hi]

theorem getLsbD_convertBits_four {w w' : ℕ} (mask : BitVec w) (i : ℕ) :
    (convertBits [(0, 0), (1, 1), (2, 2), (3, 3)] mask : BitVec w').getLsbD i =
      (decide (i < w') && (mask.getLsbD i && decide (i < 4))) := by
  rw [getLsbD_convertBits]
  congr 1
  simp only [List.any_cons, List.any_nil, Bool.or_false]
  match i with
  | 0 | 1 | 2 | 3 => simp
  | i + 4 => simp

theorem lppeCpOf_convertLppeCp (mask : Mask) :
    lppeCpOf (convertLppeCp mask) = mask &&& definedBits := by
  apply BitVec.eq_of_getLsbD_eq
  intro i hi
  rw [lppeCpOf, convertLppeCp, getLsbD_convertBits_four, getLsbD_convertBits_four,
    BitVec.getLsbD_and, getLsbD_definedBits]
  have hi' : i < 32 := by omega
  simp [hi, hi']

theorem lppeUpOf_convertLppeUp (mask : Mask) :
    lppeUpOf (convertLppeUp mask) = mask &&& definedBits :=
  lppeCpOf_convertLppeCp mask

theorem aGloProtOf_convertAGloProt (mask : Mask) :
    aGloProtOf (convertAGloProt mask) = mask &&& definedBits := by
  apply BitVec.eq_of_getLsbD_eq
  intro i hi
  rw [aGloProtOf, convertAGloProt, BitVec.getLsbD_setWidth,
    getLsbD_convertBits_four, BitVec.getLsbD_and, getLsbD_definedBits]
  have hi' : i < 32 := by omega
  simp [hi, hi']

theorem suplVersionOf_convertSuplVersion (version : GnssConfigSuplVersion) :
    suplVersionOf (convertSuplVersion version) = version := by
  cases version <;> decide

theorem lppProfileOf_convertLppProfile (profile : GnssConfigLppProfile) :
    lppProfileOf (convertLppProfile profile) = profile := by
  cases profile <;> decide

/-! ## A message changes an item in one block -/

/-- The block changes nothing that `f` looks at. -/
def Leaves {β : Type} (f : Adapter → β) (block : Proc → Proc) : Prop :=
  ∀ p, f (block p).1 = f p.1

variable {β : Type} {f : Adapter → β} {config : GnssConfig}

theorem Leaves.foldl {bs : List (Proc → Proc)} (h : ∀ b ∈ bs, Leaves f b) :
    Leaves f fun p => bs.foldl (fun p block => block p) p := by
  induction bs with
  | nil => exact fun _ => rfl
  | cons b bs ih =>
    intro p
    exact (ih (fun b hb => h b (List.mem_cons_of_mem _ hb)) (b p)).trans
      (h b List.mem_cons_self p)

theorem Item.leaves {W : Type} (other : Item W) (h : ∀ a word w,
    f { a with
      conf := other.cache word a.conf
      modem := other.send w a.modem } = f a) :
    Leaves f (other.proc config) := by
  intro p
  rw [Item.proc]
  split
  · dsimp only
    split
    · exact h p.1 _ _
    · rfl
  · rfl

theorem procGpsLock_leaves (h : ∀ a word lock,
    f { a with
      conf := { a.conf with gpsLock := word }
      modem := { a.modem with gpsLock := lock } } = f a) :
    Leaves f (procGpsLock config) := by
  intro p
  rw [procGpsLock]
  split
  · dsimp only
    split
    · exact h p.1 _ _
    · exact h p.1 _ p.1.modem.gpsLock
  · rfl

theorem procAssistanceServer_leaves (h : ∀ a url url' server,
    f { a with
      serverUrl := url
      modem :=
        { a.modem with
          suplServer := url'
          c2kServer := server } } = f a) (resolve : Url → Option Word) :
    Leaves f (procAssistanceServer resolve config) := by
  intro p
  rw [procAssistanceServer]
  split
  · dsimp only
    split
    · split
      · split
        · rfl
        · dsimp only
          split
          · rfl
          · exact h p.1 _ _ p.1.modem.c2kServer
      · rfl
    · split
      · split
        · rfl
        · exact h p.1 p.1.serverUrl p.1.modem.suplServer _
      · rfl
    · rfl
  · rfl

theorem procKept_leaves {validBit : ℕ} {cache : GpsConf → GpsConf}
    (h : ∀ a, f { a with conf := cache a.conf } = f a) :
    Leaves f (procKept validBit cache config) := by
  intro p
  rw [procKept]
  split
  · exact h p.1
  · rfl

theorem updateConfig_at {resolve : Url → Option Word} (k : ℕ)
    {block : Proc → Proc} (hblock : (blocks resolve config)[k]? = some block)
    (hothers : ∀ b ∈ (blocks resolve config).eraseIdx k, Leaves f b)
    (a : Adapter) : ∃ p : Proc, f (a.updateConfig resolve config).1 =
      f (block p).1 ∧ f p.1 = f a := by
  have hsplit : (blocks resolve config).take k ++ block ::
      (blocks resolve config).drop (k + 1) = blocks resolve config := by
    obtain ⟨hk, hget⟩ := List.getElem?_eq_some_iff.mp hblock
    rw [← hget, List.getElem_cons_drop, List.take_append_drop]
  rw [List.eraseIdx_eq_take_drop_succ] at hothers
  refine ⟨((blocks resolve config).take k).foldl (fun p block => block p) (a, []),
    ?_, Leaves.foldl (fun b hb => hothers b (List.mem_append_left _ hb)) (a, [])⟩
  rw [Adapter.updateConfig]
  conv_lhs => rw [← hsplit]
  rw [List.foldl_append, List.foldl_cons]
  exact Leaves.foldl (fun b hb => hothers b (List.mem_append_right _ hb)) _

/-! ## The items as settings -/

/-- The value last accepted in a run, of those that `value` finds in messages. -/
def lastAccepted (value : GnssConfig → Option V) (ops : List Adapter.Op) :
    Option V :=
  (ops.filterMap fun op =>
    match op with
    | .updateConfig _ config => value config
    | .restart _ => none).getLast?

theorem lastAccepted_update (value : GnssConfig → Option V)
    (resolve : Url → Option Word) (config : GnssConfig) :
    lastAccepted value (ops ++ [.updateConfig resolve config]) =
      (value config).or (lastAccepted value ops) := by
  rw [lastAccepted, List.filterMap_append]
  cases hvalue : value config with
  | none => simp [hvalue, lastAccepted]
  | some v => simp [hvalue]

theorem lastAccepted_restart (value : GnssConfig → Option V) (modem : Modem) :
    lastAccepted value (ops ++ [.restart modem]) = lastAccepted value ops := by
  rw [lastAccepted, List.filterMap_append]
  simp [lastAccepted]

namespace Item

/-- The value a message sets, if it does. -/
def accepted (item : Item V) (config : GnssConfig) : Option V :=
  if config.flags.getLsbD item.validBit then some (item.value config) else none

/-- What a block of the item looks at. -/
def view (item : Item V) (a : Adapter) : Word × V × Bool :=
  (item.cached a.conf, item.device a.modem, a.conf.agpsConfigInject)

/-- The item is read back as it was written, and `decode` is what it is sent as
when the engine comes up. -/
structure Resent (item : Item V) (decode : Word → V) : Prop where
  cache : ∀ (a : Adapter) word v, item.view
    { a with
      conf := item.cache word a.conf
      modem := item.send v a.modem } = (word, v, a.conf.agpsConfigInject)
  setConfig : ∀ a : Adapter, a.conf.agpsConfigInject = true →
    item.view a.setConfig = (item.cached a.conf, decode (item.cached a.conf), true)
  updateConfig : ∀ resolve config a, ∃ p : Proc,
    item.view (a.updateConfig resolve config).1 = item.view (item.proc config p).1 ∧
      item.view p.1 = item.view a

/-- The item after a run, as a setting. -/
def setting (item : Item V) (conf : GpsConf) (modem : Modem)
    (ops : List Adapter.Op) : Setting V Word where
  cache := item.cached (Adapter.run conf modem ops).conf
  device := item.device (Adapter.run conf modem ops).modem
  accepted := lastAccepted item.accepted ops

/-- How the item is kept. -/
def codec (item : Item V) (decode : Word → V) : Codec V Word :=
  ⟨item.convert, decode⟩

end Item

variable {decode : Word → V}

theorem run_concat (conf : GpsConf) (modem : Modem) (ops : List Adapter.Op)
    (op : Adapter.Op) : Adapter.run conf modem (ops ++ [op]) =
      (Adapter.run conf modem ops).step op := by
  rw [Adapter.run, List.foldl_append]
  rfl

namespace Item.Resent

theorem inject (h : item.Resent decode) (hinject : conf.agpsConfigInject = true)
    (modem : Modem) (ops : List Adapter.Op) :
    (Adapter.run conf modem ops).conf.agpsConfigInject = true := by
  induction ops using List.reverseRecOn with
  | nil => exact hinject
  | append_singleton ops op ih =>
    rw [run_concat]
    cases op with
    | updateConfig resolve config =>
      obtain ⟨p, hview, hp⟩ :=
        h.updateConfig resolve config (Adapter.run conf modem ops)
      have hpInject : p.1.conf.agpsConfigInject = true :=
        (congrArg (·.2.2) hp).trans ih
      refine (congrArg (·.2.2) hview).trans ?_
      rw [Item.proc]
      split
      · dsimp only
        split
        · exact (congrArg (·.2.2) (h.cache p.1 _ _)).trans hpInject
        · exact hpInject
      · exact hpInject
    | restart modem' => exact congrArg (·.2.2) (h.setConfig _ ih)

theorem setting_update (h : item.Resent decode)
    (hinject : conf.agpsConfigInject = true) (resolve : Url → Option Word)
    (config : GnssConfig) :
    item.setting conf modem (ops ++ [.updateConfig resolve config]) =
      match item.accepted config with
      | none => item.setting conf modem ops
      | some v => (item.setting conf modem ops).update (item.codec decode) v := by
  obtain ⟨p, hview, hp⟩ :=
    h.updateConfig resolve config (Adapter.run conf modem ops)
  have hcached : item.cached p.1.conf =
      item.cached (Adapter.run conf modem ops).conf := congrArg (·.1) hp
  have hdevice : item.device p.1.modem =
      item.device (Adapter.run conf modem ops).modem := congrArg (·.2.1) hp
  have hpInject : p.1.conf.agpsConfigInject = true :=
    (congrArg (·.2.2) hp).trans (h.inject hinject modem ops)
  have hstep : item.view
      (Adapter.run conf modem (ops ++ [.updateConfig resolve config])) =
        item.view (item.proc config p).1 := by
    rw [run_concat]
    exact hview
  rw [Item.setting, lastAccepted_update, show item.cached _ = _ from
    congrArg (·.1) hstep, show item.device _ = _ from congrArg (·.2.1) hstep]
  rw [Item.accepted, Item.proc]
  by_cases hflag : config.flags.getLsbD item.validBit = true
  · rw [if_pos hflag, if_pos hflag]
    dsimp only
    rw [Setting.update]
    by_cases hsame : item.convert (item.value config) = item.cached p.1.conf
    · rw [if_neg fun hand => hand.1 hsame, if_neg]
      · exact congrArg₂ (Setting.mk · · _) hcached hdevice
      · rw [not_not]
        exact hsame.trans hcached
    · rw [if_pos ⟨hsame, fun _ => hpInject⟩, if_pos]
      · have hnew := h.cache p.1 (item.convert (item.value config))
          (item.value config)
        exact congrArg₂ (Setting.mk · · _) (congrArg (·.1) hnew)
          (congrArg (·.2.1) hnew)
      · exact fun heq => hsame (heq.trans hcached.symm)
  · rw [if_neg hflag, if_neg hflag]
    exact congrArg₂ (Setting.mk · · _) hcached hdevice

theorem setting_restart (h : item.Resent decode)
    (hinject : conf.agpsConfigInject = true) (modem' : Modem) :
    item.setting conf modem (ops ++ [.restart modem']) =
      (item.setting conf modem ops).reset (item.codec decode) := by
  have hview := h.setConfig { Adapter.run conf modem ops with modem := modem' }
    (h.inject hinject modem ops)
  rw [Item.setting, lastAccepted_restart, run_concat]
  exact congrArg₂ (Setting.mk · · _) (congrArg (·.1) hview)
    (congrArg (·.2.1) hview)

theorem sound (h : item.Resent decode) (hinject : conf.agpsConfigInject = true)
    (modem : Modem) (ops : List Adapter.Op) :
    (item.setting conf modem ops).Sound (item.codec decode) := by
  induction ops using List.reverseRecOn with
  | nil =>
    have hview := h.setConfig
      { conf := conf, serverUrl := [], powerVoteId := 0, modem := modem } hinject
    refine ⟨nofun, fun _ => ?_⟩
    refine (congrArg (·.2.1) hview).trans ?_
    exact congrArg decode (congrArg (·.1) hview).symm
  | append_singleton ops op ih =>
    cases op with
    | updateConfig resolve config =>
      rw [h.setting_update hinject]
      split
      · exact ih
      · exact Setting.update_sound _ _ _
    | restart modem' =>
      rw [h.setting_restart hinject]
      exact ih.reset

end Item.Resent

/-! ## The five items -/

theorem suplVersion_resent : suplVersion.Resent suplVersionOf where
  cache _ _ _ := rfl
  setConfig a hinject := by
    rw [Item.view, Adapter.setConfig]
    simp only [suplVersion, hinject, if_true]
  updateConfig resolve config a := by
    refine updateConfig_at 1 rfl ?_ a
    simp only [blocks, List.eraseIdx, List.forall_mem_cons]
    exact ⟨procGpsLock_leaves fun _ _ _ => rfl,
      procAssistanceServer_leaves (fun _ _ _ _ => rfl) resolve,
      lppProfile.leaves fun _ _ _ => rfl, lppeControlPlane.leaves fun _ _ _ => rfl,
      lppeUserPlane.leaves fun _ _ _ => rfl,
      aGlonassPositionProtocol.leaves fun _ _ _ => rfl, procKept_leaves fun _ => rfl,
      procKept_leaves fun _ => rfl, procKept_leaves fun _ => rfl, nofun⟩

theorem lppProfile_resent : lppProfile.Resent lppProfileOf where
  cache _ _ _ := rfl
  setConfig a hinject := by
    rw [Item.view, Adapter.setConfig]
    simp only [lppProfile, hinject, if_true]
  updateConfig resolve config a := by
    refine updateConfig_at 3 rfl ?_ a
    simp only [blocks, List.eraseIdx, List.forall_mem_cons]
    exact ⟨procGpsLock_leaves fun _ _ _ => rfl, suplVersion.leaves fun _ _ _ => rfl,
      procAssistanceServer_leaves (fun _ _ _ _ => rfl) resolve,
      lppeControlPlane.leaves fun _ _ _ => rfl,
      lppeUserPlane.leaves fun _ _ _ => rfl,
      aGlonassPositionProtocol.leaves fun _ _ _ => rfl, procKept_leaves fun _ => rfl,
      procKept_leaves fun _ => rfl, procKept_leaves fun _ => rfl, nofun⟩

theorem lppeControlPlane_resent : lppeControlPlane.Resent lppeCpOf where
  cache _ _ _ := rfl
  setConfig a hinject := by
    rw [Item.view, Adapter.setConfig]
    simp only [lppeControlPlane, hinject]
  updateConfig resolve config a := by
    refine updateConfig_at 4 rfl ?_ a
    simp only [blocks, List.eraseIdx, List.forall_mem_cons]
    exact ⟨procGpsLock_leaves fun _ _ _ => rfl, suplVersion.leaves fun _ _ _ => rfl,
      procAssistanceServer_leaves (fun _ _ _ _ => rfl) resolve,
      lppProfile.leaves fun _ _ _ => rfl, lppeUserPlane.leaves fun _ _ _ => rfl,
      aGlonassPositionProtocol.leaves fun _ _ _ => rfl, procKept_leaves fun _ => rfl,
      procKept_leaves fun _ => rfl, procKept_leaves fun _ => rfl, nofun⟩

theorem lppeUserPlane_resent : lppeUserPlane.Resent lppeUpOf where
  cache _ _ _ := rfl
  setConfig a hinject := by
    rw [Item.view, Adapter.setConfig]
    simp only [lppeUserPlane, hinject]
  updateConfig resolve config a := by
    refine updateConfig_at 5 rfl ?_ a
    simp only [blocks, List.eraseIdx, List.forall_mem_cons]
    exact ⟨procGpsLock_leaves fun _ _ _ => rfl, suplVersion.leaves fun _ _ _ => rfl,
      procAssistanceServer_leaves (fun _ _ _ _ => rfl) resolve,
      lppProfile.leaves fun _ _ _ => rfl, lppeControlPlane.leaves fun _ _ _ => rfl,
      aGlonassPositionProtocol.leaves fun _ _ _ => rfl, procKept_leaves fun _ => rfl,
      procKept_leaves fun _ => rfl, procKept_leaves fun _ => rfl, nofun⟩

theorem aGlonassPositionProtocol_resent :
    aGlonassPositionProtocol.Resent aGloProtOf where
  cache _ _ _ := rfl
  setConfig a hinject := by
    rw [Item.view, Adapter.setConfig]
    simp only [aGlonassPositionProtocol, hinject, if_true]
  updateConfig resolve config a := by
    refine updateConfig_at 6 rfl ?_ a
    simp only [blocks, List.eraseIdx, List.forall_mem_cons]
    exact ⟨procGpsLock_leaves fun _ _ _ => rfl, suplVersion.leaves fun _ _ _ => rfl,
      procAssistanceServer_leaves (fun _ _ _ _ => rfl) resolve,
      lppProfile.leaves fun _ _ _ => rfl, lppeControlPlane.leaves fun _ _ _ => rfl,
      lppeUserPlane.leaves fun _ _ _ => rfl, procKept_leaves fun _ => rfl,
      procKept_leaves fun _ => rfl, procKept_leaves fun _ => rfl, nofun⟩

end Axon7.ModemConfig
