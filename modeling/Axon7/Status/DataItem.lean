import Axon7.Status.History

/-!
# Data items

What the observers of the framework report: a class of data items for each kind, with
a number that tells the kinds apart, and a list of reports for each class. An item is
put into the list that its number names. Whether it is new is for `equals` of the
class to say.
-/

namespace Axon7.Status

/-! ## The classes -/

/-- `DataItemId`. -/
inductive DataItemId
  | invalid
  | airplaneMode
  | enh
  | gpsState
  | nlpStatus
  | wifiHardwareState
  | networkInfo
  | rilVersion
  | rilServiceInfo
  | rilCellInfo
  | serviceStatus
  | model
  | manufacturer
  | voiceCall
  | assistedGps
  | screenState
  | powerConnectedState
  | timeZoneChange
  | timeChange
  | wifiSupplicantStatus
  | shutdownState
  | tac
  | mccMnc
  | btleScan
  | btScan
  | oemGtpUploadTriggerReady
  | max

structure AirplaneModeDataItemBase where
  mode : Bool

/-- The bases of ENH, the state of GPS, the status of NLP, the state of Wi-Fi and
assisted GPS. -/
structure EnabledDataItemBase where
  enabled : Bool

/-- The bases of the screen, the power connection and the shutdown. -/
structure StateDataItemBase where
  state : Bool

/-- The bases of a change of the time and of the time zone. -/
structure TimeDataItemBase where
  currTimeMillis : ℤ
  rawOffsetTZ : ℤ
  dstOffsetTZ : ℤ

structure NetworkInfoDataItemBase where
  type : ℤ
  typeName : String
  subTypeName : String
  available : Bool
  connected : Bool
  roaming : Bool

structure ServiceStatusDataItemBase where
  serviceState : ℤ

structure ModelDataItemBase where
  model : String

structure ManufacturerDataItemBase where
  manufacturer : String

structure RilServiceInfoDataItemBase where

structure RilCellInfoDataItemBase where

/-- `WifiSupplicantState`. -/
inductive WifiSupplicantState
  | disconnected
  | interfaceDisabled
  | inactive
  | scanning
  | authenticating
  | associating
  | associated
  | fourWayHandshake
  | groupHandshake
  | completed
  | dormant
  | uninitialized
  | invalid
deriving DecidableEq

structure WifiSupplicantStatusDataItemBase where
  state : WifiSupplicantState
  apMacAddressValid : Bool
  apMacAddress : Vector UInt8 6
  wifiApSsidValid : Bool
  wifiApSsid : String

/-- The bases of TAC and of MCC and MNC. -/
structure ValueDataItemBase where
  value : String

/-- `SrnDeviceScanDetailsDataItemBase`, the base of the scans of both kinds of
Bluetooth. -/
structure SrnDeviceScanDetailsDataItemBase where
  validSrnData : Bool
  apSrnRssi : ℤ
  apSrnMacAddress : Vector UInt8 6
  apSrnTimestamp : ℤ
  requestTimestamp : ℤ
  receiveTimestamp : ℤ
  errorCause : ℤ

/-- The reports of `SystemStatusReports` that are for data items. -/
inductive ReportKind
  | airplaneMode
  | enh
  | gpsState
  | nlpStatus
  | wifiHardwareState
  | networkInfo
  | rilServiceInfo
  | rilCellInfo
  | serviceStatus
  | model
  | manufacturer
  | assistedGps
  | screenState
  | powerConnectState
  | timeZoneChange
  | timeChange
  | wifiSupplicantStatus
  | shutdownState
  | tac
  | mccMnc
  | btDeviceScanDetail
  | btLeDeviceScanDetail
deriving DecidableEq

/-- The members of the class of the items of a report. -/
abbrev Data : ReportKind → Type
  | .airplaneMode => AirplaneModeDataItemBase
  | .enh | .gpsState | .nlpStatus | .wifiHardwareState | .assistedGps =>
    EnabledDataItemBase
  | .networkInfo => NetworkInfoDataItemBase
  | .rilServiceInfo => RilServiceInfoDataItemBase
  | .rilCellInfo => RilCellInfoDataItemBase
  | .serviceStatus => ServiceStatusDataItemBase
  | .model => ModelDataItemBase
  | .manufacturer => ManufacturerDataItemBase
  | .screenState | .powerConnectState | .shutdownState => StateDataItemBase
  | .timeZoneChange | .timeChange => TimeDataItemBase
  | .wifiSupplicantStatus => WifiSupplicantStatusDataItemBase
  | .tac | .mccMnc => ValueDataItemBase
  | .btDeviceScanDetail | .btLeDeviceScanDetail => SrnDeviceScanDetailsDataItemBase

/-- A data item: its class, and what it holds. -/
abbrev DataItem := (k : ReportKind) × Data k

/-- `getId` of the classes. -/
def getId : DataItem → DataItemId
  | ⟨.airplaneMode, _⟩ => .airplaneMode
  | ⟨.enh, _⟩ => .enh
  | ⟨.gpsState, _⟩ => .gpsState
  | ⟨.nlpStatus, _⟩ => .nlpStatus
  | ⟨.wifiHardwareState, _⟩ => .wifiHardwareState
  | ⟨.networkInfo, _⟩ => .networkInfo
  | ⟨.rilServiceInfo, _⟩ => .rilServiceInfo
  | ⟨.rilCellInfo, _⟩ => .rilCellInfo
  | ⟨.serviceStatus, _⟩ => .serviceStatus
  | ⟨.model, _⟩ => .model
  | ⟨.manufacturer, _⟩ => .manufacturer
  | ⟨.assistedGps, _⟩ => .assistedGps
  | ⟨.screenState, _⟩ => .screenState
  | ⟨.powerConnectState, _⟩ => .powerConnectedState
  | ⟨.timeZoneChange, _⟩ => .timeZoneChange
  | ⟨.timeChange, _⟩ => .timeChange
  | ⟨.wifiSupplicantStatus, _⟩ => .wifiSupplicantStatus
  | ⟨.shutdownState, _⟩ => .shutdownState
  | ⟨.tac, _⟩ => .tac
  | ⟨.mccMnc, _⟩ => .mccMnc
  | ⟨.btDeviceScanDetail, _⟩ => .btScan
  | ⟨.btLeDeviceScanDetail, _⟩ => .btleScan

/-! ## Equal items -/

def EnabledDataItemBase.equals (s peer : EnabledDataItemBase) : Bool :=
  s.enabled == peer.enabled

def StateDataItemBase.equals (s peer : StateDataItemBase) : Bool :=
  s.state == peer.state

def TimeDataItemBase.equals (s peer : TimeDataItemBase) : Bool :=
  s.currTimeMillis == peer.currTimeMillis && s.rawOffsetTZ == peer.rawOffsetTZ &&
    s.dstOffsetTZ == peer.dstOffsetTZ

def NetworkInfoDataItemBase.equals (s peer : NetworkInfoDataItemBase) : Bool :=
  s.type == peer.type && s.typeName == peer.typeName &&
    s.subTypeName == peer.subTypeName && s.available == peer.available &&
    s.connected == peer.connected && s.roaming == peer.roaming

/-- The address is not compared. -/
def WifiSupplicantStatusDataItemBase.equals
    (s peer : WifiSupplicantStatusDataItemBase) : Bool :=
  s.state == peer.state && s.apMacAddressValid == peer.apMacAddressValid &&
    s.wifiApSsidValid == peer.wifiApSsidValid && s.wifiApSsid == peer.wifiApSsid

def ValueDataItemBase.equals (s peer : ValueDataItemBase) : Bool :=
  s.value == peer.value

/-- `equals` of the classes. -/
def equals : (k : ReportKind) → Data k → Data k → Bool
  | .airplaneMode, s, peer => s.mode == peer.mode
  | .enh, s, peer => EnabledDataItemBase.equals s peer
  | .gpsState, s, peer => EnabledDataItemBase.equals s peer
  | .nlpStatus, s, peer => EnabledDataItemBase.equals s peer
  | .wifiHardwareState, s, peer => EnabledDataItemBase.equals s peer
  | .networkInfo, s, peer => NetworkInfoDataItemBase.equals s peer
  | .rilServiceInfo, _, _ => true
  | .rilCellInfo, _, _ => true
  | .serviceStatus, s, peer => s.serviceState == peer.serviceState
  | .model, s, peer => s.model == peer.model
  | .manufacturer, s, peer => s.manufacturer == peer.manufacturer
  | .assistedGps, s, peer => EnabledDataItemBase.equals s peer
  | .screenState, s, peer => StateDataItemBase.equals s peer
  | .powerConnectState, s, peer => StateDataItemBase.equals s peer
  | .timeZoneChange, s, peer => TimeDataItemBase.equals s peer
  | .timeChange, s, peer => TimeDataItemBase.equals s peer
  | .wifiSupplicantStatus, s, peer => WifiSupplicantStatusDataItemBase.equals s peer
  | .shutdownState, s, peer => StateDataItemBase.equals s peer
  | .tac, s, peer => ValueDataItemBase.equals s peer
  | .mccMnc, s, peer => ValueDataItemBase.equals s peer
  | .btDeviceScanDetail, _, _ => true
  | .btLeDeviceScanDetail, _, _ => true

/-! ## The reports -/

/-- `SystemStatusReports`, as far as it is for data items. -/
abbrev Reports := (k : ReportKind) → List (Item (Data k))

/-- `getType`: the enumeration has the numbers. -/
def NetworkInfoDataItemBase.getType (itemBase : NetworkInfoDataItemBase) : ℤ :=
  itemBase.type

/-- The constructors of the items of the reports. -/
def ofBase : (k : ReportKind) → Data k → Data k
  | .networkInfo, itemBase => { itemBase with type := itemBase.getType }
  | _, itemBase => itemBase

/-- `setItemBaseinReport`, with what the clock shows. -/
def setItemBaseinReport (k : ReportKind) (now : Timespec) (s : Data k)
    (cache : Reports) : Bool × Reports :=
  let (report, ret) := setIteminReport (equals k) maxItem (cache k) ⟨now, now, ofBase k s⟩
  (ret, Function.update cache k report)

/-- `eventDataItemNotify`. The number tells the case, and the case the class that the
item is taken for: the numbers of the two kinds of Bluetooth stand for the class of
the other, which has the same members. -/
def eventDataItemNotify (now : Timespec) (dataitem : DataItem) (cache : Reports) :
    Bool × Reports :=
  match getId dataitem, dataitem with
  | .airplaneMode, ⟨.airplaneMode, s⟩ => setItemBaseinReport .airplaneMode now s cache
  | .enh, ⟨.enh, s⟩ => setItemBaseinReport .enh now s cache
  | .gpsState, ⟨.gpsState, s⟩ => setItemBaseinReport .gpsState now s cache
  | .nlpStatus, ⟨.nlpStatus, s⟩ => setItemBaseinReport .nlpStatus now s cache
  | .wifiHardwareState, ⟨.wifiHardwareState, s⟩ =>
    setItemBaseinReport .wifiHardwareState now s cache
  | .networkInfo, ⟨.networkInfo, s⟩ => setItemBaseinReport .networkInfo now s cache
  | .rilServiceInfo, ⟨.rilServiceInfo, s⟩ =>
    setItemBaseinReport .rilServiceInfo now s cache
  | .rilCellInfo, ⟨.rilCellInfo, s⟩ => setItemBaseinReport .rilCellInfo now s cache
  | .serviceStatus, ⟨.serviceStatus, s⟩ => setItemBaseinReport .serviceStatus now s cache
  | .model, ⟨.model, s⟩ => setItemBaseinReport .model now s cache
  | .manufacturer, ⟨.manufacturer, s⟩ => setItemBaseinReport .manufacturer now s cache
  | .assistedGps, ⟨.assistedGps, s⟩ => setItemBaseinReport .assistedGps now s cache
  | .screenState, ⟨.screenState, s⟩ => setItemBaseinReport .screenState now s cache
  | .powerConnectedState, ⟨.powerConnectState, s⟩ =>
    setItemBaseinReport .powerConnectState now s cache
  | .timeZoneChange, ⟨.timeZoneChange, s⟩ =>
    setItemBaseinReport .timeZoneChange now s cache
  | .timeChange, ⟨.timeChange, s⟩ => setItemBaseinReport .timeChange now s cache
  | .wifiSupplicantStatus, ⟨.wifiSupplicantStatus, s⟩ =>
    setItemBaseinReport .wifiSupplicantStatus now s cache
  | .shutdownState, ⟨.shutdownState, s⟩ => setItemBaseinReport .shutdownState now s cache
  | .tac, ⟨.tac, s⟩ => setItemBaseinReport .tac now s cache
  | .mccMnc, ⟨.mccMnc, s⟩ => setItemBaseinReport .mccMnc now s cache
  | .btleScan, ⟨.btLeDeviceScanDetail, s⟩ =>
    setItemBaseinReport .btDeviceScanDetail now s cache
  | .btScan, ⟨.btDeviceScanDetail, s⟩ =>
    setItemBaseinReport .btLeDeviceScanDetail now s cache
  | _, _ => (false, cache)

end Axon7.Status

/-!
# Changed data items

An item that differs from the latest report of its class is to be stored as the new
one. Nearly all classes compare all that they hold. That of the Wi-Fi supplicant leaves
the address of the access point out, and a new address alone is dropped. The scans of
the two kinds of Bluetooth go into each other's report and are never compared.
-/

namespace Axon7.Status

variable {cache : Reports} {k : ReportKind} {now : Timespec}

/-! ## One report -/

theorem getLast?_pushItem {α : Type*} {maxItem : ℕ} (hmax : 1 ≤ maxItem)
    (report : List (Item α)) (s : Item α) :
    (pushItem maxItem report s).getLast? = some s := by
  rw [pushItem]
  split
  · next hfull =>
      have hne : report ≠ [] := by
        intro hnil
        rw [hnil, List.nil_append, List.length_singleton] at hfull
        omega
      rw [List.tail_append_of_ne_nil hne, List.getLast?_concat]
  · rw [List.getLast?_concat]

theorem ofBase_eq (k : ReportKind) (s : Data k) : ofBase k s = s := by
  cases k <;> rfl

theorem setItemBaseinReport_of_equals (now : Timespec) {back : Item (Data k)} {s : Data k}
    (hback : (cache k).getLast? = some back) (h : equals k back.data s = true) :
    (setItemBaseinReport k now s cache).1 = false := by
  rw [setItemBaseinReport, ofBase_eq, setIteminReport_of_equals hback h]

theorem setItemBaseinReport_of_not_equals (now : Timespec) {s : Data k}
    (h : ∀ back ∈ (cache k).getLast?, equals k back.data s = false) :
    (setItemBaseinReport k now s cache).1 = true ∧
      ((setItemBaseinReport k now s cache).2 k).getLast? = some ⟨now, now, s⟩ := by
  rw [setItemBaseinReport, ofBase_eq, setIteminReport_of_not_equals h]
  refine ⟨rfl, ?_⟩
  dsimp only
  rw [Function.update_self, getLast?_pushItem (by decide)]

theorem setItemBaseinReport_other {k' : ReportKind} (hne : k' ≠ k) (s : Data k) :
    (setItemBaseinReport k now s cache).2 k' = cache k' :=
  Function.update_of_ne hne _ _

/-! ## Which fields are compared -/

/-- The class compares all that it holds. -/
def ComparesAll : ReportKind → Bool
  | .wifiSupplicantStatus | .btDeviceScanDetail | .btLeDeviceScanDetail => false
  | _ => true

theorem eq_of_equals (h : ComparesAll k = true) {s peer : Data k}
    (hequals : equals k s peer = true) : s = peer := by
  cases k with
  | wifiSupplicantStatus => exact absurd h Bool.false_ne_true
  | btDeviceScanDetail => exact absurd h Bool.false_ne_true
  | btLeDeviceScanDetail => exact absurd h Bool.false_ne_true
  | rilServiceInfo => rfl
  | rilCellInfo => rfl
  | networkInfo =>
    cases s
    cases peer
    simp_all [equals, NetworkInfoDataItemBase.equals]
  | timeZoneChange | timeChange =>
    cases s
    cases peer
    simp_all [equals, TimeDataItemBase.equals]
  | airplaneMode | serviceStatus | model | manufacturer =>
    cases s
    cases peer
    simpa [equals] using hequals
  | enh | gpsState | nlpStatus | wifiHardwareState | assistedGps =>
    cases s
    cases peer
    simpa [equals, EnabledDataItemBase.equals] using hequals
  | screenState | powerConnectState | shutdownState =>
    cases s
    cases peer
    simpa [equals, StateDataItemBase.equals] using hequals
  | tac | mccMnc =>
    cases s
    cases peer
    simpa [equals, ValueDataItemBase.equals] using hequals

theorem WifiSupplicantStatusDataItemBase.eq_iff_of_equals
    {s peer : WifiSupplicantStatusDataItemBase} (h : s.equals peer = true) :
    s = peer ↔ s.apMacAddress = peer.apMacAddress := by
  constructor
  · exact fun heq => heq ▸ rfl
  · intro hmac
    cases s
    cases peer
    simp_all [WifiSupplicantStatusDataItemBase.equals]

/-! ## The routes -/

theorem eventDataItemNotify_own (hbt : k ≠ .btDeviceScanDetail)
    (hbtLe : k ≠ .btLeDeviceScanDetail) (s : Data k) :
    eventDataItemNotify now ⟨k, s⟩ cache = setItemBaseinReport k now s cache := by
  cases k with
  | btDeviceScanDetail => exact absurd rfl hbt
  | btLeDeviceScanDetail => exact absurd rfl hbtLe
  | _ => rfl

/-- The calls with items, and the times they are made at. -/
def run (cache : Reports) (items : List (Timespec × DataItem)) : Reports :=
  items.foldl (fun cache x => (eventDataItemNotify x.1 x.2 cache).2) cache

/-- An item is dropped only if the latest report of its class has the same data;
otherwise it is the new one, and no other report changes. -/
structure NotSwallowed (cache : Reports) (x : Timespec × DataItem) : Prop where
  dropped : (eventDataItemNotify x.1 x.2 cache).1 = false →
    ∃ back ∈ (cache x.2.1).getLast?, back.data = x.2.2
  stored : (eventDataItemNotify x.1 x.2 cache).1 = true →
    ((eventDataItemNotify x.1 x.2 cache).2 x.2.1).getLast? = some ⟨x.1, x.1, x.2.2⟩ ∧
      ∀ k, k ≠ x.2.1 → (eventDataItemNotify x.1 x.2 cache).2 k = cache k

/-- What the calls rely on: a new address comes with another change, and a scan is
the latest one of its kind after one of the other kind. -/
def ToldApart (cache : Reports) : DataItem → Prop
  | ⟨.wifiSupplicantStatus, s⟩ => ∀ back ∈ (cache .wifiSupplicantStatus).getLast?,
      WifiSupplicantStatusDataItemBase.equals back.data s = true →
        back.data.apMacAddress = s.apMacAddress
  | ⟨.btDeviceScanDetail, s⟩ => cache .btLeDeviceScanDetail ≠ [] ∧
      ∃ back ∈ (cache .btDeviceScanDetail).getLast?, back.data = s
  | ⟨.btLeDeviceScanDetail, s⟩ => cache .btDeviceScanDetail ≠ [] ∧
      ∃ back ∈ (cache .btLeDeviceScanDetail).getLast?, back.data = s
  | _ => True

theorem notSwallowed_own_iff (hbt : k ≠ .btDeviceScanDetail)
    (hbtLe : k ≠ .btLeDeviceScanDetail) (s : Data k) :
    NotSwallowed cache (now, ⟨k, s⟩) ↔ ∀ back ∈ (cache k).getLast?,
      equals k back.data s = true → back.data = s := by
  have hnotify : eventDataItemNotify now ⟨k, s⟩ cache = _ :=
    eventDataItemNotify_own hbt hbtLe s
  constructor
  · intro h back hback hequals
    have hfalse := setItemBaseinReport_of_equals now hback hequals
    have hdropped := h.dropped
    rw [hnotify] at hdropped
    obtain ⟨back', hback', hdata⟩ := hdropped hfalse
    obtain rfl := Option.some.inj (Option.mem_def.mp hback ▸ Option.mem_def.mp hback')
    exact hdata
  · intro h
    by_cases hnew : ∀ back ∈ (cache k).getLast?, equals k back.data s = false
    · obtain ⟨htrue, hlast⟩ := setItemBaseinReport_of_not_equals now hnew
      refine ⟨fun hfalse => ?_, fun _ => ?_⟩
      · rw [hnotify, htrue] at hfalse
        exact absurd hfalse.symm Bool.false_ne_true
      · rw [hnotify]
        exact ⟨hlast, fun k' hne => setItemBaseinReport_other hne s⟩
    · push Not at hnew
      obtain ⟨back, hback, hequals⟩ := hnew
      rw [ne_eq, Bool.not_eq_false] at hequals
      have hfalse := setItemBaseinReport_of_equals now hback hequals
      refine ⟨fun _ => ⟨back, hback, h back hback hequals⟩, fun htrue => ?_⟩
      rw [hnotify, hfalse] at htrue
      exact absurd htrue Bool.false_ne_true

theorem notSwallowed_other_iff {other : ReportKind} (hne : other ≠ k) (s : Data k)
    (s' : Data other)
    (hnotify : eventDataItemNotify now ⟨k, s⟩ cache = setItemBaseinReport other now s' cache)
    (hequals : ∀ a b : Data other, equals other a b = true) :
    NotSwallowed cache (now, ⟨k, s⟩) ↔
      cache other ≠ [] ∧ ∃ back ∈ (cache k).getLast?, back.data = s := by
  by_cases hnil : cache other = []
  · refine iff_of_false (fun h => ?_) fun h => h.1 hnil
    have hnone : ∀ back ∈ (cache other).getLast?, equals other back.data s' = false := by
      rw [hnil]
      exact fun _ => nofun
    obtain ⟨htrue, hlast⟩ := setItemBaseinReport_of_not_equals now hnone
    have hstored := h.stored
    rw [hnotify] at hstored
    have hsame := (hstored htrue).2 other hne
    rw [hsame, hnil] at hlast
    exact absurd hlast nofun
  · obtain ⟨back, hback⟩ : ∃ back, (cache other).getLast? = some back :=
      ⟨_, List.getLast?_eq_some_getLast hnil⟩
    have hfalse := setItemBaseinReport_of_equals now hback (hequals back.data s')
    constructor
    · intro h
      have hdropped := h.dropped
      rw [hnotify] at hdropped
      exact ⟨hnil, hdropped hfalse⟩
    · intro h
      refine ⟨fun _ => h.2, fun htrue => ?_⟩
      rw [hnotify, hfalse] at htrue
      exact absurd htrue Bool.false_ne_true

theorem notSwallowed_iff (x : Timespec × DataItem) :
    NotSwallowed cache x ↔ ToldApart cache x.2 := by
  obtain ⟨now, k, s⟩ := x
  by_cases hall : ComparesAll k = true
  · have hbt : k ≠ .btDeviceScanDetail := by
      intro heq
      rw [heq] at hall
      exact absurd hall Bool.false_ne_true
    have hbtLe : k ≠ .btLeDeviceScanDetail := by
      intro heq
      rw [heq] at hall
      exact absurd hall Bool.false_ne_true
    rw [notSwallowed_own_iff hbt hbtLe]
    refine iff_of_true (fun back _ hequals => eq_of_equals hall hequals) ?_
    cases k with
    | wifiSupplicantStatus => exact absurd hall Bool.false_ne_true
    | btDeviceScanDetail => exact absurd rfl hbt
    | btLeDeviceScanDetail => exact absurd rfl hbtLe
    | _ => trivial
  · cases k with
    | wifiSupplicantStatus =>
      rw [notSwallowed_own_iff (k := .wifiSupplicantStatus) (by decide) (by decide)]
      constructor
      · intro h back hback hequals
        exact (WifiSupplicantStatusDataItemBase.eq_iff_of_equals hequals).mp
          (h back hback hequals)
      · intro h back hback hequals
        exact (WifiSupplicantStatusDataItemBase.eq_iff_of_equals hequals).mpr
          (h back hback hequals)
    | btDeviceScanDetail =>
      exact notSwallowed_other_iff (by decide) s s rfl fun _ _ => rfl
    | btLeDeviceScanDetail =>
      exact notSwallowed_other_iff (by decide) s s rfl fun _ _ => rfl
    | _ => exact absurd rfl hall

/-- No item of a sequence is swallowed or stored elsewhere iff the calls can tell all
of them apart: whatever there was before, and for items of one class as for a mix. -/
theorem run_notSwallowed_iff (cache : Reports) (items : List (Timespec × DataItem)) :
    (∀ pre x, pre ++ [x] <+: items → NotSwallowed (run cache pre) x) ↔
      ∀ pre x, pre ++ [x] <+: items → ToldApart (run cache pre) x.2 := by
  simp only [notSwallowed_iff]

/-- Another access point of the same name is dropped, and a scan goes into the report
of the other kind. -/
theorem addressOnly_swallowed :
    ¬ NotSwallowed
        (run (fun _ => []) [(⟨0, 0⟩, ⟨.wifiSupplicantStatus,
          ⟨.completed, true, #v[2, 0, 0, 0, 0, 1], true, "home"⟩⟩)])
        (⟨1, 0⟩, ⟨.wifiSupplicantStatus,
          ⟨.completed, true, #v[2, 0, 0, 0, 0, 2], true, "home"⟩⟩) ∧
      ¬ NotSwallowed (fun _ => [])
        (⟨0, 0⟩, ⟨.btDeviceScanDetail, ⟨true, -60, #v[2, 0, 0, 0, 0, 1], 1, 1, 2, 0⟩⟩) := by
  constructor
  · intro h
    have hmac := (notSwallowed_iff _).mp h _ rfl rfl
    exact absurd hmac (by decide)
  · intro h
    have hother := ((notSwallowed_iff _).mp h).1
    exact hother rfl

end Axon7.Status
