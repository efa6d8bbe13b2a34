import Mathlib

/-!
# Instances and the interfaces that know them

Which interface an instance of `LocationAPI` is a client of is not kept. It is read off the
instance's callbacks, when they are set, to add it, and again in the destructor, to remove it.
`updateCallbacks` adds and never removes.

So the destructor removes an instance from the interfaces its last callbacks are for. It is
removed everywhere only if those before were for no others whose libraries are there.
-/

namespace Axon7.LocationApi

/-! ## The code -/

/-- Which of the callbacks are set. -/
structure LocationCallbacks where
  capabilitiesCb : Bool := true
  responseCb : Bool := true
  collectiveResponseCb : Bool := true
  trackingCb : Bool := false
  batchingCb : Bool := false
  geofenceBreachCb : Bool := false
  geofenceStatusCb : Bool := false
  gnssNiCb : Bool := false
  gnssMeasurementsCb : Bool := false

/-- The interface libraries. -/
inductive LocInterface
  | gnss
  | flp
  | geofence
  deriving DecidableEq

/-- `isGnssClient`. -/
def isGnssClient (callbacks : LocationCallbacks) : Bool :=
  callbacks.gnssNiCb || callbacks.trackingCb || callbacks.gnssMeasurementsCb

/-- `isFlpClient`. -/
def isFlpClient (callbacks : LocationCallbacks) : Bool :=
  callbacks.trackingCb || callbacks.batchingCb

/-- `isGeofenceClient`. -/
def isGeofenceClient (callbacks : LocationCallbacks) : Bool :=
  callbacks.geofenceBreachCb || callbacks.geofenceStatusCb

/-- Whether the callbacks make a client of an interface. -/
def isClient : LocInterface → LocationCallbacks → Bool
  | .gnss => isGnssClient
  | .flp => isFlpClient
  | .geofence => isGeofenceClient

/-- What an interface is told. Instances are told apart by their addresses. -/
inductive Told
  | initializeInterface
  | addClient (client : Nat) (callbacks : LocationCallbacks)
  | requestCapabilities (client : Nat)
  | removeClient (client : Nat)

/-- What there is for an interface: whether the pointer to it is set, whether its library has
failed to load, and what it was told, the last in front. -/
structure InterfaceData where
  interface : Bool := false
  loadFailed : Bool := false
  told : List Told := []

/-- `gData` with the flags beside it. -/
structure LocationAPIData where
  clientData : Nat → Option LocationCallbacks := fun _ => none
  interfaces : LocInterface → InterfaceData := fun _ => {}

/-- `nullptr` for one of the callbacks that have to be there. -/
def LocationCallbacks.lacksMandatory (callbacks : LocationCallbacks) : Bool :=
  !callbacks.capabilitiesCb || !callbacks.responseCb || !callbacks.collectiveResponseCb

/-- An interface is told something more. -/
def InterfaceData.tell (data : InterfaceData) (told : Told) : InterfaceData :=
  { data with told := told :: data.told }

/-- The first use of an interface loads its library, which may be there or not. -/
def InterfaceData.load (data : InterfaceData) (library : Bool) : InterfaceData :=
  if !data.interface && !data.loadFailed then
    if library then { data with interface := true }.tell .initializeInterface
    else { data with loadFailed := true }
  else data

/-- The block for one interface in `createInstance` and `updateCallbacks`, for callbacks that
make a client of it. -/
def InterfaceData.add (data : InterfaceData) (library : Bool) (client : Nat)
    (callbacks : LocationCallbacks) (request : Bool) : InterfaceData :=
  let data := data.load library
  if data.interface then
    let data := data.tell (.addClient client callbacks)
    if request then data.tell (.requestCapabilities client) else data
  else data

section

variable (library : LocInterface → Bool) (data : LocationAPIData) (client : Nat)
  (callbacks : LocationCallbacks)

/-- The three blocks one after the other, for the interfaces of a list. The first interface that
is there is asked for its capabilities, if any is. -/
def addTo : List LocInterface → Bool → LocationAPIData → LocationAPIData
  | [], _, data => data
  | i :: is, request, data =>
    if isClient i callbacks then
      let added := (data.interfaces i).add (library i) client callbacks request
      addTo is (request && !added.interface)
        { data with interfaces := Function.update data.interfaces i added }
    else addTo is request data

/-- `LocationAPI::createInstance`, where the new instance is at the address `client`. -/
def createInstance : LocationAPIData :=
  if callbacks.lacksMandatory then data
  else
    let data := addTo library client callbacks [.gnss, .flp, .geofence] true data
    { data with clientData := Function.update data.clientData client (some callbacks) }

/-- `LocationAPI::updateCallbacks`. -/
def updateCallbacks : LocationAPIData :=
  if callbacks.lacksMandatory then data
  else
    let data := addTo library client callbacks [.gnss, .flp, .geofence] false data
    { data with clientData := Function.update data.clientData client (some callbacks) }

/-- `LocationAPI::~LocationAPI`. -/
def destroy : LocationAPIData :=
  match data.clientData client with
  | some callbacks =>
    { clientData := Function.update data.clientData client none
      interfaces := fun i =>
        if isClient i callbacks && (data.interfaces i).interface then
          (data.interfaces i).tell (.removeClient client)
        else data.interfaces i }
  | none => data

end

/-! ## Runs -/

/-- A call. -/
inductive InstanceCall
  | createInstance (client : Nat) (callbacks : LocationCallbacks)
  | updateCallbacks (client : Nat) (callbacks : LocationCallbacks)
  | destroy (client : Nat)

/-- What a call does. -/
def apiStep (library : LocInterface → Bool) (data : LocationAPIData) :
    InstanceCall → LocationAPIData
  | .createInstance client callbacks => LocationApi.createInstance library data client callbacks
  | .updateCallbacks client callbacks => LocationApi.updateCallbacks library data client callbacks
  | .destroy client => LocationApi.destroy data client

/-- Calls one after the other. -/
def apiRun (library : LocInterface → Bool) (calls : List InstanceCall) : LocationAPIData :=
  calls.foldl (apiStep library) {}

/-- The callbacks that an instance has had so far, the last in front, as a call leaves them. -/
def callbacksStep (history : Nat → List LocationCallbacks) :
    InstanceCall → Nat → List LocationCallbacks
  | .createInstance client callbacks =>
    if callbacks.lacksMandatory then history else Function.update history client [callbacks]
  | .updateCallbacks client callbacks =>
    if callbacks.lacksMandatory then history
    else Function.update history client (callbacks :: history client)
  | .destroy client => Function.update history client []

/-- The callbacks that an instance has had since it was created, the last in front. Without any
there is no instance at the address. -/
def callbacksOf (calls : List InstanceCall) : Nat → List LocationCallbacks :=
  calls.foldl callbacksStep fun _ => []

/-- A call that can be made behind others: of an instance that there is, or for one at an address
where there is none. -/
def InstanceCall.Possible (calls : List InstanceCall) : InstanceCall → Prop
  | .createInstance client callbacks =>
    callbacks.lacksMandatory = false → callbacksOf calls client = []
  | .updateCallbacks client _ => callbacksOf calls client ≠ []
  | .destroy client => callbacksOf calls client ≠ []

/-- All calls can be made where they are. -/
def PossibleRun (calls : List InstanceCall) : Prop :=
  ∀ pre call, pre ++ [call] <+: calls → call.Possible pre

/-! ## Who is held -/

/-- An interface was told to add a client, and not since to remove it. -/
def Holds (client : Nat) : List Told → Prop
  | [] => False
  | .addClient added _ :: told => client = added ∨ Holds client told
  | .removeClient removed :: told => client ≠ removed ∧ Holds client told
  | _ :: told => Holds client told

/-- An interface that is there holds instances only, and all whose callbacks make them its
clients. -/
def HoldsClients (library : LocInterface → Bool) (calls : List InstanceCall) : Prop :=
  ∀ i client,
    (Holds client ((apiRun library calls).interfaces i).told → callbacksOf calls client ≠ []) ∧
    (((apiRun library calls).interfaces i).interface = true →
      (∃ callbacks, (callbacksOf calls client).head? = some callbacks ∧ isClient i callbacks) →
      Holds client ((apiRun library calls).interfaces i).told)

/-- The last callbacks of an instance make it a client of every interface whose library is there
and that any of its callbacks have made it a client of. -/
def LastForAll (library : LocInterface → Bool) (history : List LocationCallbacks) : Prop :=
  ∀ i, library i = true → (∃ callbacks ∈ history, isClient i callbacks) →
    ∃ callbacks, history.head? = some callbacks ∧ isClient i callbacks

/-! ## One interface -/

namespace InterfaceData

variable {data : InterfaceData} {library : Bool} {client c : Nat} {callbacks : LocationCallbacks}
  {request : Bool}

/-- The pointer is set only if the library is there, and a load has failed only if it is not. -/
structure Loads (data : InterfaceData) (library : Bool) : Prop where
  interface : data.interface = true → library = true
  loadFailed : data.loadFailed = true → library = false

theorem Loads.load (h : data.Loads library) :
    (data.load library).Loads library ∧ (data.load library).interface = library ∧
      (Holds c (data.load library).told ↔ Holds c data.told) := by
  obtain ⟨interface, loadFailed, told⟩ := data
  obtain ⟨hinterface, hfailed⟩ := h
  cases interface with
  | true =>
    obtain rfl : library = true := hinterface rfl
    exact ⟨⟨hinterface, hfailed⟩, rfl, Iff.rfl⟩
  | false =>
    cases loadFailed with
    | true =>
      obtain rfl : library = false := hfailed rfl
      exact ⟨⟨hinterface, hfailed⟩, rfl, Iff.rfl⟩
    | false =>
      cases library with
      | true => exact ⟨⟨fun _ => rfl, nofun⟩, rfl, Iff.rfl⟩
      | false => exact ⟨⟨nofun, fun _ => rfl⟩, rfl, Iff.rfl⟩

theorem Loads.add (h : data.Loads library) :
    (data.add library client callbacks request).Loads library ∧
      (data.add library client callbacks request).interface = library ∧
      (Holds c (data.add library client callbacks request).told ↔
        library = true ∧ c = client ∨ Holds c data.told) := by
  obtain ⟨hloads, hinterface, hholds⟩ := h.load (c := c)
  rw [InterfaceData.add]
  cases library with
  | false => simpa [hinterface] using ⟨hloads, hholds⟩
  | true =>
    simp only [hinterface, if_true, true_and]
    cases request with
    | false => exact ⟨⟨hloads.interface, hloads.loadFailed⟩, hinterface, or_congr_right hholds⟩
    | true => exact ⟨⟨hloads.interface, hloads.loadFailed⟩, hinterface, or_congr_right hholds⟩

end InterfaceData

section

variable {library : LocInterface → Bool} {data : LocationAPIData} {client : Nat}
  {callbacks : LocationCallbacks}

theorem addTo_clientData (is : List LocInterface) (request : Bool) (data : LocationAPIData) :
    (addTo library client callbacks is request data).clientData = data.clientData := by
  induction is generalizing request data with
  | nil => rfl
  | cons i is ih =>
    rw [addTo]
    split
    · rw [ih]
    · exact ih request data

theorem addTo_interfaces {is : List LocInterface} (his : is.Nodup) (request : Bool)
    (data : LocationAPIData) (i : LocInterface) :
    ∃ request', (addTo library client callbacks is request data).interfaces i =
      if i ∈ is ∧ isClient i callbacks = true then
        (data.interfaces i).add (library i) client callbacks request'
      else data.interfaces i := by
  induction is generalizing request data with
  | nil => exact ⟨request, (if_neg (by simp)).symm⟩
  | cons j is ih =>
    obtain ⟨hj, his⟩ := List.nodup_cons.1 his
    rw [addTo]
    split
    · rename_i hclient
      dsimp only
      generalize hadded : (data.interfaces j).add (library j) client callbacks request = added
      obtain ⟨request', hadd⟩ := ih his (request && !added.interface)
        { data with interfaces := Function.update data.interfaces j added }
      rw [hadd]
      by_cases hij : i = j
      · subst hij
        refine ⟨request, ?_⟩
        rw [if_neg fun h => hj h.1, if_pos ⟨List.mem_cons_self, hclient⟩, hadded]
        exact Function.update_self ..
      · refine ⟨request', ?_⟩
        simp [hij]
    · rename_i hclient
      obtain ⟨request', hadd⟩ := ih his request data
      refine ⟨request', ?_⟩
      rw [hadd]
      by_cases hij : i = j
      · subst hij
        simp [hclient]
      · simp [hij]

theorem addTo_spec (h : ∀ i, (data.interfaces i).Loads (library i)) (request : Bool)
    (i : LocInterface) :
    let data' := addTo library client callbacks [.gnss, .flp, .geofence] request data
    (data'.interfaces i).Loads (library i) ∧
      ((data.interfaces i).interface = true → (data'.interfaces i).interface = true) ∧
      (isClient i callbacks = true → (data'.interfaces i).interface = library i) ∧
      ∀ c, Holds c (data'.interfaces i).told ↔
        isClient i callbacks = true ∧ library i = true ∧ c = client ∨
          Holds c (data.interfaces i).told := by
  intro data'
  have hnodup : [LocInterface.gnss, .flp, .geofence].Nodup := by decide
  have hall : i ∈ [LocInterface.gnss, .flp, .geofence] := by cases i <;> decide
  obtain ⟨request', hadd⟩ : ∃ request', data'.interfaces i =
      if i ∈ [LocInterface.gnss, .flp, .geofence] ∧ isClient i callbacks = true then
        (data.interfaces i).add (library i) client callbacks request'
      else data.interfaces i := addTo_interfaces hnodup request data i
  rw [hadd]
  by_cases hclient : isClient i callbacks = true
  · rw [if_pos ⟨hall, hclient⟩]
    obtain ⟨hloads, hinterface, -⟩ := (h i).add (c := client)
    refine ⟨hloads, fun hold => hinterface.trans ((h i).interface hold), fun _ => hinterface, ?_⟩
    intro c
    rw [((h i).add (c := c)).2.2, and_iff_right hclient]
  · rw [if_neg fun hand => hclient hand.2]
    exact ⟨h i, id, fun h => absurd h hclient, fun c => by simp [hclient]⟩

end

/-! ## What a call keeps -/

variable {library : LocInterface → Bool} {data : LocationAPIData} {client : Nat}
  {callbacks : LocationCallbacks} {history : Nat → List LocationCallbacks}
  {old : List LocationCallbacks}

/-- The last callbacks are kept, and an instance is held by every interface that any of its
callbacks were for. -/
structure Kept (library : LocInterface → Bool) (data : LocationAPIData)
    (history : Nat → List LocationCallbacks) : Prop where
  loads : ∀ i, (data.interfaces i).Loads (library i)
  clientData : ∀ c, data.clientData c = (history c).head?
  held : ∀ i c, library i = true → (∃ callbacks ∈ history c, isClient i callbacks = true) →
    Holds c (data.interfaces i).told

/-- No others are held. -/
def Only (data : LocationAPIData) (history : Nat → List LocationCallbacks) : Prop :=
  ∀ i c, Holds c (data.interfaces i).told →
    (data.interfaces i).interface = true ∧ ∃ callbacks ∈ history c, isClient i callbacks = true

/-- What `createInstance` and `updateCallbacks` do with callbacks that have all that has to be
there. -/
def setCallbacks (library : LocInterface → Bool) (data : LocationAPIData) (client : Nat)
    (callbacks : LocationCallbacks) (request : Bool) : LocationAPIData :=
  let data := addTo library client callbacks [.gnss, .flp, .geofence] request data
  { data with clientData := Function.update data.clientData client (some callbacks) }

theorem Kept.setCallbacks (h : Kept library data history) (hold : old ⊆ history client)
    (request : Bool) :
    Kept library (setCallbacks library data client callbacks request)
      (Function.update history client (callbacks :: old)) where
  loads i := (addTo_spec h.loads request i).1
  clientData c := by
    rw [LocationApi.setCallbacks]
    dsimp only
    rw [addTo_clientData]
    by_cases hc : c = client
    · subst hc
      rw [Function.update_self, Function.update_self, List.head?_cons]
    · rw [Function.update_of_ne hc, Function.update_of_ne hc, h.clientData]
  held i c hlibrary hsome := by
    refine ((addTo_spec h.loads request i).2.2.2 c).2 ?_
    by_cases hc : c = client
    · subst hc
      rw [Function.update_self] at hsome
      obtain ⟨callbacks', hmem, hclient⟩ := hsome
      obtain rfl | hmem := List.mem_cons.1 hmem
      · exact .inl ⟨hclient, hlibrary, rfl⟩
      · exact .inr (h.held i c hlibrary ⟨callbacks', hold hmem, hclient⟩)
    · rw [Function.update_of_ne hc] at hsome
      exact .inr (h.held i c hlibrary hsome)

theorem Only.setCallbacks (h : Only data history) (hkept : Kept library data history)
    (hold : history client ⊆ old) (request : Bool) :
    Only (setCallbacks library data client callbacks request)
      (Function.update history client (callbacks :: old)) := by
  intro i c hholds
  obtain ⟨-, hkeeps, hset, hadds⟩ :=
    @addTo_spec library data client callbacks hkept.loads request i
  obtain ⟨hclient, hlibrary, rfl⟩ | hholds := (hadds c).1 hholds
  · refine ⟨(hset hclient).trans hlibrary, callbacks, ?_, hclient⟩
    rw [Function.update_self]
    exact List.mem_cons_self
  · obtain ⟨hinterface, callbacks', hmem, hclient⟩ := h i c hholds
    refine ⟨hkeeps hinterface, callbacks', ?_, hclient⟩
    by_cases hc : c = client
    · subst hc
      rw [Function.update_self]
      exact List.mem_cons_of_mem _ (hold hmem)
    · rwa [Function.update_of_ne hc]

theorem destroy_interfaces (h : data.clientData client = some callbacks) (i : LocInterface) :
    (destroy data client).interfaces i =
      if isClient i callbacks && (data.interfaces i).interface then
        (data.interfaces i).tell (.removeClient client)
      else data.interfaces i := by
  rw [destroy, h]

theorem Kept.destroy (h : Kept library data history)
    (hclient : (history client).head? = some callbacks) :
    Kept library (destroy data client) (Function.update history client []) := by
  have hdata := (h.clientData client).trans hclient
  refine ⟨fun i => ?_, fun c => ?_, fun i c hlibrary hsome => ?_⟩
  · rw [destroy_interfaces hdata]
    split
    · exact ⟨(h.loads i).interface, (h.loads i).loadFailed⟩
    · exact h.loads i
  · rw [LocationApi.destroy, hdata]
    by_cases hc : c = client
    · subst hc
      simp
    · simp only [Function.update_of_ne hc, h.clientData]
  · by_cases hc : c = client
    · subst hc
      simp at hsome
    · rw [Function.update_of_ne hc] at hsome
      have hholds := h.held i c hlibrary hsome
      rw [destroy_interfaces hdata]
      split
      · exact ⟨hc, hholds⟩
      · exact hholds

theorem Only.destroy (h : Only data history) (hkept : Kept library data history)
    (hclient : (history client).head? = some callbacks)
    (hlast : LastForAll library (history client)) :
    Only (destroy data client) (Function.update history client []) := by
  have hdata := (hkept.clientData client).trans hclient
  intro i c hholds
  rw [destroy_interfaces hdata] at hholds ⊢
  by_cases hremoved : (isClient i callbacks && (data.interfaces i).interface) = true
  · rw [if_pos hremoved] at hholds ⊢
    obtain ⟨hc, hholds⟩ := hholds
    rw [Function.update_of_ne hc]
    exact h i c hholds
  · rw [if_neg hremoved] at hholds ⊢
    obtain ⟨hinterface, hsome⟩ := h i c hholds
    refine ⟨hinterface, ?_⟩
    rw [Function.update_of_ne]
    · exact hsome
    · rintro rfl
      obtain ⟨callbacks', hhead, hfor⟩ := hlast i ((hkept.loads i).interface hinterface) hsome
      obtain rfl := Option.some_inj.1 (hclient.symm.trans hhead)
      exact hremoved (by simp [hfor, hinterface])

/-! ## Runs -/

variable {calls : List InstanceCall} {call : InstanceCall}

theorem apiRun_concat (library : LocInterface → Bool) (calls : List InstanceCall)
    (call : InstanceCall) :
    apiRun library (calls ++ [call]) = apiStep library (apiRun library calls) call := by
  rw [apiRun, List.foldl_append]
  rfl

theorem callbacksOf_concat (calls : List InstanceCall) (call : InstanceCall) :
    callbacksOf (calls ++ [call]) = callbacksStep (callbacksOf calls) call := by
  rw [callbacksOf, List.foldl_append]
  rfl

theorem possibleRun_nil : PossibleRun [] := fun pre call hpre =>
  absurd (List.prefix_nil.1 hpre) (by simp)

theorem PossibleRun.concat (h : PossibleRun calls) (hcall : call.Possible calls) :
    PossibleRun (calls ++ [call]) := by
  intro pre call' hpre
  obtain heq | hpre := List.prefix_concat_iff.1 hpre
  · obtain ⟨rfl, rfl⟩ : pre = calls ∧ call' = call := by simpa using List.append_inj' heq rfl
    exact hcall
  · exact h pre call' hpre

theorem kept_run (library : LocInterface → Bool) (h : PossibleRun calls) :
    Kept library (apiRun library calls) (callbacksOf calls) := by
  induction calls using List.reverseRecOn with
  | nil => exact ⟨fun i => ⟨nofun, nofun⟩, fun c => rfl, fun i c _ ⟨_, hmem, _⟩ => by cases hmem⟩
  | append_singleton calls call ih =>
    have hpossible : call.Possible calls := h calls call List.prefix_rfl
    have hkept := ih fun pre call hpre => h pre call (hpre.trans (List.prefix_append ..))
    rw [apiRun_concat, callbacksOf_concat]
    cases call with
    | createInstance client callbacks =>
      cases hlacks : callbacks.lacksMandatory with
      | true => simpa [apiStep, LocationApi.createInstance, callbacksStep, hlacks] using hkept
      | false =>
        simp only [apiStep, LocationApi.createInstance, callbacksStep, hlacks]
        exact hkept.setCallbacks (List.nil_subset _) true
    | updateCallbacks client callbacks =>
      cases hlacks : callbacks.lacksMandatory with
      | true => simpa [apiStep, LocationApi.updateCallbacks, callbacksStep, hlacks] using hkept
      | false =>
        simp only [apiStep, LocationApi.updateCallbacks, callbacksStep, hlacks]
        exact hkept.setCallbacks (List.Subset.refl _) false
    | destroy client =>
      obtain ⟨callbacks, hhead⟩ : ∃ callbacks, (callbacksOf calls client).head? =
          some callbacks := ⟨_, List.head?_eq_some_head hpossible⟩
      exact hkept.destroy hhead

theorem only_run (library : LocInterface → Bool) (h : PossibleRun calls)
    (hlast : ∀ pre client, pre ++ [.destroy client] <+: calls →
      LastForAll library (callbacksOf pre client)) :
    Only (apiRun library calls) (callbacksOf calls) := by
  induction calls using List.reverseRecOn with
  | nil => exact fun i c hholds => hholds.elim
  | append_singleton calls call ih =>
    have hpossible : call.Possible calls := h calls call List.prefix_rfl
    have hrun : PossibleRun calls := fun pre call hpre =>
      h pre call (hpre.trans (List.prefix_append ..))
    have honly := ih hrun fun pre client hpre =>
      hlast pre client (hpre.trans (List.prefix_append ..))
    have hkept := kept_run library hrun
    rw [apiRun_concat, callbacksOf_concat]
    cases call with
    | createInstance client callbacks =>
      cases hlacks : callbacks.lacksMandatory with
      | true => simpa [apiStep, LocationApi.createInstance, callbacksStep, hlacks] using honly
      | false =>
        have hnone : callbacksOf calls client ⊆ [] := by rw [hpossible hlacks]; simp
        simp only [apiStep, LocationApi.createInstance, callbacksStep, hlacks]
        exact honly.setCallbacks hkept hnone true
    | updateCallbacks client callbacks =>
      cases hlacks : callbacks.lacksMandatory with
      | true => simpa [apiStep, LocationApi.updateCallbacks, callbacksStep, hlacks] using honly
      | false =>
        simp only [apiStep, LocationApi.updateCallbacks, callbacksStep, hlacks]
        exact honly.setCallbacks hkept (List.Subset.refl _) false
    | destroy client =>
      obtain ⟨callbacks, hhead⟩ : ∃ callbacks, (callbacksOf calls client).head? =
          some callbacks := ⟨_, List.head?_eq_some_head hpossible⟩
      exact honly.destroy hkept hhead (hlast calls client List.prefix_rfl)

theorem not_holdsClients_destroy {pre : List InstanceCall} {client : Nat}
    (h : PossibleRun (pre ++ [.destroy client]))
    (hlast : ¬ LastForAll library (callbacksOf pre client)) :
    ¬ HoldsClients library (pre ++ [.destroy client]) := by
  have hpossible : callbacksOf pre client ≠ [] := h pre (.destroy client) List.prefix_rfl
  have hkept := kept_run library fun pre' call hpre =>
    h pre' call (hpre.trans (List.prefix_append ..))
  obtain ⟨callbacks, hhead⟩ : ∃ callbacks, (callbacksOf pre client).head? = some callbacks :=
    ⟨_, List.head?_eq_some_head hpossible⟩
  simp only [LastForAll, not_forall] at hlast
  obtain ⟨i, hlibrary, hsome, hnot⟩ := hlast
  have hother : isClient i callbacks ≠ true := fun hclient => hnot ⟨callbacks, hhead, hclient⟩
  intro hholds
  refine (hholds i client).1 ?_ ?_
  · rw [apiRun_concat, apiStep, destroy_interfaces ((hkept.clientData client).trans hhead)]
    rw [if_neg (by simp [hother])]
    exact hkept.held i client hlibrary hsome
  · rw [callbacksOf_concat]
    exact Function.update_self ..

/-- After every call the interfaces hold instances only, and all their clients, exactly if each
instance that is destroyed has last had callbacks that are for every interface any of its
callbacks were for, of those whose libraries are there. -/
theorem holdsClients_iff (library : LocInterface → Bool) (h : PossibleRun calls) :
    (∀ pre, pre <+: calls → HoldsClients library pre) ↔
      ∀ pre client, pre ++ [.destroy client] <+: calls →
        LastForAll library (callbacksOf pre client) := by
  have hpossible : ∀ pre, pre <+: calls → PossibleRun pre := fun pre hpre pre' call hpre' =>
    h pre' call (hpre'.trans hpre)
  constructor
  · intro hholds pre client hpre
    by_contra hlast
    exact not_holdsClients_destroy (hpossible _ hpre) hlast (hholds _ hpre)
  · intro hlast pre hpre i client
    have hkept := kept_run library (hpossible pre hpre)
    have honly := only_run library (hpossible pre hpre) fun pre' client hpre' =>
      hlast pre' client (hpre'.trans hpre)
    constructor
    · intro hholds
      obtain ⟨-, callbacks, hmem, -⟩ := honly i client hholds
      exact List.ne_nil_of_mem hmem
    · intro hinterface hclient
      obtain ⟨callbacks, hhead, hfor⟩ := hclient
      exact hkept.held i client ((hkept.loads i).interface hinterface)
        ⟨callbacks, List.mem_of_mem_head? hhead, hfor⟩

theorem holdsClients_iff_tracking :
    (∀ pre, pre <+: [InstanceCall.createInstance 1 { trackingCb := true }, .destroy 1] →
      HoldsClients (fun _ => true) pre) ↔
      ∀ pre client, pre ++ [.destroy client] <+:
        [InstanceCall.createInstance 1 { trackingCb := true }, .destroy 1] →
          LastForAll (fun _ => true) (callbacksOf pre client) := by
  have hcreate : PossibleRun [InstanceCall.createInstance 1 { trackingCb := true }] :=
    possibleRun_nil.concat fun _ => rfl
  have hdestroy : PossibleRun [InstanceCall.createInstance 1 { trackingCb := true }, .destroy 1] :=
    hcreate.concat (by simp [InstanceCall.Possible, callbacksOf, callbacksStep,
      LocationCallbacks.lacksMandatory])
  exact holdsClients_iff (fun _ => true) hdestroy

/-- The batching client that no longer batches is still held when it is gone. -/
theorem not_holdsClients_batching :
    PossibleRun [.createInstance 1 { batchingCb := true }, .updateCallbacks 1 {}, .destroy 1] ∧
      ¬ HoldsClients (fun _ => true) [.createInstance 1 { batchingCb := true },
        .updateCallbacks 1 {}, .destroy 1] := by
  have hcreate : PossibleRun [.createInstance 1 { batchingCb := true }] :=
    possibleRun_nil.concat fun _ => rfl
  have hupdate : PossibleRun [.createInstance 1 { batchingCb := true }, .updateCallbacks 1 {}] :=
    hcreate.concat (by simp [InstanceCall.Possible, callbacksOf, callbacksStep,
      LocationCallbacks.lacksMandatory])
  refine ⟨hupdate.concat (by simp [InstanceCall.Possible, callbacksOf, callbacksStep,
    LocationCallbacks.lacksMandatory]), fun h => ?_⟩
  have hheld : Holds 1 ((apiRun (fun _ => true) [.createInstance 1 { batchingCb := true },
      .updateCallbacks 1 {}, .destroy 1]).interfaces .flp).told := Or.inl rfl
  exact (h .flp 1).1 hheld rfl

end Axon7.LocationApi
