import Axon7.LanToLan.Controller
import Axon7.Lib.Run

/-!
# Client membership

Who is in a client list is to follow the last event: a client belongs to an
interface that is up if the last thing heard of it there, since the interface
last went down, is that it was added. Adds for an interface that is down are
kept and replayed when it comes up. Deletes are not matched against them, so
the lists go wrong exactly when an interface comes up for which an add was
kept that a delete has followed.
-/

namespace Axon7.LanToLan

/-! ## The history of an interface -/

/-- What the last event says: the interface is up. -/
def isUp (a : IfaceId) (evs : List Event) : Bool :=
  evs.foldl (fun up ev =>
    match ev with
    | .ifaceUp b _ => if b = a then true else up
    | .ifaceDown b => if b = a then false else up
    | _ => up) false

/-- Since the interface last went down the client has been added. -/
def isAdded (a : IfaceId) (mac : Mac) (evs : List Event) : Bool :=
  evs.foldl (fun added ev =>
    match ev with
    | .ifaceDown b => if b = a then false else added
    | .clientAdd b mac' => if b = a ∧ mac' = mac then true else added
    | _ => added) false

/-- Since the interface last went down the last event of the client is an
add. -/
def lastIsAdd (a : IfaceId) (mac : Mac) (evs : List Event) : Bool :=
  evs.foldl (fun last ev =>
    match ev with
    | .ifaceDown b => if b = a then false else last
    | .clientAdd b mac' => if b = a ∧ mac' = mac then true else last
    | .clientDel b mac' => if b = a ∧ mac' = mac then false else last
    | _ => last) false

section Snoc

variable (a : IfaceId) (mac : Mac) (evs : List Event)

theorem isUp_snoc (ev : Event) : isUp a (evs ++ [ev]) =
    match ev with
    | .ifaceUp b _ => if b = a then true else isUp a evs
    | .ifaceDown b => if b = a then false else isUp a evs
    | _ => isUp a evs := by
  rw [isUp, List.foldl_append]
  rfl

theorem isAdded_snoc (ev : Event) : isAdded a mac (evs ++ [ev]) =
    match ev with
    | .ifaceDown b => if b = a then false else isAdded a mac evs
    | .clientAdd b mac' =>
      if b = a ∧ mac' = mac then true else isAdded a mac evs
    | _ => isAdded a mac evs := by
  rw [isAdded, List.foldl_append]
  rfl

theorem lastIsAdd_snoc (ev : Event) : lastIsAdd a mac (evs ++ [ev]) =
    match ev with
    | .ifaceDown b => if b = a then false else lastIsAdd a mac evs
    | .clientAdd b mac' =>
      if b = a ∧ mac' = mac then true else lastIsAdd a mac evs
    | .clientDel b mac' =>
      if b = a ∧ mac' = mac then false else lastIsAdd a mac evs
    | _ => lastIsAdd a mac evs := by
  rw [lastIsAdd, List.foldl_append]
  rfl

variable {a mac evs}

theorem isAdded_of_last (h : lastIsAdd a mac evs = true) :
    isAdded a mac evs = true := by
  induction evs using List.reverseRecOn with
  | nil => exact h
  | append_singleton evs ev ih =>
    rw [lastIsAdd_snoc] at h
    rw [isAdded_snoc]
    cases ev with
    | ifaceUp b ip => exact ih h
    | ifaceDown b =>
      dsimp only at h ⊢
      split at h
      · cases h
      · next hne => rw [if_neg hne, ih h]
    | clientAdd b mac' =>
      dsimp only at h ⊢
      split at h
      · next heq => rw [if_pos heq]
      · next hne => rw [if_neg hne, ih h]
    | clientDel b mac' =>
      dsimp only at h ⊢
      split at h
      · cases h
      · exact ih h

end Snoc

/-! ## The lists of the controller -/

namespace State

/-- The addresses in the client list of an interface, up or not. -/
def macs (s : State) (a : IfaceId) : List Mac :=
  (s.iface a).ptrs.map ClientPtr.macAddr

/-- The client addresses of an interface that is up. -/
def Member (s : State) (a : IfaceId) (mac : Mac) : Prop :=
  a ∈ s.mIface ∧ mac ∈ s.macs a

/-- The event meets none of the limits of the controller. -/
def Fits (s : State) : Event → Prop
  | .ifaceUp a _ => a ∈ s.mIface ∨ s.mIface.length ≠ maxNumIface
  | .clientAdd a mac =>
    if a ∈ s.mIface then
      mac ∈ s.macs a ∨ (s.macs a).length ≠ maxNumClient
    else s.cachedClientAddEvent.length < maxNumCachedClientAddEvent
  | _ => True

instance (s : State) (a : IfaceId) (mac : Mac) : Decidable (s.Member a mac) :=
  inferInstanceAs (Decidable (_ ∧ _))

instance (s : State) (ev : Event) : Decidable (s.Fits ev) := by
  cases ev <;> unfold Fits <;> infer_instance

end State

/-- The interface has properties of a known header type. -/
def Env.Valid (e : Env) (a : IfaceId) : Prop :=
  (e.lan a).txProp = true ∧ (e.lan a).rxProp = true ∧
    e.l2 a ≠ .none ∧ e.l2 a ≠ .max

/-- The lists hold no client twice, and there is room for the adds kept. -/
structure State.Listed (s : State) : Prop where
  ifaces : s.mIface.Nodup
  clients : ∀ a, a ∈ s.mIface → (s.macs a).Nodup
  cached : s.cachedClientAddEvent.length ≤ maxNumCachedClientAddEvent

namespace State

variable {e : Env}

theorem SameBut.macs {s s' : State} {a b : IfaceId} (h : s.SameBut s' a)
    (hb : b ≠ a) : s'.macs b = s.macs b := congrArg _ (h.iface b hb).ptrs

/-! ## What each event does to the lists -/

theorem assignIp_but (s : State) (a : IfaceId) (ip : IpType) :
    s.SameBut (s.assignIp e a ip) a := by
  have hs : s.SameBut s a := (Same.refl s).but a
  rw [assignIp]
  dsimp only
  split
  · split
    · split
      · exact ((hs.onIface _).onIface _).onIface _
      · exact (hs.onIface _).onIface _
    · split
      · exact (hs.onIface _).onIface _
      · exact hs.onIface _
  · exact hs

theorem onIface_ptrs (s : State) (a : IfaceId)
    {f : Iface → Kernel → Iface × Kernel}
    (h : ∀ i k, (f i k).1.ptrs = i.ptrs) :
    ((s.onIface a f).iface a).ptrs = (s.iface a).ptrs := by
  rw [onIface_self]
  exact h _ _

theorem assignIp_ptrs (s : State) (a : IfaceId) (ip : IpType) :
    ((s.assignIp e a ip).iface a).ptrs = (s.iface a).ptrs := by
  have hassign := onIface_ptrs s a (f := fun i k => ({ i with
    isIpAddrAssigned := Function.update i.isIpAddrAssigned ip true }, k))
    fun _ _ => rfl
  have hinter : ∀ (s : State) clients, ((s.onIface a
      (addAllInterInterfaceClientFltRule e a ip clients)).iface a).ptrs =
      (s.iface a).ptrs := fun s clients => onIface_ptrs s a fun _ _ => rfl
  have hintra : ∀ s : State, ((s.onIface a
      (addAllIntraInterfaceClientFltRule e a ip)).iface a).ptrs =
      (s.iface a).ptrs := fun s => onIface_ptrs s a fun _ _ => rfl
  rw [assignIp]
  dsimp only
  split
  · split
    · split
      · rw [hintra, hinter, hassign]
      · rw [hintra, hassign]
    · split
      · rw [hinter, hassign]
      · exact hassign
  · rfl

theorem insertIface_but (s : State) (a : IfaceId) (ip : IpType) :
    ({ s with mIface := a :: s.mIface } : State).SameBut
      (s.insertIface e a ip) a := by
  have hnew : ({ s with mIface := a :: s.mIface } : State).SameBut
      (s.placeIface e a ip) a := by
    refine ⟨rfl, rfl, fun b hb => ?_⟩
    show (s.iface b).Same (Function.update s.iface a _ b)
    rw [Function.update_of_ne hb]
    exact Iface.Same.refl _
  have hpairs := hnew.trans
    ((foldl_pairUp_same (e := e) a s.mIface (s.placeIface e a ip)).but a)
  rw [insertIface]
  dsimp only
  split
  · split
    · exact (hpairs.onIface _).onIface _
    · exact hnew.onIface _
  · split
    · exact hpairs.onIface _
    · exact hnew

theorem insertIface_ptrs (s : State) (a : IfaceId) (ip : IpType) :
    ((s.insertIface e a ip).iface a).ptrs = [] := by
  have hnew : ((s.placeIface e a ip).iface a).ptrs = [] := by
    show (Function.update s.iface a (newIfaceFor e a ip) a).ptrs = []
    rw [Function.update_self]
    rfl
  have hpairs := ((foldl_pairUp_same (e := e) a s.mIface
    (s.placeIface e a ip)).iface a).ptrs.trans hnew
  have hinter : ∀ (s : State) clients, ((s.onIface a
      (addAllInterInterfaceClientFltRule e a ip clients)).iface a).ptrs =
      (s.iface a).ptrs := fun s clients => onIface_ptrs s a fun _ _ => rfl
  have hintra : ∀ s : State, ((s.onIface a
      (handleIntraInterfaceInfo e a)).iface a).ptrs =
      (s.iface a).ptrs := fun s => onIface_ptrs s a fun _ _ => rfl
  rw [insertIface]
  dsimp only
  split
  · split
    · rw [hintra, hinter, hpairs]
    · rw [hintra, hnew]
  · split
    · rw [hinter, hpairs]
    · exact hnew

theorem ifaceClientAdd_macs {s : State} {a : IfaceId} {mac : Mac}
    (hroom : mac ∈ s.macs a ∨ (s.macs a).length ≠ maxNumClient) :
    (s.ifaceClientAdd e a mac).macs a = (s.macs a).insert mac := by
  by_cases hmac : mac ∈ s.macs a
  · rw [ifaceClientAdd_old hmac, List.insert_of_mem hmac]
  · rw [List.insert_of_not_mem hmac]
    have hlen := hroom.resolve_left hmac
    rw [macs, List.length_map] at hlen
    rw [macs, ifaceClientAdd_new hmac hlen]
    rfl

theorem ifaceClientDel_macs (s : State) (a : IfaceId) (mac : Mac) :
    (s.ifaceClientDel e a mac).macs a = (s.macs a).erase mac := by
  rw [macs, macs, ifaceClientDel_ptrs, List.erase_eq_eraseP', List.eraseP_map]
  rfl

theorem foldl_handleClientAdd {s : State} {a : IfaceId}
    {l : List (IfaceId × Mac)} (ha : a ∈ s.mIface)
    (hroom : (s.macs a).length + l.length ≤ maxNumClient) :
    let s' := l.foldl (fun s ev => s.handleClientAdd e a ev.2) s
    s.SameBut s' a ∧
      s'.macs a = l.foldl (fun macs ev => macs.insert ev.2) (s.macs a) := by
  induction l generalizing s with
  | nil => exact ⟨(Same.refl s).but a, rfl⟩
  | cons ev l ih =>
    rw [List.length_cons] at hroom
    have hbut := ifaceClientAdd_but (e := e) s a ev.2
    have hmacs : (s.ifaceClientAdd e a ev.2).macs a =
        (s.macs a).insert ev.2 := ifaceClientAdd_macs (.inr (by omega))
    have hlen : ((s.macs a).insert ev.2).length ≤ (s.macs a).length + 1 := by
      rw [List.length_insert]
      split <;> omega
    obtain ⟨hs, hm⟩ := ih (s := s.ifaceClientAdd e a ev.2)
      (by rwa [hbut.mIface]) (by rw [hmacs]; omega)
    simp only [List.foldl_cons, handleClientAdd, if_pos ha]
    exact ⟨hbut.trans hs, hm.trans (by rw [hmacs])⟩

theorem mem_foldl_insert {l : List (IfaceId × Mac)} {macs : List Mac}
    {mac : Mac} : mac ∈ l.foldl (fun macs ev => macs.insert ev.2) macs ↔
      mac ∈ macs ∨ ∃ ev ∈ l, ev.2 = mac := by
  induction l generalizing macs with
  | nil => simp
  | cons ev l ih => simp [ih, or_assoc, or_left_comm, eq_comm]

theorem nodup_foldl_insert (l : List (IfaceId × Mac)) {macs : List Mac}
    (h : macs.Nodup) : (l.foldl (fun macs ev => macs.insert ev.2) macs).Nodup := by
  induction l generalizing macs with
  | nil => exact h
  | cons ev l ih => exact ih h.insert

theorem handleIfaceUp_new {s : State} {a : IfaceId} (ip : IpType)
    (ha : a ∉ s.mIface) (hroom : s.mIface.length ≠ maxNumIface)
    (hvalid : e.Valid a) (hcached : s.cachedClientAddEvent.length ≤
      maxNumCachedClientAddEvent) :
    let s' := s.handleIfaceUp e a ip
    s'.mIface = a :: s.mIface ∧
      s'.cachedClientAddEvent =
        s.cachedClientAddEvent.filter (fun ev => ev.1 ≠ a) ∧
      (∀ b, b ≠ a → s'.macs b = s.macs b) ∧
      (s'.macs a).Nodup ∧
      ∀ mac, mac ∈ s'.macs a ↔ (a, mac) ∈ s.cachedClientAddEvent := by
  obtain ⟨htx, hrx, hnone, hmax⟩ := hvalid
  have hbut := insertIface_but (e := e) s a ip
  have hempty : (s.insertIface e a ip).macs a = [] := by
    rw [macs, insertIface_ptrs]
    rfl
  have hcach := hbut.cached
  dsimp only at hcach
  have hfilter := List.length_filter_le (fun ev : IfaceId × Mac => ev.1 = a)
    s.cachedClientAddEvent
  obtain ⟨hs, hm⟩ := foldl_handleClientAdd (e := e)
    (s := s.insertIface e a ip) (a := a)
    (l := s.cachedClientAddEvent.filter (·.1 = a))
    (by rw [hbut.mIface]; exact List.mem_cons_self)
    (by
      rw [hempty, List.length_nil]
      rw [maxNumCachedClientAddEvent] at hcached
      rw [maxNumClient]
      omega)
  rw [hempty] at hm
  rw [handleIfaceUp, if_neg ha, if_neg hroom, if_neg (by simp [htx, hrx]),
    if_neg (by simp [hnone, hmax]), handleCachedClientAddEvent, hcach]
  refine ⟨hs.mIface.trans hbut.mIface, rfl, fun b hb => ?_, ?_, fun mac => ?_⟩
  · exact (hs.macs hb).trans (hbut.macs hb)
  · exact (congrArg List.Nodup hm).mpr (nodup_foldl_insert _ List.nodup_nil)
  · refine (iff_of_eq (congrArg (mac ∈ ·) hm)).trans ?_
    rw [mem_foldl_insert]
    simp

theorem handleIfaceUp_old {s : State} {a : IfaceId} (ip : IpType)
    (ha : a ∈ s.mIface) :
    let s' := s.handleIfaceUp e a ip
    s'.mIface = s.mIface ∧
      s'.cachedClientAddEvent = s.cachedClientAddEvent ∧
      ∀ b, s'.macs b = s.macs b := by
  have hbut := assignIp_but (e := e) s a ip
  rw [handleIfaceUp, if_pos ha]
  refine ⟨hbut.mIface, hbut.cached, fun b => ?_⟩
  by_cases hb : b = a
  · subst hb
    rw [macs, assignIp_ptrs, macs]
  · exact hbut.macs hb

theorem handleDownEvent_but (s : State) (a : IfaceId) :
    s.SameBut (s.handleDownEvent e a) a := by
  rw [handleDownEvent]
  dsimp only
  refine SameBut.onIface ?_ _
  split
  · exact ((downPeers_same a _ s).but a).onIface _
  · exact (Same.refl s).but a

/-! ## What the lists say of the history -/

/-- The controller after the events: what is up is up, the adds kept are those
of interfaces that are down, and nothing is listed twice. -/
structure Tracks (s : State) (evs : List Event) : Prop where
  up : ∀ a, a ∈ s.mIface ↔ isUp a evs = true
  cached : ∀ a mac, (a, mac) ∈ s.cachedClientAddEvent ↔
    isUp a evs = false ∧ isAdded a mac evs = true
  listed : s.Listed

theorem tracks_init : Tracks (init e) [] where
  up a := by simp [init, isUp]
  cached a mac := by simp [init, isUp, isAdded]
  listed := ⟨List.nodup_nil, nofun, Nat.zero_le _⟩

variable {s : State} {evs : List Event}

theorem Tracks.down (h : s.Tracks evs) {a : IfaceId} :
    a ∉ s.mIface ↔ isUp a evs = false := by
  rw [h.up, Bool.not_eq_true]

theorem Tracks.ifaceUp (h : s.Tracks evs) {a : IfaceId} {ip : IpType}
    (hfits : s.Fits (.ifaceUp a ip)) (hvalid : e.Valid a) :
    (s.step e (.ifaceUp a ip)).Tracks (evs ++ [.ifaceUp a ip]) := by
  show (s.handleIfaceUp e a ip).Tracks _
  by_cases ha : a ∈ s.mIface
  · obtain ⟨hm, hc, hmacs⟩ := handleIfaceUp_old (e := e) ip ha
    have hup : ∀ b, isUp b (evs ++ [.ifaceUp a ip]) = isUp b evs := by
      intro b
      rw [isUp_snoc]
      dsimp only
      split
      · next hab => exact ((h.up b).mp (hab ▸ ha)).symm
      · rfl
    refine ⟨fun b => ?_, fun b mac => ?_, ?_, fun b hb => ?_, ?_⟩
    · rw [hm, hup, h.up]
    · rw [hc, hup, isAdded_snoc, h.cached]
    · rw [hm]
      exact h.listed.ifaces
    · rw [hm] at hb
      rw [hmacs]
      exact h.listed.clients b hb
    · rw [hc]
      exact h.listed.cached
  · obtain ⟨hm, hc, hmacs, hnd, -⟩ := handleIfaceUp_new (e := e) ip ha
      (hfits.resolve_left ha) hvalid h.listed.cached
    refine ⟨fun b => ?_, fun b mac => ?_, ?_, fun b hb => ?_, ?_⟩
    · rw [hm, List.mem_cons, isUp_snoc, h.up]
      dsimp only
      split
      · next hab => simp [hab]
      · next hab => simp [Ne.symm hab]
    · rw [hc, List.mem_filter, h.cached, isUp_snoc, isAdded_snoc]
      dsimp only
      split
      · next hab => simp [hab]
      · next hab => simp [Ne.symm hab]
    · rw [hm]
      exact List.nodup_cons.mpr ⟨ha, h.listed.ifaces⟩
    · by_cases hab : b = a
      · exact hab ▸ hnd
      · rw [hm, List.mem_cons] at hb
        rw [hmacs b hab]
        exact h.listed.clients b (hb.resolve_left hab)
    · rw [hc]
      exact (List.length_filter_le _ _).trans h.listed.cached

theorem Tracks.ifaceDown (h : s.Tracks evs) (a : IfaceId) :
    (s.step e (.ifaceDown a)).Tracks (evs ++ [.ifaceDown a]) := by
  show (s.handleIfaceDown e a).Tracks _
  rw [handleIfaceDown]
  split
  · next ha =>
      have hbut := handleDownEvent_but (e := e) s a
      refine ⟨fun b => ?_, fun b mac => ?_, ?_, fun b hb => ?_, ?_⟩
      · show b ∈ (s.handleDownEvent e a).mIface.erase a ↔ _
        rw [hbut.mIface, h.listed.ifaces.mem_erase_iff, isUp_snoc, h.up]
        dsimp only
        split
        · next hab => simp [hab]
        · next hab => simp [Ne.symm hab]
      · show (b, mac) ∈ (s.handleDownEvent e a).cachedClientAddEvent ↔ _
        rw [hbut.cached, h.cached, isUp_snoc, isAdded_snoc]
        dsimp only
        split
        · next hab =>
            subst hab
            simp [(h.up a).mp ha]
        · rfl
      · show ((s.handleDownEvent e a).mIface.erase a).Nodup
        rw [hbut.mIface]
        exact h.listed.ifaces.erase a
      · change b ∈ (s.handleDownEvent e a).mIface.erase a at hb
        rw [hbut.mIface, h.listed.ifaces.mem_erase_iff] at hb
        show ((s.handleDownEvent e a).macs b).Nodup
        rw [hbut.macs hb.1]
        exact h.listed.clients b hb.2
      · show (s.handleDownEvent e a).cachedClientAddEvent.length ≤ _
        rw [hbut.cached]
        exact h.listed.cached
  · next ha =>
      refine ⟨fun b => ?_, fun b mac => ?_, h.listed.ifaces,
        h.listed.clients, ?_⟩
      · show b ∈ s.mIface ↔ _
        rw [isUp_snoc, h.up]
        dsimp only
        split
        · next hab => simp [← hab, h.down.mp ha]
        · rfl
      · show (b, mac) ∈ s.cachedClientAddEvent.filter _ ↔ _
        rw [List.mem_filter, h.cached, isUp_snoc, isAdded_snoc]
        dsimp only
        split
        · next hab => simp [hab]
        · next hab => simp [Ne.symm hab]
      · exact (List.length_filter_le _ _).trans h.listed.cached

theorem Tracks.clientAdd (h : s.Tracks evs) {a : IfaceId} {mac : Mac}
    (hfits : s.Fits (.clientAdd a mac)) :
    (s.step e (.clientAdd a mac)).Tracks (evs ++ [.clientAdd a mac]) := by
  show (s.handleClientAdd e a mac).Tracks _
  rw [Fits] at hfits
  rw [handleClientAdd]
  split at hfits
  · next ha =>
      rw [if_pos ha]
      have hbut := ifaceClientAdd_but (e := e) s a mac
      refine ⟨fun b => ?_, fun b mac' => ?_, ?_, fun b hb => ?_, ?_⟩
      · rw [hbut.mIface, isUp_snoc, h.up]
      · rw [hbut.cached, h.cached, isUp_snoc, isAdded_snoc]
        dsimp only
        split
        · next hab => simp [← hab.1, (h.up a).mp ha]
        · rfl
      · rw [hbut.mIface]
        exact h.listed.ifaces
      · rw [hbut.mIface] at hb
        by_cases hab : b = a
        · subst hab
          rw [ifaceClientAdd_macs hfits]
          exact (h.listed.clients b hb).insert
        · rw [hbut.macs hab]
          exact h.listed.clients b hb
      · rw [hbut.cached]
        exact h.listed.cached
  · next ha =>
      rw [if_neg ha, if_pos hfits]
      refine ⟨fun b => ?_, fun b mac' => ?_, h.listed.ifaces,
        h.listed.clients, hfits⟩
      · rw [isUp_snoc, h.up]
      · rw [List.mem_cons, h.cached, isUp_snoc, isAdded_snoc, Prod.mk.injEq]
        dsimp only
        split
        · next hab => simp [← hab.1, ← hab.2, h.down.mp ha]
        · next hab => simp [eq_comm (a := b), eq_comm (a := mac'), hab]

theorem Tracks.clientDel (h : s.Tracks evs) (a : IfaceId) (mac : Mac) :
    (s.step e (.clientDel a mac)).Tracks (evs ++ [.clientDel a mac]) := by
  show (s.handleClientDel e a mac).Tracks _
  rw [handleClientDel]
  split
  · have hbut := ifaceClientDel_but (e := e) s a mac
    refine ⟨fun b => ?_, fun b mac' => ?_, ?_, fun b hb => ?_, ?_⟩
    · rw [hbut.mIface, isUp_snoc, h.up]
    · rw [hbut.cached, h.cached, isUp_snoc, isAdded_snoc]
    · rw [hbut.mIface]
      exact h.listed.ifaces
    · rw [hbut.mIface] at hb
      by_cases hab : b = a
      · subst hab
        rw [ifaceClientDel_macs]
        exact (h.listed.clients b hb).erase mac
      · rw [hbut.macs hab]
        exact h.listed.clients b hb
    · rw [hbut.cached]
      exact h.listed.cached
  · refine ⟨fun b => ?_, fun b mac' => ?_, h.listed.ifaces,
      h.listed.clients, h.listed.cached⟩
    · rw [isUp_snoc, h.up]
    · rw [h.cached, isUp_snoc, isAdded_snoc]

/-! ## What each event does to the membership -/

theorem Tracks.member_ifaceUp (h : s.Tracks evs) {a : IfaceId} {ip : IpType}
    (hfits : s.Fits (.ifaceUp a ip)) (hvalid : e.Valid a) (b : IfaceId)
    (mac : Mac) : (s.step e (.ifaceUp a ip)).Member b mac ↔
      s.Member b mac ∨
        b = a ∧ isUp a evs = false ∧ isAdded a mac evs = true := by
  show (s.handleIfaceUp e a ip).Member b mac ↔ _
  rw [Member, Member]
  by_cases ha : a ∈ s.mIface
  · obtain ⟨hm, -, hmacs⟩ := handleIfaceUp_old (e := e) ip ha
    rw [hm, hmacs]
    simp [(h.up a).mp ha]
  · obtain ⟨hm, -, hmacs, -, hnew⟩ := handleIfaceUp_new (e := e) ip ha
      (hfits.resolve_left ha) hvalid h.listed.cached
    rw [hm, List.mem_cons]
    by_cases hab : b = a
    · subst hab
      rw [hnew, h.cached]
      simp [ha]
    · rw [hmacs b hab]
      simp [hab]

theorem Tracks.member_ifaceDown (h : s.Tracks evs) (a b : IfaceId)
    (mac : Mac) : (s.step e (.ifaceDown a)).Member b mac ↔
      b ≠ a ∧ s.Member b mac := by
  show (s.handleIfaceDown e a).Member b mac ↔ _
  rw [handleIfaceDown]
  split
  · have hbut := handleDownEvent_but (e := e) s a
    show b ∈ (s.handleDownEvent e a).mIface.erase a ∧
      mac ∈ (s.handleDownEvent e a).macs b ↔ _
    rw [hbut.mIface, h.listed.ifaces.mem_erase_iff, Member]
    by_cases hab : b = a
    · simp [hab]
    · rw [hbut.macs hab, and_assoc]
  · next ha =>
      show b ∈ s.mIface ∧ mac ∈ s.macs b ↔ b ≠ a ∧ b ∈ s.mIface ∧ mac ∈ s.macs b
      have hne : b ∈ s.mIface → b ≠ a := fun hb hab => ha (hab ▸ hb)
      tauto

theorem Tracks.member_clientAdd (h : s.Tracks evs) {a : IfaceId} {mac : Mac}
    (hfits : s.Fits (.clientAdd a mac)) (b : IfaceId) (mac' : Mac) :
    (s.step e (.clientAdd a mac)).Member b mac' ↔
      s.Member b mac' ∨ (a = b ∧ mac = mac') ∧ isUp a evs = true := by
  show (s.handleClientAdd e a mac).Member b mac' ↔ _
  rw [Fits] at hfits
  rw [handleClientAdd, Member, Member, ← h.up]
  split at hfits
  · next ha =>
      rw [if_pos ha, (ifaceClientAdd_but s a mac).mIface]
      by_cases hab : b = a
      · subst hab
        rw [ifaceClientAdd_macs hfits, List.mem_insert_iff]
        simp [ha, or_comm, eq_comm]
      · rw [(ifaceClientAdd_but s a mac).macs hab]
        simp [Ne.symm hab]
  · next ha =>
      rw [if_neg ha, if_pos hfits]
      show b ∈ s.mIface ∧ mac' ∈ s.macs b ↔ _
      simp [ha]

theorem Tracks.member_clientDel (h : s.Tracks evs) (a : IfaceId) (mac : Mac)
    (b : IfaceId) (mac' : Mac) :
    (s.step e (.clientDel a mac)).Member b mac' ↔
      s.Member b mac' ∧ ¬(a = b ∧ mac = mac') := by
  show (s.handleClientDel e a mac).Member b mac' ↔ _
  rw [handleClientDel, Member, Member]
  split
  · rw [(ifaceClientDel_but s a mac).mIface]
    by_cases hab : b = a
    · subst hab
      rw [ifaceClientDel_macs]
      by_cases hb : b ∈ s.mIface
      · rw [(h.listed.clients b hb).mem_erase_iff]
        simp [hb, and_comm, eq_comm]
      · simp [hb]
    · rw [(ifaceClientDel_but s a mac).macs hab]
      simp [Ne.symm hab]
  · next ha =>
      have hne : b ∈ s.mIface → ¬(a = b ∧ mac = mac') :=
        fun hb hab => ha (hab.1 ▸ hb)
      tauto

end State

/-! ## Runs -/

variable {e : Env}

theorem run_snoc (evs : List Event) (ev : Event) :
    State.run e (evs ++ [ev]) = (State.run e evs).step e ev :=
  List.foldl_concat ..

/-- The events meet no limit of the controller and are of interfaces that
have properties. -/
def InBounds (e : Env) (evs : List Event) : Prop :=
  ∀ pre ev, pre ++ [ev] <+: evs →
    (State.run e pre).Fits ev ∧ e.Valid ev.iface

/-- The client lists are those the last events call for. -/
def Follows (e : Env) (evs : List Event) : Prop :=
  ∀ a mac, (State.run e evs).Member a mac ↔
    isUp a evs = true ∧ lastIsAdd a mac evs = true

/-- The event brings no interface up for which an add was kept that a delete
followed. -/
def NothingStale (evs : List Event) : Event → Prop
  | .ifaceUp a _ => isUp a evs = false →
      ∀ mac, isAdded a mac evs = true → lastIsAdd a mac evs = true
  | _ => True

theorem InBounds.of_snoc {evs : List Event} {ev : Event}
    (h : InBounds e (evs ++ [ev])) :
    InBounds e evs ∧ (State.run e evs).Fits ev ∧ e.Valid ev.iface :=
  ⟨fun pre ev' hpre => h pre ev' (hpre.trans (List.prefix_append _ _)),
    h evs ev (List.prefix_refl _)⟩

theorem run_tracks {evs : List Event} (h : InBounds e evs) :
    (State.run e evs).Tracks evs := by
  induction evs using List.reverseRecOn with
  | nil => exact State.tracks_init
  | append_singleton evs ev ih =>
    obtain ⟨hpre, hfits, hvalid⟩ := h.of_snoc
    rw [run_snoc]
    cases ev with
    | ifaceUp a ip => exact (ih hpre).ifaceUp hfits hvalid
    | ifaceDown a => exact (ih hpre).ifaceDown a
    | clientAdd a mac => exact (ih hpre).clientAdd hfits
    | clientDel a mac => exact (ih hpre).clientDel a mac

theorem follows_snoc {evs : List Event} {ev : Event}
    (h : InBounds e (evs ++ [ev])) (hfollows : Follows e evs) :
    Follows e (evs ++ [ev]) ↔ NothingStale evs ev := by
  obtain ⟨hpre, hfits, hvalid⟩ := h.of_snoc
  have htracks := run_tracks hpre
  rw [Follows] at hfollows ⊢
  rw [run_snoc]
  cases ev with
  | ifaceUp a ip =>
    simp only [htracks.member_ifaceUp hfits hvalid, hfollows, isUp_snoc,
      lastIsAdd_snoc, NothingStale]
    constructor
    · intro hall hdown mac hadded
      have hmac := (hall a mac).mp (.inr ⟨rfl, hdown, hadded⟩)
      exact hmac.2
    · intro hstale b mac
      split
      · next hab =>
          subst hab
          have hlast : lastIsAdd a mac evs = true →
              isAdded a mac evs = true := isAdded_of_last
          cases hup : isUp a evs
          · have hmac := hstale hup mac
            simp only [Bool.false_eq_true, false_and, false_or, true_and]
            exact ⟨hmac, hlast⟩
          · simp
      · next hab => simp [Ne.symm hab]
  | ifaceDown a =>
    simp only [htracks.member_ifaceDown, hfollows, isUp_snoc,
      lastIsAdd_snoc, NothingStale, iff_true]
    intro b mac
    split
    · next hab => simp [hab]
    · next hab => simp [Ne.symm hab]
  | clientAdd a mac =>
    simp only [htracks.member_clientAdd hfits, hfollows, isUp_snoc,
      lastIsAdd_snoc, NothingStale, iff_true]
    intro b mac'
    split
    · next hab =>
        obtain ⟨rfl, rfl⟩ := hab
        simp
        tauto
    · next hab => simp [hab]
  | clientDel a mac =>
    simp only [htracks.member_clientDel, hfollows, isUp_snoc,
      lastIsAdd_snoc, NothingStale, iff_true]
    intro b mac'
    split
    · next hab => simp [hab]
    · next hab => simp [hab]

/-- Within the limits the client lists follow the last events, after every
part of a run, just if no interface comes up for which an add was kept that a
delete followed. -/
theorem run_follows_iff (e : Env) (evs : List Event) (h : InBounds e evs) :
    (∀ pre, pre <+: evs → Follows e pre) ↔
      ∀ pre ev, pre ++ [ev] <+: evs → NothingStale pre ev := by
  refine Lib.forall_prefix_iff ?_ fun pre ev hpre hfollows => ?_
  · intro a mac
    simp [State.run, State.init, State.Member, isUp]
  · have hbounds : InBounds e (pre ++ [ev]) := fun pre' ev' hp =>
      h pre' ev' (hp.trans hpre)
    exact follows_snoc hbounds hfollows

/-- A wired interface 0, access points for the rest, and a kernel that gives
the handle after the largest in use. -/
def wiredAndWlan : Env where
  lan a :=
    { txProp := true, rxProp := true
      hdrL2Type := if a = 0 then .ethernetII else .ieee8023
      wlanIf := a ≠ 0, guestAp := false, rtRuleCount := fun _ => 2
      rtRuleCount_le := fun _ => le_rfl }
  alloc k _ := (k.live.map fun entry => entry.1.2).foldr max 0 + 1

instance (e : Env) (a : IfaceId) : Decidable (e.Valid a) :=
  inferInstanceAs (Decidable (_ ∧ _))

theorem inBounds_nil (e : Env) : InBounds e [] := fun pre _ h =>
  absurd (List.prefix_nil.mp h) (by simp)

theorem InBounds.snoc {evs : List Event} {ev : Event} (h : InBounds e evs)
    (hev : (State.run e evs).Fits ev ∧ e.Valid ev.iface) :
    InBounds e (evs ++ [ev]) := by
  intro pre ev' hprefix
  obtain heq | hprefix := List.prefix_concat_iff.mp hprefix
  · obtain ⟨rfl, hev'⟩ := List.append_inj' heq rfl
    obtain rfl : ev' = ev := List.singleton_inj.mp hev'
    exact hev
  · exact h pre ev' hprefix

theorem run_follows_kept :
    (∀ pre, pre <+: [Event.clientAdd 1 7, .ifaceUp 1 .v4] →
        Follows wiredAndWlan pre) ↔
      ∀ pre ev, pre ++ [ev] <+: [Event.clientAdd 1 7, .ifaceUp 1 .v4] →
        NothingStale pre ev :=
  run_follows_iff wiredAndWlan _
    (((inBounds_nil _).snoc (by decide)).snoc (by decide))

/-- A client whose add was kept while the access point was down is deleted,
the access point comes up, and the client is in its list. -/
theorem staleAdd_listed :
    let evs := [Event.clientAdd 1 7, .clientDel 1 7, .ifaceUp 1 .v4]
    InBounds wiredAndWlan evs ∧ ¬ Follows wiredAndWlan evs := by
  refine ⟨(((inBounds_nil _).snoc ?_).snoc ?_).snoc ?_, fun h => ?_⟩
  · decide
  · decide
  · decide
  · have hmem := (h 1 7).mp (by decide)
    exact absurd hmem.2 (by decide)

end Axon7.LanToLan
