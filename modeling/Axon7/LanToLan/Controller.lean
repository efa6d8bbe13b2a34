import Axon7.LanToLan.Iface

/-!
# IPACM_LanToLan

The controller: the list of interfaces that are up, the client add events kept
for those that are not, and the four events it handles. Peers are the pairs of
interfaces that both take part in inter-interface offload.
-/

namespace Axon7.LanToLan

open Axon7.Lib

def maxNumIface : Nat := 10

def maxNumClient : Nat := 16

def maxNumCachedClientAddEvent : Nat := 10

/-- The controller, the interfaces by their `IPACM_Lan`, the kernel behind
them and the address of the next client node. -/
structure State where
  mIface : List IfaceId
  iface : IfaceId → Iface
  cachedClientAddEvent : List (IfaceId × Mac)
  kernel : Kernel
  nextAddr : Nat

/-- The events, as `eth_bridge_post_event` posts them. -/
inductive Event
  | ifaceUp (a : IfaceId) (ip : IpType)
  | ifaceDown (a : IfaceId)
  | clientAdd (a : IfaceId) (mac : Mac)
  | clientDel (a : IfaceId) (mac : Mac)

def Event.iface : Event → IfaceId
  | .ifaceUp a _ => a
  | .ifaceDown a => a
  | .clientAdd a _ => a
  | .clientDel a _ => a

namespace State

variable (e : Env)

/-- Before the first event. -/
def init : State where
  mIface := []
  iface := newIface e
  cachedClientAddEvent := []
  kernel := Pool.empty
  nextAddr := 0

/-- A method of one interface. -/
def onIface (s : State) (a : IfaceId)
    (f : Iface → Kernel → Iface × Kernel) : State :=
  let (i, k) := f (s.iface a) s.kernel
  { s with iface := Function.update s.iface a i, kernel := k }

/-! ## Clients -/

/-- The loop of `IPACM_LanToLan_Iface::handle_client_add` over the peers:
routing rules once for each header type, filter rules on every peer. -/
def clientAddPeers (a : IfaceId) : List PeerIfaceInfo → (L2Type → Bool) →
    ClientInfo → State → ClientInfo × State
  | [], _, client, s => (client, s)
  | pe :: pes, flag, client, s =>
    let peerL2 := e.l2 pe.peer
    let (client, k) :=
      if flag peerL2 = false then
        addClientRtRule e a (s.iface a) pe client s.kernel
      else (client, s.kernel)
    let s := { s with kernel := k }
    let s := s.onIface pe.peer (addOneClientFltRule e pe.peer a client.ptr)
    clientAddPeers a pes (Function.update flag peerL2 true) client s

/-- `IPACM_LanToLan_Iface::handle_client_add`. The client joins the list with
its handles filled in. -/
def ifaceClientAdd (s : State) (a : IfaceId) (mac : Mac) : State :=
  let i := s.iface a
  if i.clientInfo.any (·.ptr.macAddr = mac) then s
  else if i.clientInfo.length = maxNumClient then s
  else
    let client : ClientInfo :=
      { ptr := ⟨s.nextAddr, mac⟩, interIfaceRtRuleHdl := fun _ _ => [],
        intraIfaceRtRuleHdl := fun _ => [] }
    let s := { s with nextAddr := s.nextAddr + 1 }
    let (client, s) :=
      if i.supportInterIfaceOffload then
        clientAddPeers e a i.peerIfaceInfo (fun _ => false) client s
      else (client, s)
    s.onIface a fun i k =>
      let (client, i, k) :=
        if i.supportIntraIfaceOffload then
          let (client, k) := addClientRtRule e a i i.intraInterfaceInfo client k
          let (intra, k) := addAssignedFltRule e a i.isIpAddrAssigned client.ptr
            i.intraInterfaceInfo k
          (client, { i with intraInterfaceInfo := intra }, k)
        else (client, i, k)
      ({ i with clientInfo := client :: i.clientInfo }, k)

/-- The loop of `IPACM_LanToLan_Iface::handle_client_del` over the peers. -/
def clientDelPeers (a : IfaceId) : List PeerIfaceInfo → (L2Type → Bool) →
    ClientInfo → State → ClientInfo × State
  | [], _, client, s => (client, s)
  | pe :: pes, flag, client, s =>
    let peerL2 := e.l2 pe.peer
    let s := s.onIface pe.peer (delOneClientFltRule a client.ptr)
    let (client, k) :=
      if flag peerL2 = false then delClientRtRule e a pe client s.kernel
      else (client, s.kernel)
    clientDelPeers a pes (Function.update flag peerL2 true) client
      { s with kernel := k }

/-- `IPACM_LanToLan_Iface::handle_client_del`. -/
def ifaceClientDel (s : State) (a : IfaceId) (mac : Mac) : State :=
  let i := s.iface a
  match i.clientInfo.find? fun client => client.ptr.macAddr = mac with
  | none => s
  | some client =>
    let (client, s) :=
      if i.supportInterIfaceOffload then
        clientDelPeers e a i.peerIfaceInfo (fun _ => false) client s
      else (client, s)
    s.onIface a fun i k =>
      let (i, k) :=
        if i.supportIntraIfaceOffload then
          let (intra, k) := delClientFltRule i.isIpAddrAssigned client.ptr
            i.intraInterfaceInfo k
          let (_, k) := delClientRtRule e a i.intraInterfaceInfo client k
          ({ i with intraInterfaceInfo := intra }, k)
        else (i, k)
      ({ i with clientInfo := i.clientInfo.eraseP (·.ptr.macAddr = mac) }, k)

/-- `handle_client_add`. -/
def handleClientAdd (s : State) (a : IfaceId) (mac : Mac) : State :=
  if a ∈ s.mIface then s.ifaceClientAdd e a mac
  else if s.cachedClientAddEvent.length < maxNumCachedClientAddEvent then
    { s with cachedClientAddEvent := (a, mac) :: s.cachedClientAddEvent }
  else s

/-- `handle_client_del`: the cached events are not looked at. -/
def handleClientDel (s : State) (a : IfaceId) (mac : Mac) : State :=
  if a ∈ s.mIface then s.ifaceClientDel e a mac else s

/-- `handle_cached_client_add_event`. -/
def handleCachedClientAddEvent (s : State) (a : IfaceId) : State :=
  let s' := (s.cachedClientAddEvent.filter (·.1 = a)).foldl
    (fun s ev => s.handleClientAdd e a ev.2) s
  { s' with cachedClientAddEvent := s.cachedClientAddEvent.filter (·.1 ≠ a) }

/-- `clear_cached_client_add_event`. -/
def clearCachedClientAddEvent (s : State) (a : IfaceId) : State :=
  { s with cachedClientAddEvent := s.cachedClientAddEvent.filter (·.1 ≠ a) }

/-! ## Interfaces -/

/-- What `handle_iface_up` does for a new interface `a` and one that exists:
`handle_new_iface_up` on both and `add_client_rt_rule_for_new_iface`. -/
def pairUp (a : IfaceId) (s : State) (b : IfaceId) : State :=
  if (s.iface b).supportInterIfaceOffload then
    let s := s.onIface b (handleNewIfaceUp e b a)
    let s := s.onIface a (handleNewIfaceUp e a b)
    s.onIface b (addClientRtRuleForNewIface e b)
  else s

/-- `handle_iface_up` for an interface there is: another IP type comes up. -/
def assignIp (s : State) (a : IfaceId) (ip : IpType) : State :=
  let i := s.iface a
  if i.isIpAddrAssigned ip = false then
    let s := s.onIface a fun i k => ({ i with
      isIpAddrAssigned := Function.update i.isIpAddrAssigned ip true }, k)
    let s := if i.supportInterIfaceOffload then
        s.onIface a (addAllInterInterfaceClientFltRule e a ip
          fun b => (s.iface b).clientInfo)
      else s
    if i.supportIntraIfaceOffload then
      s.onIface a (addAllIntraInterfaceClientFltRule e a ip)
    else s
  else s

/-- The interface the constructor makes. -/
def newIfaceFor (a : IfaceId) (ip : IpType) : Iface :=
  { newIface e a with
    isIpAddrAssigned := Function.update (fun _ => false) ip true }

/-- It is put in front. -/
def placeIface (s : State) (a : IfaceId) (ip : IpType) : State :=
  { s with
    mIface := a :: s.mIface
    iface := Function.update s.iface a (newIfaceFor e a ip) }

/-- The new interface is put in front, paired with the others and given its
intra-interface information. -/
def insertIface (s : State) (a : IfaceId) (ip : IpType) : State :=
  let others := s.mIface
  let s := s.placeIface e a ip
  let s := if (newIfaceFor e a ip).supportInterIfaceOffload then
      let s := others.foldl (pairUp e a) s
      s.onIface a (addAllInterInterfaceClientFltRule e a ip
        fun b => (s.iface b).clientInfo)
    else s
  if (newIfaceFor e a ip).supportIntraIfaceOffload then
    s.onIface a (handleIntraInterfaceInfo e a)
  else s

/-- `handle_iface_up`. -/
def handleIfaceUp (s : State) (a : IfaceId) (ip : IpType) : State :=
  if a ∈ s.mIface then s.assignIp e a ip
  else if s.mIface.length = maxNumIface then s
  else if !(e.lan a).txProp || !(e.lan a).rxProp then s
  else if e.l2 a = .none ∨ e.l2 a = .max then s
  else (s.insertIface e a ip).handleCachedClientAddEvent e a

/-- What `handle_down_event` of the interface `a` does to a peer `b`, once
`a` is no longer counted there. -/
def dropPeer (b a : IfaceId) (i : Iface) (k : Kernel) : Iface × Kernel :=
  match i.peerIfaceInfo.find? fun pe => pe.peer = a with
  | none => (i, k)
  | some pe =>
    let (_, k) := clearAllFltRule i.isIpAddrAssigned pe k
    let (i, k) := clearAllRtRule e b pe i k
    let i := { i with
      peerIfaceInfo := i.peerIfaceInfo.eraseP (·.peer = a) }
    (i, delHdrProcCtx (e.l2 a) i k)

/-- The loop of `handle_down_event` over the peers. The own peer information
goes as a whole after it. -/
def downPeers (a : IfaceId) : List PeerIfaceInfo → State → State
  | [], s => s
  | pe :: pes, s =>
    let s := s.onIface a fun i k => (i.addRefCnt (e.l2 pe.peer) (-1), k)
    let s := s.onIface pe.peer fun i k => (i.addRefCnt (e.l2 a) (-1), k)
    let s := { s with
      kernel := (clearAllFltRule (s.iface a).isIpAddrAssigned pe s.kernel).2 }
    let s := s.onIface pe.peer (dropPeer e pe.peer a)
    let s := s.onIface a fun i k =>
      let (i, k) := clearAllRtRule e a pe i k
      (i, delHdrProcCtx (e.l2 pe.peer) i k)
    downPeers a pes s

/-- `handle_down_event`. -/
def handleDownEvent (s : State) (a : IfaceId) : State :=
  let s := if (s.iface a).supportInterIfaceOffload then
      (s.downPeers e a (s.iface a).peerIfaceInfo).onIface a fun i k =>
        ({ i with peerIfaceInfo := [] }, k)
    else s
  s.onIface a fun i k =>
    let (i, k) :=
      if i.supportIntraIfaceOffload then
        let (intra, k) := clearAllFltRule i.isIpAddrAssigned
          i.intraInterfaceInfo k
        let (i, k) := clearAllRtRule e a i.intraInterfaceInfo
          { i with intraInterfaceInfo := intra } k
        (i, ethBridgeDelHdrProcCtx i.hdrProcCtxForIntraInterface k)
      else (i, k)
    ({ i with clientInfo := [] }, k)

/-- `handle_iface_down`. -/
def handleIfaceDown (s : State) (a : IfaceId) : State :=
  if a ∈ s.mIface then
    let s := s.handleDownEvent e a
    { s with mIface := s.mIface.erase a }
  else s.clearCachedClientAddEvent a

/-- `event_callback`. -/
def step (s : State) : Event → State
  | .ifaceUp a ip => s.handleIfaceUp e a ip
  | .ifaceDown a => s.handleIfaceDown e a
  | .clientAdd a mac => s.handleClientAdd e a mac
  | .clientDel a mac => s.handleClientDel e a mac

/-- The controller after the events. -/
def run (evs : List Event) : State := evs.foldl (step e) (init e)

end State

end Axon7.LanToLan

/-!
# What the rules leave alone

Installing and deleting rules changes the handles an interface keeps, not the
clients it lists, the IP types assigned to it or the offloads it supports.
Only the two client methods change a client list, each by its one client.
-/

namespace Axon7.LanToLan

open Axon7.Lib

namespace Iface

/-- The clients, by node. -/
def ptrs (i : Iface) : List ClientPtr := i.clientInfo.map ClientInfo.ptr

/-- Nothing but handles and peer information differs. -/
structure Same (i i' : Iface) : Prop where
  assigned : i'.isIpAddrAssigned = i.isIpAddrAssigned
  inter : i'.supportInterIfaceOffload = i.supportInterIfaceOffload
  intra : i'.supportIntraIfaceOffload = i.supportIntraIfaceOffload
  ptrs : i'.ptrs = i.ptrs

theorem Same.refl (i : Iface) : i.Same i := ⟨rfl, rfl, rfl, rfl⟩

theorem Same.trans {i i' i'' : Iface} (h : i.Same i') (h' : i'.Same i'') :
    i.Same i'' where
  assigned := h'.assigned.trans h.assigned
  inter := h'.inter.trans h.inter
  intra := h'.intra.trans h.intra
  ptrs := h'.ptrs.trans h.ptrs

theorem Same.of_clients {i : Iface} {clients : List ClientInfo}
    (h : clients.map ClientInfo.ptr = i.clientInfo.map ClientInfo.ptr) :
    i.Same { i with clientInfo := clients } := ⟨rfl, rfl, rfl, h⟩

end Iface

section Methods

variable (e : Env) (a : IfaceId)

@[simp] theorem addClientRtRule_ptr (i : Iface) (peer : PeerIfaceInfo)
    (client : ClientInfo) (k : Kernel) :
    (addClientRtRule e a i peer client k).1.ptr = client.ptr := by
  rw [addClientRtRule]
  split <;> rfl

@[simp] theorem delClientRtRule_ptr (peer : PeerIfaceInfo)
    (client : ClientInfo) (k : Kernel) :
    (delClientRtRule e a peer client k).1.ptr = client.ptr := by
  rw [delClientRtRule]
  split <;> rfl

theorem clearAllRtRule_same (peer : PeerIfaceInfo) (i : Iface) (k : Kernel) :
    i.Same (clearAllRtRule e a peer i k).1 := by
  rw [clearAllRtRule]
  split
  · exact Iface.Same.of_clients
      (mapThread_map (fun c _ k => delClientRtRule_ptr e a peer c k) k)
  · exact Iface.Same.refl i

theorem addClientRtRuleForNewIface_same (i : Iface) (k : Kernel) :
    i.Same (addClientRtRuleForNewIface e a i k).1 := by
  rw [addClientRtRuleForNewIface]
  split
  · exact Iface.Same.refl i
  · next peer _ _ =>
      split
      · exact Iface.Same.of_clients
          (mapThread_map (fun c _ k => addClientRtRule_ptr e a i peer c k) k)
      · exact Iface.Same.refl i

theorem addHdrProcCtx_same (peerL2 : L2Type) (i : Iface) (k : Kernel) :
    i.Same (addHdrProcCtx e a peerL2 i k).1 := by
  rw [addHdrProcCtx]
  split <;> exact ⟨rfl, rfl, rfl, rfl⟩

theorem handleNewIfaceUp_same (peer : IfaceId) (i : Iface) (k : Kernel) :
    i.Same (handleNewIfaceUp e a peer i k).1 := by
  obtain ⟨h₁, h₂, h₃, h₄⟩ := addHdrProcCtx_same e a (e.l2 peer)
    (i.addRefCnt (e.l2 peer) 1) k
  exact ⟨h₁, h₂, h₃, h₄⟩

theorem dropPeer_same (peer : IfaceId) (i : Iface) (k : Kernel) :
    i.Same (State.dropPeer e a peer i k).1 := by
  rw [State.dropPeer]
  split
  · exact Iface.Same.refl i
  · next pe _ =>
      obtain ⟨h₁, h₂, h₃, h₄⟩ := clearAllRtRule_same e a pe i
        (clearAllFltRule i.isIpAddrAssigned pe k).2
      exact ⟨h₁, h₂, h₃, h₄⟩

end Methods

namespace State

/-- The lists of the controller are the same, and so are the interfaces up to
their handles. -/
structure Same (s s' : State) : Prop where
  mIface : s'.mIface = s.mIface
  cached : s'.cachedClientAddEvent = s.cachedClientAddEvent
  nextAddr : s'.nextAddr = s.nextAddr
  iface : ∀ b, (s.iface b).Same (s'.iface b)

theorem Same.refl (s : State) : s.Same s :=
  ⟨rfl, rfl, rfl, fun _ => Iface.Same.refl _⟩

theorem Same.trans {s s' s'' : State} (h : s.Same s') (h' : s'.Same s'') :
    s.Same s'' where
  mIface := h'.mIface.trans h.mIface
  cached := h'.cached.trans h.cached
  nextAddr := h'.nextAddr.trans h.nextAddr
  iface b := (h.iface b).trans (h'.iface b)

theorem Same.kernel (s : State) (k : Kernel) : s.Same { s with kernel := k } :=
  ⟨rfl, rfl, rfl, fun _ => Iface.Same.refl _⟩

section OnIface

variable (s : State) (a : IfaceId) (f : Iface → Kernel → Iface × Kernel)

@[simp] theorem onIface_self :
    (s.onIface a f).iface a = (f (s.iface a) s.kernel).1 :=
  Function.update_self ..

variable {a} in
theorem onIface_ne {b : IfaceId} (h : b ≠ a) :
    (s.onIface a f).iface b = s.iface b := Function.update_of_ne h ..

variable {f} in
theorem onIface_same (h : ∀ (i : Iface) k, i.Same (f i k).1) :
    s.Same (s.onIface a f) where
  mIface := rfl
  cached := rfl
  nextAddr := rfl
  iface b := by
    by_cases hb : b = a
    · subst hb
      rw [onIface_self]
      exact h _ _
    · rw [onIface_ne s f hb]
      exact Iface.Same.refl _

end OnIface

variable {e : Env}

theorem clientAddPeers_same (a : IfaceId) (pes : List PeerIfaceInfo)
    (flag : L2Type → Bool) (client : ClientInfo) (s : State) :
    s.Same (clientAddPeers e a pes flag client s).2 ∧
      (clientAddPeers e a pes flag client s).1.ptr = client.ptr := by
  induction pes generalizing flag client s with
  | nil => exact ⟨Same.refl s, rfl⟩
  | cons pe pes ih =>
    rw [clientAddPeers]
    dsimp only
    have hptr : (if flag (e.l2 pe.peer) = false then
        addClientRtRule e a (s.iface a) pe client s.kernel
        else (client, s.kernel)).1.ptr = client.ptr := by
      split
      · exact addClientRtRule_ptr ..
      · rfl
    obtain ⟨hs, hp⟩ := ih _ _ _
    refine ⟨((Same.kernel s _).trans (onIface_same _ pe.peer ?_)).trans hs,
      hp.trans hptr⟩
    exact fun i k => ⟨rfl, rfl, rfl, rfl⟩

theorem clientDelPeers_same (a : IfaceId) (pes : List PeerIfaceInfo)
    (flag : L2Type → Bool) (client : ClientInfo) (s : State) :
    s.Same (clientDelPeers e a pes flag client s).2 ∧
      (clientDelPeers e a pes flag client s).1.ptr = client.ptr := by
  induction pes generalizing flag client s with
  | nil => exact ⟨Same.refl s, rfl⟩
  | cons pe pes ih =>
    rw [clientDelPeers]
    dsimp only
    obtain ⟨hs, hp⟩ := ih _ _ _
    refine ⟨(Same.trans (onIface_same s pe.peer ?_)
      (Same.kernel ..)).trans hs, hp.trans ?_⟩
    · exact fun i k => ⟨rfl, rfl, rfl, rfl⟩
    · split
      · exact delClientRtRule_ptr ..
      · rfl

theorem pairUp_same (a : IfaceId) (s : State) (b : IfaceId) :
    s.Same (pairUp e a s b) := by
  rw [pairUp]
  split
  · refine ((onIface_same _ _ ?_).trans (onIface_same _ _ ?_)).trans
      (onIface_same _ _ ?_)
    · exact handleNewIfaceUp_same e b a
    · exact handleNewIfaceUp_same e a b
    · exact addClientRtRuleForNewIface_same e b
  · exact Same.refl s

theorem foldl_pairUp_same (a : IfaceId) (others : List IfaceId) (s : State) :
    s.Same (others.foldl (pairUp e a) s) := by
  induction others generalizing s with
  | nil => exact Same.refl s
  | cons b others ih => exact (pairUp_same a s b).trans (ih _)

theorem downPeers_same (a : IfaceId) (pes : List PeerIfaceInfo) (s : State) :
    s.Same (downPeers e a pes s) := by
  induction pes generalizing s with
  | nil => exact Same.refl s
  | cons pe pes ih =>
    rw [downPeers]
    refine Same.trans ?_ (ih _)
    refine ((((onIface_same _ _ ?_).trans (onIface_same _ _ ?_)).trans
      (Same.kernel ..)).trans (onIface_same _ _ ?_)).trans
      (onIface_same _ _ ?_)
    · exact fun i k => ⟨rfl, rfl, rfl, rfl⟩
    · exact fun i k => ⟨rfl, rfl, rfl, rfl⟩
    · exact dropPeer_same e pe.peer a
    · exact fun i k => clearAllRtRule_same e a pe i k

/-! ## The client methods -/

/-- The lists of the controller are the same, and so are the other
interfaces. -/
structure SameBut (s s' : State) (a : IfaceId) : Prop where
  mIface : s'.mIface = s.mIface
  cached : s'.cachedClientAddEvent = s.cachedClientAddEvent
  iface : ∀ b, b ≠ a → (s.iface b).Same (s'.iface b)

theorem Same.but {s s' : State} (h : s.Same s') (a : IfaceId) :
    s.SameBut s' a := ⟨h.mIface, h.cached, fun b _ => h.iface b⟩

theorem SameBut.onIface {s s' : State} {a : IfaceId} (h : s.SameBut s' a)
    (f : Iface → Kernel → Iface × Kernel) : s.SameBut (s'.onIface a f) a where
  mIface := h.mIface
  cached := h.cached
  iface b hb := by
    rw [onIface_ne s' f hb]
    exact h.iface b hb

theorem SameBut.trans {s s' s'' : State} {a : IfaceId} (h : s.SameBut s' a)
    (h' : s'.SameBut s'' a) : s.SameBut s'' a where
  mIface := h'.mIface.trans h.mIface
  cached := h'.cached.trans h.cached
  iface b hb := (h.iface b hb).trans (h'.iface b hb)

theorem ifaceClientAdd_but (s : State) (a : IfaceId) (mac : Mac) :
    s.SameBut (s.ifaceClientAdd e a mac) a := by
  rw [ifaceClientAdd]
  dsimp only
  split
  · exact (Same.refl s).but a
  · split
    · exact (Same.refl s).but a
    · refine SameBut.onIface ?_ _
      split
      · obtain ⟨hs, -⟩ := clientAddPeers_same (e := e) a
          (s.iface a).peerIfaceInfo (fun _ => false) _
          { s with nextAddr := s.nextAddr + 1 }
        exact ⟨hs.mIface, hs.cached, fun b _ => hs.iface b⟩
      · exact ⟨rfl, rfl, fun b _ => Iface.Same.refl _⟩

theorem ifaceClientAdd_old {s : State} {a : IfaceId} {mac : Mac}
    (h : mac ∈ (s.iface a).ptrs.map ClientPtr.macAddr) :
    s.ifaceClientAdd e a mac = s := by
  rw [ifaceClientAdd]
  refine if_pos ?_
  rw [List.any_eq_true]
  simpa [Iface.ptrs] using h

theorem ifaceClientAdd_new {s : State} {a : IfaceId} {mac : Mac}
    (hnew : mac ∉ (s.iface a).ptrs.map ClientPtr.macAddr)
    (hroom : (s.iface a).ptrs.length ≠ maxNumClient) :
    ((s.ifaceClientAdd e a mac).iface a).ptrs =
      ⟨s.nextAddr, mac⟩ :: (s.iface a).ptrs := by
  have hany : (s.iface a).clientInfo.any (·.ptr.macAddr = mac) = false := by
    rw [List.any_eq_false]
    simpa [Iface.ptrs] using hnew
  have hlen : (s.iface a).clientInfo.length ≠ maxNumClient := by
    rwa [Iface.ptrs, List.length_map] at hroom
  rw [ifaceClientAdd]
  simp only [hany, Bool.false_eq_true, if_false, if_neg hlen, onIface_self]
  have hpeers := clientAddPeers_same (e := e) a (s.iface a).peerIfaceInfo
    (fun _ => false)
    { ptr := ⟨s.nextAddr, mac⟩, interIfaceRtRuleHdl := fun _ _ => [],
      intraIfaceRtRuleHdl := fun _ => [] }
    { s with nextAddr := s.nextAddr + 1 }
  have hold := (hpeers.1.iface a).ptrs
  rw [Iface.ptrs, Iface.ptrs] at hold
  rw [Iface.ptrs, Iface.ptrs, List.map_cons]
  split
  · split
    · simp [hpeers.2, hold]
    · simp [hpeers.2, hold]
  · split <;> simp

theorem ifaceClientDel_but (s : State) (a : IfaceId) (mac : Mac) :
    s.SameBut (s.ifaceClientDel e a mac) a := by
  rw [ifaceClientDel]
  dsimp only
  split
  · exact (Same.refl s).but a
  · refine SameBut.onIface ?_ _
    split
    · exact (clientDelPeers_same a _ _ _ s).1.but a
    · exact (Same.refl s).but a

theorem ifaceClientDel_ptrs (s : State) (a : IfaceId) (mac : Mac) :
    ((s.ifaceClientDel e a mac).iface a).ptrs =
      (s.iface a).ptrs.eraseP (·.macAddr = mac) := by
  rw [ifaceClientDel]
  dsimp only
  split
  · next hnone =>
      rw [List.eraseP_of_forall_not]
      intro p hp
      obtain ⟨c, hc, rfl⟩ := List.mem_map.mp hp
      exact List.find?_eq_none.mp hnone c hc
  · next client hsome =>
      have herase : ∀ l : List ClientInfo,
          (l.eraseP fun c => c.ptr.macAddr = mac).map ClientInfo.ptr =
            (l.map ClientInfo.ptr).eraseP (·.macAddr = mac) := by
        intro l
        rw [List.eraseP_map]
        rfl
      rw [onIface_self]
      have hpeers := (clientDelPeers_same (e := e) a
        (s.iface a).peerIfaceInfo (fun _ => false) client s).1.iface a
      split
      · split
        · exact (herase _).trans (congrArg _ hpeers.ptrs)
        · exact (herase _).trans (congrArg _ hpeers.ptrs)
      · split <;> exact herase _

end State

end Axon7.LanToLan
