import Axon7.Netlink.Batch

/-!
# The events of a route

A route message says where a route goes: a destination, and how many bits of it count.
The event about it has the destination in host order and the mask of these bits. The mask
is made in host order already, and then turned around once more; on the way of a deletion
the rest of it also goes to the wrong word.
-/

namespace Axon7.Netlink

open Axon7.Lib

/-! ## Masks -/

/-- The words of a mask of `n` ones and then zeros. -/
def MaskOf (n : Nat) (words : List Nat) : Prop :=
  words.length = 4 ∧ ∀ (i : Nat) (h : i < words.length),
    words[i] < 2 ^ 32 ∧ ∀ b < 32, words[i].testBit b = decide (32 * i + (31 - b) < n)

/-- A word of so many ones and then zeros. -/
def topWord (k : Nat) : Nat := 2 ^ 32 - 2 ^ (32 - k)

theorem topWord_lt (k : Nat) : topWord k < 2 ^ 32 := by
  have hpos := Nat.two_pow_pos (32 - k)
  rw [topWord]
  omega

theorem testBit_topWord {k b : Nat} (hb : b < 32) :
    (topWord k).testBit b = decide (31 - b < k) := by
  obtain ⟨z, hz⟩ : ∃ z, 32 - k = z := ⟨_, rfl⟩
  have hle : z ≤ 32 := by omega
  have hsplit : topWord k = (2 ^ (32 - z) - 1) * 2 ^ z := by
    rw [topWord, hz, Nat.sub_mul, ← Nat.pow_add, Nat.sub_add_cancel hle, Nat.one_mul]
  rw [hsplit, Nat.testBit_mul_two_pow, Nat.testBit_two_pow_sub_one]
  have hiff : (z ≤ b ∧ b - z < 32 - z) ↔ 31 - b < k := by omega
  rw [← Bool.decide_and, decide_eq_decide]
  exact hiff

/-- The mask of a length, by its words. -/
def prefixMask (n : Nat) : List Nat := (List.range 4).map fun i => topWord (n - 32 * i)

theorem maskOf_iff {n : Nat} {words : List Nat} : MaskOf n words ↔ words = prefixMask n := by
  have hlen : (prefixMask n).length = 4 := rfl
  have hword (i : Nat) (h : i < (prefixMask n).length) :
      (prefixMask n)[i] = topWord (n - 32 * i) := by
    simp [prefixMask]
  have hbit (i b : Nat) (hb : b < 32) :
      (topWord (n - 32 * i)).testBit b = decide (32 * i + (31 - b) < n) := by
    rw [testBit_topWord hb, decide_eq_decide]
    omega
  constructor
  · intro ⟨hl, h⟩
    refine List.ext_getElem (hl.trans hlen.symm) fun i h₁ h₂ => ?_
    obtain ⟨hlt, hbits⟩ := h i h₁
    rw [hword i h₂]
    refine Nat.eq_of_testBit_eq fun b => ?_
    by_cases hb : b < 32
    · rw [hbits b hb, hbit i b hb]
    · -- above the word there are no ones in either
      have hpow : 2 ^ 32 ≤ 2 ^ b := Nat.pow_le_pow_right (by decide) (by omega)
      rw [Nat.testBit_lt_two_pow (by omega),
        Nat.testBit_lt_two_pow (Nat.lt_of_lt_of_le (topWord_lt _) hpow)]
  · intro h
    subst h
    refine ⟨hlen, fun i hi => ?_⟩
    rw [hword i hi]
    exact ⟨topWord_lt _, fun b hb => hbit i b hb⟩

theorem maskWords_add_iff {n : Nat} (hn : n ≤ 128) :
    maskWords id n = (prefixMask n).map some ↔ 32 ∣ n := by
  revert n
  decide +kernel

theorem maskWords_del_iff {n : Nat} (hn : n ≤ 128) :
    maskWords (fun _ => 0) n = (prefixMask n).map some ↔ n = 128 := by
  revert n
  decide +kernel

theorem eq_of_none_notMem_maskWords_del {n : Nat} (hn : n ≤ 128)
    (h : none ∉ maskWords (fun _ => 0) n) : n = 128 := by
  revert n
  decide +kernel

/-! ## Route messages -/

/-- `struct rtmsg` of the message. -/
def rtmOf (mem : Memory) : Rtmsg where
  rtmFamily := (mem 16).toNat
  rtmDstLen := (mem 17).toNat
  rtmTable := (mem 20).toNat
  rtmProtocol := (mem 21).toNat
  rtmScope := (mem 22).toNat
  rtmType := (mem 23).toNat

/-- A buffer with one message about an IPv6 route, and its attributes. Nothing behind the
message looks like an attribute. -/
structure RouteMessage (mem : Memory) (len : Nat) (attrs : List (Nat × Nat)) : Prop where
  type : nlmsgType mem 0 = rtmNewroute ∨ nlmsgType mem 0 = rtmDelroute
  length : nlmsgLen mem 0 = len
  header : nlmsghdrSize + Source.rtmsgSize ≤ len
  max : len ≤ ipaNlMsgMaxLen
  attrs : Records mem (nlmsghdrSize + Source.rtmsgSize)
    (len - nlmsghdrSize - Source.rtmsgSize) attrs
  behind : ¬ RecordOk mem len Source.rtmsgSize
  family : (rtmOf mem).rtmFamily = afInet6

/-- A unicast route of the kernel in the main table. -/
structure KernelRoute (mem : Memory) : Prop where
  type : (rtmOf mem).rtmType = 1
  protocol : (rtmOf mem).rtmProtocol = 2
  table : (rtmOf mem).rtmTable = 254

/-- `RTPROT_BOOT` or `RTPROT_RA`. -/
def BootOrRa (mem : Memory) : Prop :=
  (rtmOf mem).rtmProtocol = 3 ∨ (rtmOf mem).rtmProtocol = 9

/-- `RTA_DST`. -/
def rtaDst : Nat := 1

/-- The words of the address at a place, in host order. -/
def addrWords (mem : Memory) (q : Nat) : List Nat :=
  [0, 4, 8, 12].map fun i => ntohlBytes (mem.bytes (q + i) 4)

/-- The destination of the route is the address at `q`. -/
def DstAt (attrs : List (Nat × Nat)) (q : Nat) : Prop :=
  attrs.filter (fun a => a.1 = rtaDst) = [(rtaDst, q)]

/-- The event about a route. -/
def routeEvent (mem : Memory) (data : EventAddr) : NlEvent :=
  if nlmsgType mem 0 = rtmNewroute then .routeAdd data else .routeDel data

/-- The event has the destination, and its mask. -/
structure StatesRoute (mem : Memory) (q : Nat) (data : EventAddr) : Prop where
  v6 : data.isV4 = false
  addr : data.ipv6Addr = some (addrWords mem q)
  mask : ∃ words, data.ipv6AddrMask = words.map some ∧
    MaskOf (rtmOf mem).rtmDstLen words

/-! ## What is decoded -/

theorem bytes_drop_take (mem : Memory) (q n i k : Nat) (h : i + k ≤ n) :
    ((mem.bytes q n).drop i).take k = mem.bytes (q + i) k := by
  refine List.ext_getElem ?_ fun j h₁ h₂ => ?_
  · simp only [Memory.bytes, List.length_take, List.length_drop, List.length_map,
      List.length_range]
    omega
  · simp only [Memory.bytes, List.getElem_take, List.getElem_drop, List.getElem_map,
      List.getElem_range, Nat.add_assoc]

theorem v6_eq_addrWords (mem : Memory) (q family : Nat) :
    (SockaddrStorage.mk family (mem.bytes q sockaddrData)).v6 = addrWords mem q := by
  refine List.map_congr_left fun i hi => ?_
  have hi' : i + 4 ≤ sockaddrData := by
    simp only [List.mem_cons, List.not_mem_nil, or_false] at hi
    simp only [sockaddrData]
    omega
  rw [bytes_drop_take mem q sockaddrData i 4 hi']

theorem routeAttr_metainfo (mem : Memory) (info : RouteInfo) (kind q : Nat) :
    (Source.routeAttr mem info kind q).metainfo = info.metainfo := by
  unfold Source.routeAttr
  split <;> rfl

theorem has_rtaParamDst (info : RouteInfo) :
    info.has rtaParamDst = info.paramMask.testBit 0 := by
  rw [RouteInfo.has, rtaParamDst, Nat.and_one_is_mod, Nat.testBit_zero, decide_eq_decide]
  omega

theorem routeAttr_dst (mem : Memory) (info : RouteInfo) {kind : Nat} (q : Nat)
    (hkind : kind ≠ rtaDst) :
    (Source.routeAttr mem info kind q).dstAddr = info.dstAddr ∧
      (Source.routeAttr mem info kind q).has rtaParamDst = info.has rtaParamDst := by
  unfold Source.routeAttr
  split
  · exact absurd rfl hkind
  all_goals
    refine ⟨rfl, ?_⟩
    simp [has_rtaParamDst, rtaParamSrc, rtaParamGateway, rtaParamIif, rtaParamOif,
      rtaParamPriority]

section Fold

variable (mem : Memory)

/-- The loop over the attributes. -/
def foldAttrs (attrs : List (Nat × Nat)) (info : RouteInfo) : RouteInfo :=
  attrs.foldl (fun info a => Source.routeAttr mem info a.1 a.2) info

theorem foldAttrs_metainfo (attrs : List (Nat × Nat)) (info : RouteInfo) :
    (foldAttrs mem attrs info).metainfo = info.metainfo := by
  induction attrs generalizing info with
  | nil => rfl
  | cons a attrs ih => exact (ih _).trans (routeAttr_metainfo mem info a.1 a.2)

theorem foldAttrs_none {attrs : List (Nat × Nat)} (h : ∀ a ∈ attrs, a.1 ≠ rtaDst)
    (info : RouteInfo) :
    (foldAttrs mem attrs info).dstAddr = info.dstAddr ∧
      (foldAttrs mem attrs info).has rtaParamDst = info.has rtaParamDst := by
  induction attrs generalizing info with
  | nil => exact ⟨rfl, rfl⟩
  | cons a attrs ih =>
    obtain ⟨haddr, hhas⟩ := routeAttr_dst mem info a.2 (h a (List.mem_cons_self ..))
    obtain ⟨haddr', hhas'⟩ :=
      ih (fun b hb => h b (List.mem_cons_of_mem _ hb)) (Source.routeAttr mem info a.1 a.2)
    exact ⟨haddr'.trans haddr, hhas'.trans hhas⟩

theorem foldAttrs_append (l₁ l₂ : List (Nat × Nat)) (info : RouteInfo) :
    foldAttrs mem (l₁ ++ l₂) info = foldAttrs mem l₂ (foldAttrs mem l₁ info) :=
  List.foldl_append

theorem foldAttrs_dst {attrs : List (Nat × Nat)} {q : Nat} (h : DstAt attrs q)
    (info : RouteInfo) :
    (foldAttrs mem attrs info).dstAddr.v6 = addrWords mem q ∧
      (foldAttrs mem attrs info).has rtaParamDst = true := by
  have hsplit : ∃ l₁ l₂, attrs = l₁ ++ (rtaDst, q) :: l₂ ∧ ∀ a ∈ l₂, a.1 ≠ rtaDst := by
    obtain ⟨l₁, l₂, rfl, -, -, hnil⟩ := List.filter_eq_cons_iff.mp h
    refine ⟨l₁, l₂, rfl, fun a ha => ?_⟩
    simpa using List.filter_eq_nil_iff.mp hnil a ha
  obtain ⟨l₁, l₂, rfl, hrest⟩ := hsplit
  rw [foldAttrs_append]
  generalize foldAttrs mem l₁ info = info'
  obtain ⟨haddr, hhas⟩ := foldAttrs_none mem hrest (Source.routeAttr mem info' rtaDst q)
  constructor
  · refine (congrArg SockaddrStorage.v6 haddr).trans ?_
    exact v6_eq_addrWords mem q _
  · refine hhas.trans ?_
    rw [has_rtaParamDst]
    simp [Source.routeAttr, rtaDst, rtaParamDst]

theorem foldAttrs_has_iff (attrs : List (Nat × Nat)) (info : RouteInfo) :
    (foldAttrs mem attrs info).has rtaParamDst = true ↔
      info.has rtaParamDst = true ∨ ∃ q, (rtaDst, q) ∈ attrs := by
  induction attrs generalizing info with
  | nil => simp [foldAttrs]
  | cons a attrs ih =>
    obtain ⟨kind, q⟩ := a
    refine (ih _).trans ?_
    by_cases hkind : kind = rtaDst
    · subst hkind
      have hset : (Source.routeAttr mem info rtaDst q).has rtaParamDst = true := by
        rw [has_rtaParamDst]
        simp [Source.routeAttr, rtaDst, rtaParamDst]
      exact ⟨fun _ => .inr ⟨q, List.mem_cons_self ..⟩, fun _ => .inl hset⟩
    · rw [(routeAttr_dst mem info q hkind).2]
      refine or_congr_right (exists_congr fun p => ?_)
      rw [List.mem_cons, Prod.mk.injEq]
      exact ⟨.inr, fun h => h.resolve_left fun h' => hkind h'.1.symm⟩

end Fold

/-- What the decoder has in the end. -/
def decodedRoute (mem : Memory) (attrs : List (Nat × Nat)) : RouteInfo :=
  foldAttrs mem attrs { NlMsg.zero.nlRouteInfo with metainfo := rtmOf mem }

variable {attrs : List (Nat × Nat)} {q : Nat}

theorem decodedRoute_metainfo : (decodedRoute mem attrs).metainfo = rtmOf mem :=
  foldAttrs_metainfo mem attrs _

theorem decodedRoute_dst (hdst : DstAt attrs q) :
    (decodedRoute mem attrs).dstAddr.v6 = addrWords mem q ∧
      (decodedRoute mem attrs).has rtaParamDst = true :=
  foldAttrs_dst mem hdst _

theorem decodedRoute_has_iff :
    (decodedRoute mem attrs).has rtaParamDst = true ↔ ∃ q, (rtaDst, q) ∈ attrs := by
  refine (foldAttrs_has_iff mem attrs _).trans ⟨fun h => h.resolve_left ?_, .inr⟩
  simp [has_rtaParamDst, NlMsg.zero]

theorem isDefault_iff (attrs : List (Nat × Nat)) (hp : BootOrRa mem) :
    (decodedRoute mem attrs).isDefault = true ↔
      (rtmOf mem).rtmType = 1 ∧ (rtmOf mem).rtmScope = 0 ∧ (rtmOf mem).rtmTable = 254 := by
  have hprotocol : (rtmOf mem).rtmProtocol = 3 ∨ (rtmOf mem).rtmProtocol = 9 := hp
  rw [RouteInfo.isDefault, decodedRoute_metainfo, decide_eq_true_iff]
  constructor
  · intro ⟨ht, _, hs, htab⟩
    exact ⟨ht, hs, htab⟩
  · intro ⟨ht, hs, htab⟩
    exact ⟨ht, hprotocol, hs, htab⟩

theorem not_isV6Kernel (attrs : List (Nat × Nat)) (hp : BootOrRa mem) :
    (decodedRoute mem attrs).isV6Kernel = false := by
  have hprotocol : (rtmOf mem).rtmProtocol = 3 ∨ (rtmOf mem).rtmProtocol = 9 := hp
  rw [RouteInfo.isV6Kernel, decodedRoute_metainfo, decide_eq_false_iff_not]
  omega

namespace RouteMessage

variable (h : RouteMessage mem len attrs)

include h

theorem messages : Messages mem 0 len [0] := by
  have hdvd := h.attrs.fills.dvd
  have hheader := h.header
  have hlen := h.length
  simp only [nlmsghdrSize, Source.rtmsgSize] at *
  have halign : align4 (nlmsgLen mem 0) = len := by
    rw [hlen, align4]
    omega
  refine .cons ⟨?_, ?_, ?_⟩ (by omega) ?_
  · simp only [nlmsghdrSize]
    omega
  · intro hlink
    have htype := h.type
    simp only [rtmNewlink, rtmDellink, rtmNewroute, rtmDelroute] at *
    omega
  · intro hdr hhdr
    obtain rfl : 12 = hdr := by
      rcases h.type with ht | ht <;> rw [ht] at hhdr <;> exact Option.some.inj hhdr
    have hfills := h.attrs.fills
    simp only [nlmsghdrSize, Source.rtmsgSize] at *
    rw [hlen]
    exact ⟨by omega, by simpa using hfills⟩
  · rw [halign, Nat.sub_self]
    exact .nil _

theorem nothingBehind : NothingBehind mem len := by
  intro hdr hhdr
  obtain rfl : 12 = hdr := by
    rcases h.type with ht | ht <;> rw [ht] at hhdr <;> exact Option.some.inj hhdr
  exact h.behind

theorem decodeRtmRoute_eq :
    (ownSource mem 0).decodeRtmRoute mem NlMsg.zero.nlRouteInfo
      = some (decodedRoute mem attrs) := by
  have hmax := h.max
  have hattrs := h.attrs
  simp only [ipaNlMsgMaxLen] at hmax
  simp only [Source.decodeRtmRoute, Source.attrs, Source.data, ownSource, h.length,
    nlmsghdrSize, Source.rtmsgSize, Nat.zero_add] at *
  rw [hattrs.walk_eq _ (by omega)]
  rfl

theorem posted (ifName : Nat → String) :
    ipaNlDecodeNlmsg ifName mem len = some
      (if nlmsgType mem 0 = rtmNewroute then
        (newrouteEvents (decodedRoute mem attrs) [0, 0, 0, 0]).2
      else (delrouteEvents (decodedRoute mem attrs) [0, 0, 0, 0]).2) := by
  have htail : ∀ p ∈ [0].tail, ¬ Known (nlmsgType mem p) :=
    fun p hp => absurd hp List.not_mem_nil
  rw [ipaNlDecodeNlmsg_eq_oneByOne ifName h.messages h.max htail h.nothingBehind, oneByOne,
    List.mapM_cons, decodedAlone, decodeMsg]
  have hdecode := h.decodeRtmRoute_eq
  rcases h.type with ht | ht
  · rw [ht, if_neg (by decide), if_neg (by decide), if_neg (by decide), if_pos rfl, if_pos rfl]
    simp [Decoding.start, hdecode]
  · rw [ht, if_neg (by decide), if_neg (by decide), if_neg (by decide), if_neg (by decide),
      if_pos rfl, if_neg (by decide)]
    simp [Decoding.start, hdecode]

/-! ## The event about the destination -/

theorem isV6Kernel (hk : KernelRoute mem) :
    (decodedRoute mem attrs).isV6Kernel = true ∧
      (decodedRoute mem attrs).isDefault = false := by
  have hfamily := h.family
  have htype := hk.type
  have hprotocol := hk.protocol
  have htable := hk.table
  simp only [RouteInfo.isV6Kernel, RouteInfo.isDefault, decodedRoute_metainfo]
  simp [hfamily, htype, hprotocol, htable]

/-- The word that the rest of a mask goes to. -/
def restWord (mem : Memory) (maskIndex : Nat) : Nat :=
  if nlmsgType mem 0 = rtmNewroute then maskIndex else 0

theorem posted_kernel (ifName : Nat → String) (hk : KernelRoute mem) (hdst : DstAt attrs q) :
    ∃ events, ipaNlDecodeNlmsg ifName mem len = some events ∧
      events.head? = some (routeEvent mem ((decodedRoute mem attrs).prefixV6 (restWord mem))) := by
  refine ⟨_, h.posted ifName, ?_⟩
  obtain ⟨hv6, hdefault⟩ := h.isV6Kernel hk
  have hhas : (decodedRoute mem attrs).has rtaParamDst = true := (decodedRoute_dst hdst).2
  split
  · rename_i ht
    have hrest : restWord mem = id := funext fun i => if_pos ht
    rw [routeEvent, if_pos ht, hrest, newrouteEvents]
    simp [hv6, hdefault, hhas]
  · rename_i ht
    have hrest : restWord mem = fun _ => 0 := funext fun i => if_neg ht
    rw [routeEvent, if_neg ht, hrest, delrouteEvents]
    simp [hv6, hdefault, hhas]

end RouteMessage

/-- The event about the destination of a route of the kernel states the route. -/
def StatesDst (mem : Memory) (q : Nat) (events : List NlEvent) : Prop :=
  ∃ data, events.head? = some (routeEvent mem data) ∧ StatesRoute mem q data

/-- The event is about a route, and is posted as IPv6. -/
def NlEvent.RouteV6 : NlEvent → Prop
  | .routeAdd data => data.isV4 = false
  | .routeDel data => data.isV4 = false
  | _ => False

theorem routeEvent_inj {data data' : EventAddr}
    (h : routeEvent mem data = routeEvent mem data') : data = data' := by
  unfold routeEvent at h
  split at h
  · exact NlEvent.routeAdd.inj h
  · exact NlEvent.routeDel.inj h

section

variable (h : RouteMessage mem len attrs) (hk : KernelRoute mem) (hdst : DstAt attrs q)
  (hn : (rtmOf mem).rtmDstLen ≤ 128)

include h hk hdst hn

theorem statesDst_iff {events : List NlEvent}
    (hevents : ipaNlDecodeNlmsg ifName mem len = some events) :
    StatesDst mem q events ↔
      (rtmOf mem).rtmDstLen = 128 ∨
        nlmsgType mem 0 = rtmNewroute ∧ 32 ∣ (rtmOf mem).rtmDstLen := by
  obtain ⟨events', hevents', hhead⟩ := h.posted_kernel ifName hk hdst
  obtain rfl : events' = events := Option.some.inj (hevents'.symm.trans hevents)
  have hwords : StatesDst mem q events' ↔ maskWords (RouteMessage.restWord mem)
      (rtmOf mem).rtmDstLen = (prefixMask (rtmOf mem).rtmDstLen).map some := by
    have hmask : ((decodedRoute mem attrs).prefixV6 (RouteMessage.restWord mem)).ipv6AddrMask
        = maskWords (RouteMessage.restWord mem) (rtmOf mem).rtmDstLen := by
      rw [RouteInfo.prefixV6, decodedRoute_metainfo]
    constructor
    · intro ⟨data, hdata, hstates⟩
      obtain rfl := routeEvent_inj (Option.some.inj (hhead.symm.trans hdata))
      obtain ⟨words, hw, hmaskOf⟩ := hstates.mask
      rw [maskOf_iff.mp hmaskOf] at hw
      exact hmask.symm.trans hw
    · intro hw
      refine ⟨_, hhead, rfl, ?_, prefixMask (rtmOf mem).rtmDstLen, hmask.trans hw,
        maskOf_iff.mpr rfl⟩
      exact congrArg some (decodedRoute_dst hdst).1
  rw [hwords]
  by_cases ht : nlmsgType mem 0 = rtmNewroute
  · have hrest : RouteMessage.restWord mem = id := funext fun i => if_pos ht
    rw [hrest, maskWords_add_iff hn]
    constructor
    · intro hdvd
      exact .inr ⟨ht, hdvd⟩
    · rintro (h128 | ⟨-, hdvd⟩)
      · omega
      · exact hdvd
  · have hrest : RouteMessage.restWord mem = fun _ => 0 := funext fun i => if_neg ht
    rw [hrest, maskWords_del_iff hn]
    constructor
    · exact .inl
    · rintro (h128 | ⟨ht', -⟩)
      · exact h128
      · exact absurd ht' ht

end

theorem routeV6_iff (h : RouteMessage mem len attrs) (hp : BootOrRa mem)
    {events : List NlEvent} (hevents : ipaNlDecodeNlmsg ifName mem len = some events) :
    (∀ e ∈ events, e.RouteV6) ↔
      ¬ ((rtmOf mem).rtmType = 1 ∧ (rtmOf mem).rtmScope = 0 ∧ (rtmOf mem).rtmTable = 254 ∧
        ∃ q, (rtaDst, q) ∈ attrs) := by
  obtain rfl := Option.some.inj ((h.posted ifName).symm.trans hevents)
  have hdef := isDefault_iff attrs hp
  have hkernel := not_isV6Kernel attrs hp
  have hfamily : (decodedRoute mem attrs).metainfo.rtmFamily = afInet6 := by
    rw [decodedRoute_metainfo]
    exact h.family
  rw [← decodedRoute_has_iff]
  by_cases hdefault : (decodedRoute mem attrs).isDefault = true
  · have hroute := hdef.mp hdefault
    by_cases hhas : (decodedRoute mem attrs).has rtaParamDst = true
    · refine iff_of_false (fun hv6 => ?_) (fun hn => hn ⟨hroute.1, hroute.2.1, hroute.2.2, hhas⟩)
      split at hv6
      · simp [newrouteEvents, hdefault, hhas, hkernel, NlEvent.RouteV6, EventAddr.new] at hv6
      · simp [delrouteEvents, hdefault, hhas, hkernel, NlEvent.RouteV6, EventAddr.new] at hv6
    · refine iff_of_true (fun e he => ?_) (fun hn => hhas hn.2.2.2)
      split at he
      · simp [newrouteEvents, hdefault, hhas, hkernel, hfamily] at he
        subst he
        rfl
      · simp [delrouteEvents, hdefault, hhas, hkernel, hfamily] at he
        subst he
        rfl
  · refine iff_of_true (fun e he => ?_)
      (fun hn => hdefault (hdef.mpr ⟨hn.1, hn.2.1, hn.2.2.1⟩))
    split at he
    · simp [newrouteEvents, hdefault, hkernel] at he
    · simp [delrouteEvents, hdefault, hkernel] at he

/-! ## An addition and its deletion -/

/-- The second message deletes the route of the kernel that the first one adds. -/
structure DeletesRoute (mem mem' : Memory) (q q' : Nat) : Prop where
  add : nlmsgType mem 0 = rtmNewroute
  del : nlmsgType mem' 0 = rtmDelroute
  kernel : KernelRoute mem
  kernel' : KernelRoute mem'
  dstLen : (rtmOf mem').rtmDstLen = (rtmOf mem).rtmDstLen
  dst : addrWords mem' q' = addrWords mem q

/-- The events about the destinations have the same address and the same mask. -/
def SameDst (events events' : List NlEvent) : Prop :=
  ∃ data data', ∃ words : List Nat, events.head? = some (.routeAdd data) ∧
    events'.head? = some (.routeDel data') ∧ data.ipv6Addr = data'.ipv6Addr ∧
    data.ipv6AddrMask = words.map some ∧ data'.ipv6AddrMask = words.map some

variable {mem' : Memory} {len' q' : Nat} {attrs' : List (Nat × Nat)}

theorem sameDst_iff (h : RouteMessage mem len attrs) (h' : RouteMessage mem' len' attrs')
    (hdst : DstAt attrs q) (hdst' : DstAt attrs' q') (hdel : DeletesRoute mem mem' q q')
    (hn : (rtmOf mem).rtmDstLen ≤ 128) {events events' : List NlEvent}
    (hevents : ipaNlDecodeNlmsg ifName mem len = some events)
    (hevents' : ipaNlDecodeNlmsg ifName mem' len' = some events') :
    SameDst events events' ↔ (rtmOf mem).rtmDstLen = 128 := by
  have hnot : nlmsgType mem' 0 ≠ rtmNewroute := by
    rw [hdel.del]
    decide
  have hn' : (rtmOf mem').rtmDstLen ≤ 128 := by
    rw [hdel.dstLen]
    exact hn
  constructor
  · intro hsame
    obtain ⟨data, data', words, -, hhead', -, -, hmask'⟩ := hsame
    obtain ⟨events'', hevents'', hhead''⟩ := h'.posted_kernel ifName hdel.kernel' hdst'
    obtain rfl : events'' = events' := Option.some.inj (hevents''.symm.trans hevents')
    have hdata : data' = (decodedRoute mem' attrs').prefixV6 (RouteMessage.restWord mem') := by
      refine @routeEvent_inj mem' _ _ ?_
      rw [routeEvent, if_neg hnot]
      exact Option.some.inj (hhead'.symm.trans hhead'')
    have hrest : RouteMessage.restWord mem' = fun _ => 0 := funext fun i => if_neg hnot
    rw [hdata, RouteInfo.prefixV6, decodedRoute_metainfo, hrest] at hmask'
    rw [← hdel.dstLen]
    refine eq_of_none_notMem_maskWords_del hn' fun hnone => ?_
    have hmem : none ∈ words.map some := hmask' ▸ hnone
    simp at hmem
  · intro h128
    obtain ⟨data, hhead, hstates⟩ :=
      (statesDst_iff h hdel.kernel hdst hn hevents).mpr (.inl h128)
    obtain ⟨data', hhead', hstates'⟩ :=
      (statesDst_iff h' hdel.kernel' hdst' hn' hevents').mpr (.inl (hdel.dstLen.trans h128))
    rw [routeEvent, if_pos hdel.add] at hhead
    rw [routeEvent, if_neg hnot] at hhead'
    obtain ⟨words, hw, hmask⟩ := hstates.mask
    obtain ⟨words', hw', hmask'⟩ := hstates'.mask
    rw [hdel.dstLen] at hmask'
    have hsame : words' = words := (maskOf_iff.mp hmask').trans (maskOf_iff.mp hmask).symm
    refine ⟨data, data', words, hhead, hhead', ?_, hw, hsame ▸ hw'⟩
    rw [hstates.addr, hstates'.addr, hdel.dst]

/-- When the events of a message state its route: with a mask that the turn leaves as it
is, and for a deletion a full one; and never as IPv6 where a user or a router gave the
destination. -/
theorem ipaNlDecodeNlmsg_route_iff (ifName : Nat → String)
    (h : RouteMessage mem len attrs) :
    ∃ events, ipaNlDecodeNlmsg ifName mem len = some events ∧
      (∀ q, KernelRoute mem → DstAt attrs q → (rtmOf mem).rtmDstLen ≤ 128 →
        (StatesDst mem q events ↔ (rtmOf mem).rtmDstLen = 128 ∨
          nlmsgType mem 0 = rtmNewroute ∧ 32 ∣ (rtmOf mem).rtmDstLen)) ∧
      (∀ mem' len' attrs' q q', RouteMessage mem' len' attrs' →
        DstAt attrs q → DstAt attrs' q' → DeletesRoute mem mem' q q' →
        (rtmOf mem).rtmDstLen ≤ 128 →
        ∃ events', ipaNlDecodeNlmsg ifName mem' len' = some events' ∧
          (SameDst events events' ↔ (rtmOf mem).rtmDstLen = 128)) ∧
      (BootOrRa mem →
        ((∀ e ∈ events, e.RouteV6) ↔
          ¬ ((rtmOf mem).rtmType = 1 ∧ (rtmOf mem).rtmScope = 0 ∧
            (rtmOf mem).rtmTable = 254 ∧ ∃ q, (rtaDst, q) ∈ attrs))) := by
  have hevents := h.posted ifName
  refine ⟨_, hevents, ?_, ?_, ?_⟩
  · intro q hk hdst hn
    exact statesDst_iff h hk hdst hn hevents
  · intro mem' len' attrs' q q' h' hdst hdst' hdel hn
    have hevents' := h'.posted ifName
    exact ⟨_, hevents', sameDst_iff h h' hdst hdst' hdel hn hevents hevents'⟩
  · intro hp
    exact routeV6_iff h hp hevents

/-! ## A route of eight bits -/

/-- The kernel adds the route to multicast addresses, on interface 3. -/
def multicastRoute : Memory :=
  bufferOf ([56, 0, 0, 0, 24, 0, 0, 0, 0, 0, 0, 0, 0, 0, 0, 0,
    10, 8, 0, 0, 254, 2, 0, 1, 0, 0, 0, 0,
    20, 0, 1, 0, 0xFF, 0, 0, 0, 0, 0, 0, 0, 0, 0, 0, 0, 0, 0, 0, 0, 8, 0, 4, 0, 3, 0, 0, 0])

/-- Its attributes: the destination and the interface. -/
def multicastAttrs : List (Nat × Nat) := [(1, 32), (4, 52)]

theorem multicastRoute_message : RouteMessage multicastRoute 56 multicastAttrs where
  type := .inl rfl
  length := rfl
  header := by decide
  max := by decide
  attrs :=
    have hoif : Records multicastRoute 48 8 [(4, 52)] :=
      .cons (by decide) (by decide) (.nil 56)
    have hall : Records multicastRoute 28 28 multicastAttrs :=
      .cons (by decide) (by decide) hoif
    hall
  behind := by decide
  family := rfl

theorem multicastRoute_posted :
    ipaNlDecodeNlmsg (fun _ => "rmnet_data0") multicastRoute 56 =
      some [.routeAdd { EventAddr.new false 3 with
        ipv6Addr := some [0xFF000000, 0, 0, 0]
        ipv6AddrMask := [some 0xFF, some 0, some 0, some 0] }] := by
  decide +kernel

/-- The mask posted is not that of eight bits. -/
theorem multicastRoute_not_statesDst :
    RouteMessage multicastRoute 56 multicastAttrs ∧
      KernelRoute multicastRoute ∧ DstAt multicastAttrs 32 ∧
      (rtmOf multicastRoute).rtmDstLen = 8 ∧
      ¬ ∃ events, ipaNlDecodeNlmsg (fun _ => "rmnet_data0") multicastRoute 56 =
        some events ∧ StatesDst multicastRoute 32 events := by
  refine ⟨multicastRoute_message, ⟨rfl, rfl, rfl⟩, rfl, rfl, ?_⟩
  intro ⟨events, hevents, data, hhead, hstates⟩
  obtain rfl := Option.some.inj (multicastRoute_posted.symm.trans hevents)
  obtain ⟨words, hw, hmask⟩ := hstates.mask
  rw [← NlEvent.routeAdd.inj (Option.some.inj hhead), maskOf_iff.mp hmask] at hw
  exact absurd hw (by decide)

theorem ipaNlDecodeNlmsg_route_iff_multicastRoute :
    ∃ events, ipaNlDecodeNlmsg (fun _ => "rmnet_data0") multicastRoute 56 = some events ∧
      (StatesDst multicastRoute 32 events ↔ (rtmOf multicastRoute).rtmDstLen = 128 ∨
        nlmsgType multicastRoute 0 = rtmNewroute ∧
          32 ∣ (rtmOf multicastRoute).rtmDstLen) := by
  obtain ⟨events, hevents, hkernel, -, -⟩ :=
    ipaNlDecodeNlmsg_route_iff (fun _ => "rmnet_data0") multicastRoute_message
  exact ⟨events, hevents, hkernel 32 ⟨rfl, rfl, rfl⟩ rfl (by decide)⟩

end Axon7.Netlink
