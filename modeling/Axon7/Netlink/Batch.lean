import Axon7.Netlink.Decode

/-!
# Several messages in one read

When the kernel puts several messages into one buffer, the decoders still read the first
header. What is posted is right if only the first message is one that the function knows:
the others then look like attributes of a kind that no decoder knows, and what lies
behind the buffer must not look like an attribute either, since the decoders forget to
take off the family's header.
-/

namespace Axon7.Netlink

open Axon7.Lib

/-- `IPA_NL_MSG_MAX_LEN`: no more than that is received. -/
def ipaNlMsgMaxLen : Nat := 2048

/-- The size of the family's header, where a decoder steps over attributes. -/
def familyHeader (type : Nat) : Option Nat :=
  if type = rtmNewaddr then some Source.ifaddrmsgSize
  else if type = rtmNewroute ∨ type = rtmDelroute then some Source.rtmsgSize
  else if type = rtmNewneigh ∨ type = rtmDelneigh then some Source.ndmsgSize
  else none

/-- The messages that the function knows. -/
def Known (type : Nat) : Prop :=
  type = rtmNewlink ∨ type = rtmDellink ∨ (familyHeader type).isSome

instance (type : Nat) : Decidable (Known type) := inferInstanceAs (Decidable (_ ∨ _))

/-- `sizeof(struct ifinfomsg)`. -/
def ifinfomsgSize : Nat := 16

/-- A well-formed message: the family's header is inside its length, and attributes fill
the rest. -/
structure WellFormed (mem : Memory) (nlh : Nat) : Prop where
  header : nlmsghdrSize ≤ nlmsgLen mem nlh
  link : nlmsgType mem nlh = rtmNewlink ∨ nlmsgType mem nlh = rtmDellink →
    nlmsghdrSize + ifinfomsgSize ≤ nlmsgLen mem nlh
  attrs : ∀ hdr, familyHeader (nlmsgType mem nlh) = some hdr →
    nlmsghdrSize + hdr ≤ nlmsgLen mem nlh ∧
      Fills mem (fun _ => True) (nlh + nlmsghdrSize + hdr)
        (nlmsgLen mem nlh - nlmsghdrSize - hdr)

/-- Well-formed messages, one behind the other, with these headers. -/
inductive Messages (mem : Memory) : Nat → Nat → List Nat → Prop
  | nil (nlh : Nat) : Messages mem nlh 0 []
  | cons {nlh len : Nat} {headers : List Nat} (hmsg : WellFormed mem nlh)
      (hfit : align4 (nlmsgLen mem nlh) ≤ len)
      (hrest : Messages mem (nlh + align4 (nlmsgLen mem nlh))
        (len - align4 (nlmsgLen mem nlh)) headers) : Messages mem nlh len (nlh :: headers)

variable {mem : Memory} {ifName : Nat → String} {nlh len : Nat} {headers : List Nat}

/-! ## Messages taken for attributes -/

theorem nlmsgLen_eq (h : nlmsgLen mem nlh ≤ ipaNlMsgMaxLen) :
    mem.u16 nlh = nlmsgLen mem nlh ∧ mem.u16 (nlh + 2) = 0 := by
  have hlow := mem.u16_lt nlh
  simp only [nlmsgLen, Memory.u32, ipaNlMsgMaxLen] at *
  omega

theorem Messages.fills (h : Messages mem nlh len headers) (hmax : len ≤ ipaNlMsgMaxLen) :
    Fills mem (· = 0) nlh len := by
  induction h with
  | nil nlh => exact .nil nlh
  | @cons nlh len headers hmsg hfit hrest ih =>
    have hle := le_align4 (nlmsgLen mem nlh)
    obtain ⟨hlen, hkind⟩ : mem.u16 nlh = nlmsgLen mem nlh ∧ mem.u16 (nlh + 2) = 0 :=
      nlmsgLen_eq (by omega)
    have hhdr : 16 ≤ nlmsgLen mem nlh := hmsg.header
    refine .cons (by omega) hkind (by rwa [hlen]) ?_
    rw [hlen]
    exact ih (by omega)

theorem addrAttr_zero (info : AddrInfo) (p : Nat) : Source.addrAttr mem info 0 p = info := rfl

theorem neighAttr_zero (info : NeighInfo) (p : Nat) : Source.neighAttr mem info 0 p = info :=
  rfl

theorem routeAttr_zero (info : RouteInfo) (p : Nat) : Source.routeAttr mem info 0 p = info :=
  rfl

section Attrs

variable {σ : Type} {step : σ → Nat → Nat → σ} (hzero : ∀ info p, step info 0 p = info)
  {hdr : Nat}

include hzero

theorem attrs_bufferSource (hown : Fills mem (fun _ => True) (nlmsghdrSize + hdr)
      (nlmsgLen mem 0 - nlmsghdrSize - hdr))
    (hhdr : nlmsghdrSize + hdr ≤ nlmsgLen mem 0) (h4 : 4 ∣ hdr)
    (hfit : align4 (nlmsgLen mem 0) ≤ len) (hmax : len ≤ ipaNlMsgMaxLen)
    (hrest : Fills mem (· = 0) (align4 (nlmsgLen mem 0)) (len - align4 (nlmsgLen mem 0)))
    (hbehind : ¬ RecordOk mem len hdr) (info : σ) :
    (bufferSource len).attrs mem hdr step info =
      (ownSource mem 0).attrs mem hdr step info := by
  have hdvd := hown.dvd
  have hdvd' := hrest.dvd
  have halign : align4 (nlmsgLen mem 0) = nlmsgLen mem 0 := by
    simp only [nlmsghdrSize, align4] at *
    omega
  rw [halign] at hfit hrest hdvd'
  simp only [nlmsghdrSize, ipaNlMsgMaxLen] at *
  -- the window: the attributes, the other messages, and as much as the family's header
  have hwindow : sub32 len 16 = nlmsgLen mem 0 - 16 - hdr + (len - nlmsgLen mem 0 + hdr) := by
    rw [sub32_eq (by omega) (by omega)]
    omega
  have hothers : ∀ s, walk step mem (nlmsgLen mem 0) (len - nlmsgLen mem 0 + hdr) s =
      some s := by
    intro s
    rw [hrest.walk_add step h4 (by omega),
      hrest.walk_ignored step (by omega) (fun s k q hk => hk ▸ hzero s q), Option.bind_some,
      Nat.add_sub_cancel' hfit]
    exact walk_stop step hbehind
  simp only [Source.attrs, Source.data, bufferSource, ownSource, nlmsghdrSize, Nat.zero_add]
  rw [hwindow, hown.walk_add step (by omega) (by omega),
    show 16 + hdr + (nlmsgLen mem 0 - 16 - hdr) = nlmsgLen mem 0 by omega, funext hothers,
    Option.bind_fun_some]

end Attrs

/-- Behind the buffer nothing looks like an attribute, as far as the decoder of the first
message reads. -/
def NothingBehind (mem : Memory) (buflen : Nat) : Prop :=
  ∀ hdr ∈ familyHeader (nlmsgType mem 0), ¬ RecordOk mem buflen hdr

/-! ## The first message -/

section First

variable (h : Messages mem 0 len (0 :: headers)) (hmax : len ≤ ipaNlMsgMaxLen)
  (hbehind : NothingBehind mem len)

include h hmax hbehind

theorem attrs_first {σ : Type} {step : σ → Nat → Nat → σ} {hdr : Nat}
    (hzero : ∀ info p, step info 0 p = info)
    (hhdr : familyHeader (nlmsgType mem 0) = some hdr) (h4 : 4 ∣ hdr) (info : σ) :
    (bufferSource len).attrs mem hdr step info =
      (ownSource mem 0).attrs mem hdr step info := by
  cases h with
  | cons hmsg hfit hrest =>
    obtain ⟨hlen, hown⟩ := hmsg.attrs hdr hhdr
    rw [Nat.zero_add] at hown hrest
    exact attrs_bufferSource hzero hown hlen h4 hfit hmax
      (hrest.fills (Nat.le_trans (Nat.sub_le _ _) hmax)) (hbehind hdr hhdr) info

theorem decodeMsg_first (d : Decoding) :
    decodeMsg ifName mem (bufferSource len) (nlmsgType mem 0) d =
      decodeMsg ifName mem (ownSource mem 0) (nlmsgType mem 0) d := by
  have hdata : (bufferSource len).data = (ownSource mem 0).data := by
    simp only [Source.data, bufferSource, ownSource]
  have hlink : (bufferSource len).decodeRtmLink mem = (ownSource mem 0).decodeRtmLink mem := by
    simp only [Source.decodeRtmLink, hdata]
  have haddr (ht : nlmsgType mem 0 = rtmNewaddr) (info : AddrInfo) :
      (bufferSource len).decodeRtmAddr mem info = (ownSource mem 0).decodeRtmAddr mem info := by
    simp only [Source.decodeRtmAddr, hdata]
    exact attrs_first h hmax hbehind addrAttr_zero (by rw [ht]; rfl) (by decide) _
  have hroute (ht : nlmsgType mem 0 = rtmNewroute ∨ nlmsgType mem 0 = rtmDelroute)
      (info : RouteInfo) :
      (bufferSource len).decodeRtmRoute mem info =
        (ownSource mem 0).decodeRtmRoute mem info := by
    have hhdr : familyHeader (nlmsgType mem 0) = some Source.rtmsgSize := by
      rcases ht with ht | ht <;> rw [ht] <;> rfl
    simp only [Source.decodeRtmRoute, hdata]
    exact attrs_first h hmax hbehind routeAttr_zero hhdr (by decide) _
  have hneigh (ht : nlmsgType mem 0 = rtmNewneigh ∨ nlmsgType mem 0 = rtmDelneigh)
      (info : NeighInfo) :
      (bufferSource len).decodeRtmNeigh mem info =
        (ownSource mem 0).decodeRtmNeigh mem info := by
    have hhdr : familyHeader (nlmsgType mem 0) = some Source.ndmsgSize := by
      rcases ht with ht | ht <;> rw [ht] <;> rfl
    simp only [Source.decodeRtmNeigh, hdata]
    exact attrs_first h hmax hbehind neighAttr_zero hhdr (by decide) _
  simp only [decodeMsg, hlink]
  -- the links read no attributes, the other four kinds do
  split_ifs with _ _ _ _ hnewaddr hnewroute hdelroute hnewneigh hdelneigh
  iterate 4 rfl
  · rw [haddr hnewaddr]
  · rw [hroute (.inl hnewroute)]
  · rw [hroute (.inr hdelroute)]
  · rw [hneigh (.inl hnewneigh)]
  · rw [hneigh (.inr hdelneigh)]
  · rfl

end First

/-! ## Messages that the function does not know -/

theorem decodeMsg_ignored {src : Source} {type : Nat} (h : ¬ Known type) (d : Decoding) :
    decodeMsg ifName mem src type d = some (d, true) := by
  obtain ⟨hnew, hdel, hfam⟩ : type ≠ rtmNewlink ∧ type ≠ rtmDellink ∧
      familyHeader type = none := by
    simpa [Known] using h
  have hrest : type ≠ rtmNewaddr ∧ type ≠ rtmNewroute ∧ type ≠ rtmDelroute ∧
      type ≠ rtmNewneigh ∧ type ≠ rtmDelneigh := by
    refine ⟨?_, ?_, ?_, ?_, ?_⟩ <;> rintro rfl <;> exact absurd hfam (by decide)
  obtain ⟨haddr, hroute, hroute', hneigh, hneigh'⟩ := hrest
  rw [decodeMsg, if_neg hnew, if_neg hdel, if_neg haddr, if_neg hroute, if_neg hroute',
    if_neg hneigh, if_neg hneigh']

theorem decodeLoop_ignored (h : Messages mem nlh len headers) (hlen : len < 2 ^ 32)
    (hignored : ∀ p ∈ headers, ¬ Known (nlmsgType mem p)) {fuel : Nat} (hfuel : len < fuel)
    (d : Decoding) : decodeLoop ifName mem fuel nlh len d = some d := by
  induction h generalizing fuel with
  | nil nlh =>
    obtain ⟨fuel, rfl⟩ : ∃ f, fuel = f + 1 := ⟨fuel - 1, by omega⟩
    exact if_neg fun hok => absurd hok.1 (by decide)
  | @cons nlh len headers hmsg hfit hrest ih =>
    obtain ⟨fuel, rfl⟩ : ∃ f, fuel = f + 1 := ⟨fuel - 1, by omega⟩
    have hhdr : 16 ≤ nlmsgLen mem nlh := hmsg.header
    have hle := le_align4 (nlmsgLen mem nlh)
    have hok : NlmsgOk mem nlh len :=
      ⟨by simp only [nlmsghdrSize]; omega, hmsg.header, by omega⟩
    rw [decodeLoop, if_pos hok, decodeMsg_ignored (hignored nlh (List.mem_cons_self ..)),
      Option.bind_some]
    dsimp only
    rw [if_pos rfl, sub32_eq hfit hlen]
    exact ih (by omega) (fun p hp => hignored p (List.mem_cons_of_mem _ hp)) (by omega)

theorem decodedAlone_ignored (hignored : ∀ p ∈ headers, ¬ Known (nlmsgType mem p)) :
    headers.mapM (decodedAlone ifName mem) = some (headers.map fun _ => []) := by
  induction headers with
  | nil => rfl
  | cons p headers ih =>
    have hp : decodedAlone ifName mem p = some [] := by
      rw [decodedAlone, decodeMsg_ignored (hignored p (List.mem_cons_self ..))]
      rfl
    rw [List.mapM_cons, hp, ih fun q hq => hignored q (List.mem_cons_of_mem _ hq)]
    rfl

/-! ## The buffer -/

/-- What the messages post, each decoded alone. -/
def oneByOne (ifName : Nat → String) (mem : Memory) (headers : List Nat) :
    Option (List NlEvent) :=
  (headers.mapM (decodedAlone ifName mem)).map List.flatten

/-- If only the first message is one that the function knows, and nothing behind the
buffer looks like an attribute, what is posted is what the messages post one by one. -/
theorem ipaNlDecodeNlmsg_eq_oneByOne (ifName : Nat → String)
    (h : Messages mem 0 len headers) (hmax : len ≤ ipaNlMsgMaxLen)
    (hfirst : ∀ p ∈ headers.tail, ¬ Known (nlmsgType mem p))
    (hbehind : NothingBehind mem len) :
    ipaNlDecodeNlmsg ifName mem len = oneByOne ifName mem headers := by
  cases h with
  | nil => rfl
  | @cons _ _ headers hmsg hfit hrest =>
    change ∀ p ∈ headers, ¬ Known (nlmsgType mem p) at hfirst
    have hlen : len < 2 ^ 32 := by simp only [ipaNlMsgMaxLen] at hmax; omega
    have hhdr : 16 ≤ nlmsgLen mem 0 := hmsg.header
    have hle := le_align4 (nlmsgLen mem 0)
    have hok : NlmsgOk mem 0 len :=
      ⟨by simp only [nlmsghdrSize]; omega, hmsg.header, by omega⟩
    rw [oneByOne, List.mapM_cons, decodedAlone_ignored hfirst, decodedAlone,
      ipaNlDecodeNlmsg, decodeLoop, if_pos hok,
      decodeMsg_first (.cons hmsg hfit hrest) hmax hbehind]
    cases decodeMsg ifName mem (ownSource mem 0) (nlmsgType mem 0) .start with
    | none => rfl
    | some result =>
      obtain ⟨d, goesOn⟩ := result
      have hpost : ([d.posted] ++ headers.map fun _ => []).flatten = d.posted := by
        simp
      have hloop : decodeLoop ifName mem len (0 + align4 (nlmsgLen mem 0))
          (len - align4 (nlmsgLen mem 0)) d = some d :=
        decodeLoop_ignored hrest (by omega) hfirst (by omega) d
      cases goesOn with
      | false => exact congrArg some hpost.symm
      | true =>
        rw [Option.bind_some]
        dsimp only
        rw [if_pos rfl, sub32_eq hfit hlen, hloop]
        exact congrArg some hpost.symm

/-! ## Two addresses in one read -/

/-- A message about an address of interface 3, 32 bytes long: its type, and the address. -/
def addressBytes (type : Byte) (addr : List Byte) : List Byte :=
  [32, 0, 0, 0, type, 0, 0, 0, 0, 0, 0, 0, 0, 0, 0, 0, 2, 24, 0, 0, 3, 0, 0, 0, 8, 0, 1, 0] ++
    addr

/-- A buffer, with zeros behind. -/
def bufferOf (bytes : List Byte) : Memory := fun p => bytes.getD p 0

/-- An address is new, and another message says that it is gone. -/
def addrThenDeladdr : Memory :=
  bufferOf (addressBytes 20 [10, 0, 0, 1] ++ addressBytes 21 [10, 0, 0, 1])

/-- The interface gets two addresses. -/
def twoAddrs : Memory :=
  bufferOf (addressBytes 20 [10, 0, 0, 1] ++ addressBytes 20 [10, 0, 0, 2])

theorem messages_addrThenDeladdr : Messages addrThenDeladdr 0 64 [0, 32] := by
  have hattr : Fills addrThenDeladdr (fun _ => True) 24 8 :=
    .cons (by decide) trivial (by decide) (.nil 32)
  refine .cons ⟨by decide, by decide, fun hdr hhdr => ?_⟩ (by decide)
    (.cons ⟨by decide, by decide, fun hdr hhdr => absurd hhdr ?_⟩ (by decide) (.nil 64))
  · obtain rfl : 8 = hdr := Option.some.inj hhdr
    exact ⟨by decide, hattr⟩
  · rw [show familyHeader (nlmsgType addrThenDeladdr _) = none by decide]
    simp

theorem messages_twoAddrs : Messages twoAddrs 0 64 [0, 32] := by
  have hattr : Fills twoAddrs (fun _ => True) 24 8 :=
    .cons (by decide) trivial (by decide) (.nil 32)
  have hattr' : Fills twoAddrs (fun _ => True) 56 8 :=
    .cons (by decide) trivial (by decide) (.nil 64)
  refine .cons ⟨by decide, by decide, fun hdr hhdr => ?_⟩ (by decide)
    (.cons ⟨by decide, by decide, fun hdr hhdr => ?_⟩ (by decide) (.nil 64))
  · obtain rfl : 8 = hdr := Option.some.inj hhdr
    exact ⟨by decide, hattr⟩
  · obtain rfl : 8 = hdr := Option.some.inj hhdr
    exact ⟨by decide, hattr'⟩

theorem addrThenDeladdr_eq_oneByOne :
    ipaNlDecodeNlmsg (fun _ => "rmnet_data0") addrThenDeladdr 64 =
      oneByOne (fun _ => "rmnet_data0") addrThenDeladdr [0, 32] :=
  ipaNlDecodeNlmsg_eq_oneByOne _ messages_addrThenDeladdr (by decide) (by decide)
    (fun hdr hhdr => by
      obtain rfl : 8 = hdr := Option.some.inj hhdr
      decide)

/-- The event about an address of interface 3. -/
def addressEvent (addr : Nat) : NlEvent :=
  .addrAdd { EventAddr.new true 3 with
    ifaceName := some "rmnet_data0", ipv4Addr := some addr }

/-- Both events have the first address. -/
theorem twoAddrs_not_oneByOne :
    Messages twoAddrs 0 64 [0, 32] ∧ 64 ≤ ipaNlMsgMaxLen ∧
      ipaNlDecodeNlmsg (fun _ => "rmnet_data0") twoAddrs 64 =
        some [addressEvent 0x0A000001, addressEvent 0x0A000001] ∧
      oneByOne (fun _ => "rmnet_data0") twoAddrs [0, 32] =
        some [addressEvent 0x0A000001, addressEvent 0x0A000002] ∧
      addressEvent 0x0A000001 ≠ addressEvent 0x0A000002 :=
  ⟨messages_twoAddrs, by decide, by decide +kernel, by decide +kernel, by decide⟩

end Axon7.Netlink
