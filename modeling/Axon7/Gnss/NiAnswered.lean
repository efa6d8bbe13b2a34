import Axon7.Gnss.NiSound
import Axon7.Lib.Run

/-!
# Requests and their responses

A request that is saved while the thread of the one before has yet to clear the
session loses its id, and a response that finds the request gone is left for the
next one. Where neither happens, and each request comes with data and gets a
thread, every raw request is handed on or freed once, with a response that is for
it, and no response to a request that waits is rejected.
-/

namespace Axon7.Gnss

namespace NiAdapter

variable {a a' : NiAdapter} {n m : ℕ} {r r' : NiRequest} {slot : NiSlot}

/-- What the steps must see to: a request is saved in a session that all threads have cleared,
and gets a thread; a response to a request that waits comes from a client that takes requests,
to one with data; and it is put into a session that still has it. -/
def Undisturbed (a : NiAdapter) : Op → Prop
  | .requestNiNotify hasCallback emergency _ data created =>
    a.proc = .idle → hasCallback = true → ∀ slot ∈ a.freeSlot emergency,
      (∀ r ∈ a.requests, r.slot = slot → r.phase.isOpen = false) ∧
        (data = true → created = true)
  | .gnssNiResponse hasCallback id _ => a.proc = .idle → ∀ r ∈ a.requests,
      r.phase.isWaiting = true → r.reqID = id → hasCallback = true ∧ r.data = true
  | .gnssNiResponseLock =>
    ∀ slot ∈ a.proc.slot, (a.sessions slot).rawRequest ≠ none
  | _ => True

/-! ## The sessions stay sound -/

theorem Sound.same (h : Sound a) (hsessions : a'.sessions = a.sessions)
    (hrequests : a'.requests = a.requests) (hproc : a'.proc = a.proc)
    (hresponses : a'.responses = a.responses) : Sound a' := by
  have hnamed : ∀ {slot id response}, Named a slot id response →
      Named a' slot id response := by
    intro slot id response hnamed
    refine ⟨?_, ?_⟩
    · rw [hresponses]
      exact hnamed.given
    · rw [hsessions, hrequests]
      exact hnamed.same
  refine h.withProc hsessions hrequests ?_ ?_ ?_
  · rw [hresponses]
    exact fun _ hgiven => hgiven
  · intro id response heq
    exact hnamed (h.ignoring id response (hproc.symm.trans heq))
  · intro slot id response heq
    exact hnamed (h.responding slot id response (hproc.symm.trans heq))

theorem Sound.requestNiNotify (h : Sound a) (hidle : a.proc = .idle)
    {hasCallback emergency data created : Bool} {timeout : ℕ}
    (hcond : Undisturbed a
      (.requestNiNotify hasCallback emergency timeout data created)) :
    Sound (a.requestNiNotify hasCallback emergency timeout data created) := by
  rw [NiAdapter.requestNiNotify]
  split
  · next hasCallback =>
      split
      · exact h.same rfl rfl rfl rfl
      · next slot hslot =>
          obtain ⟨hopen, hcreated⟩ := hcond hidle hasCallback slot hslot
          exact h.save hidle hopen hcreated
            (fun slot' => Function.update_apply _ _ _ _) rfl rfl rfl rfl
  · exact h

theorem Sound.gnssNiResponse (h : Sound a) (hidle : a.proc = .idle)
    (hasCallback : Bool) (id : ℕ) (response : GnssNiResponse) :
    Sound (a.gnssNiResponse hasCallback id response) := by
  have hmem : ∀ given ∈ a.responses, given ∈ a.responses ++ [(id, response)] :=
    fun given hgiven => List.mem_append_left _ hgiven
  have hlast : (id, response) ∈ a.responses ++ [(id, response)] :=
    List.mem_append_right _ (List.mem_singleton_self _)
  rw [NiAdapter.gnssNiResponse]
  split
  · dsimp only
    split
    · next hes =>
        obtain ⟨raw, hraw⟩ := Option.ne_none_iff_exists'.mp hes.2
        split
        · refine h.withProc rfl rfl hmem (fun id' response' heq => ?_) nofun
          obtain ⟨rfl, rfl⟩ := NiProc.ignoring.inj heq
          exact h.named rfl rfl hlast hraw hes.1
        · refine h.withProc rfl rfl hmem nofun fun slot id' response' heq => ?_
          obtain ⟨rfl, rfl, rfl⟩ := NiProc.responding.inj heq
          exact h.named rfl rfl hlast hraw hes.1
    · split
      · next hsession =>
          obtain ⟨raw, hraw⟩ := Option.ne_none_iff_exists'.mp hsession.2
          refine h.withProc rfl rfl hmem nofun fun slot id' response' heq => ?_
          obtain ⟨rfl, rfl, rfl⟩ := NiProc.responding.inj heq
          exact h.named rfl rfl hlast hraw hsession.1
      · refine h.withProc rfl rfl hmem (fun id' response' heq => ?_)
          fun slot id' response' heq => ?_
        · exact absurd (hidle.symm.trans heq) nofun
        · exact absurd (hidle.symm.trans heq) nofun
  · exact h.same rfl rfl rfl rfl

theorem Sound.gnssNiResponseLock (h : Sound a)
    (hcond : Undisturbed a .gnssNiResponseLock) : Sound a.gnssNiResponseLock := by
  rw [NiAdapter.gnssNiResponseLock]
  split
  · exact h
  · next id response hproc =>
      have hraw := hcond .session (by rw [hproc]; rfl)
      obtain ⟨raw, hraw⟩ := Option.ne_none_iff_exists'.mp hraw
      have hsound := h.respond hraw fun _ _ => .inl rfl
      have hnamed := hsound.ignoring id response hproc
      refine hsound.withProc rfl rfl (fun _ hgiven => hgiven) nofun
        fun slot id' response' heq => ?_
      obtain ⟨rfl, rfl, rfl⟩ := NiProc.responding.inj heq
      exact ⟨hnamed.given, hnamed.same⟩
  · next slot id response hproc =>
      have hraw := hcond slot (by rw [hproc]; rfl)
      obtain ⟨raw, hraw⟩ := Option.ne_none_iff_exists'.mp hraw
      have hnamed := h.responding slot id response hproc
      have hsound := h.respond hraw fun r hr => .inr (by
        rw [hnamed.same raw r hraw hr]
        exact hnamed.given)
      exact hsound.withProc rfl rfl (fun _ hgiven => hgiven) nofun nofun

theorem Sound.takeRequest (h : Sound a) (hr : a.requests[n]? = some r)
    (hw : r.phase.isWaiting = true) (timedOut : Bool) :
    Sound (a.takeRequest n r.slot timedOut) := by
  have hopen := NiPhase.isOpen_of_isWaiting hw
  rw [NiAdapter.takeRequest]
  dsimp only
  generalize (if timedOut = true then GnssNiResponse.noResponse
    else (a.sessions r.slot).resp) = resp
  split
  · next hraw => exact h.leave hr hopen hraw rfl rfl
  · next raw hraw =>
      split
      · exact h.leave hr hopen rfl rfl rfl
      · have hsound : Sound ((a.setSession r.slot
            { a.sessions r.slot with
              resp := resp
              respRecvd := false
              rawRequest := none }).setPhase n (.responded none)) :=
          h.leave hr hopen rfl rfl rfl
        exact hsound.same rfl rfl rfl rfl

theorem Sound.step (h : Sound a) {op : Op} (hcond : Undisturbed a op) :
    Sound (a.step op) := by
  cases op with
  | requestNiNotify hasCallback emergency timeout data created =>
    rw [NiAdapter.step]
    split
    · next hidle => exact h.requestNiNotify hidle hcond
    · exact h
  | gnssNiResponse hasCallback id response =>
    rw [NiAdapter.step]
    split
    · next hidle => exact h.gnssNiResponse hidle hasCallback id response
    · exact h
  | gnssNiResponseLock => exact h.gnssNiResponseLock hcond
  | niThreadLock n =>
    rw [NiAdapter.step, niThreadLock]
    split
    · next slot reqID data hr =>
        split
        · exact h.takeRequest hr rfl false
        · exact h.setPhase hr (fun _ => rfl) rfl
    · next slot reqID data hr =>
        split
        · exact h.takeRequest hr rfl false
        · exact h.setPhase hr (fun _ => rfl) rfl
    · exact h
  | niThreadTimeout n =>
    rw [NiAdapter.step, niThreadTimeout]
    split
    · next slot reqID data hr => exact h.takeRequest hr rfl true
    · exact h
  | niThreadClear n =>
    rw [NiAdapter.step, niThreadClear]
    split
    · next slot reqID data hand hr =>
        obtain ⟨hraw, hflag⟩ := h.empty hr rfl rfl
        exact h.leave hr rfl hraw hflag rfl
    · exact h
  | niThreadSend n =>
    rw [NiAdapter.step, niThreadSend]
    split
    · next slot reqID data hand hr =>
        have hsound : Sound (a.setPhase n .done) := h.setPhase hr nofun rfl
        exact hsound.same rfl rfl rfl rfl
    · exact h

/-! ## The account of the raw requests -/

/-- The response comes from the time being up or from a client, for the id of the
request. -/
def Rightful (a : NiAdapter) (r : NiRequest) (hand : NiHand) : Prop :=
  (hand.timedOut = true ∧ hand.resp = .noResponse) ∨
    (r.reqID, hand.resp) ∈ a.responses

/-- The raw request of each request has been handled if its thread is done with
it, and its thread has no other in its hands. -/
structure Accounted (a : NiAdapter) : Prop where
  handled : ∀ (n : ℕ) (r : NiRequest), a.requests[n]? = some r →
    a.handled n = if r.data = true ∧ r.phase.isSettled = true then 1 else 0
  fresh : ∀ n, a.requests.length ≤ n → a.handled n = 0
  hands : ∀ (n : ℕ) (r : NiRequest) (hand : NiHand), a.requests[n]? = some r →
    r.phase.hand = some hand →
      r.data = true ∧ hand.rawRequest = n ∧ Rightful a r hand
  sent : ∀ hand ∈ a.sent, ∃ r, a.requests[hand.rawRequest]? = some r ∧
    Rightful a r hand
  threads : ∀ (n : ℕ) (r : NiRequest), a.requests[n]? = some r →
    r.phase = .absent → r.data = false

theorem accounted_new : Accounted new where
  handled _ _ h := absurd h nofun
  fresh _ _ := rfl
  hands _ _ _ h := absurd h nofun
  sent _ h := absurd h nofun
  threads _ _ h := absurd h nofun

theorem Accounted.same (h : Accounted a) (hrequests : a'.requests = a.requests)
    (hsent : a'.sent = a.sent) (hfreed : a'.freed = a.freed)
    (hresponses : ∀ given ∈ a.responses, given ∈ a'.responses) : Accounted a' := by
  have hhandled : ∀ n, a'.handled n = a.handled n := by
    intro n
    rw [NiAdapter.handled, hsent, hfreed]
    rfl
  have hrightful : ∀ {r hand}, Rightful a r hand → Rightful a' r hand :=
    fun hrightful => hrightful.imp_right (hresponses _)
  refine ⟨?_, ?_, ?_, ?_, ?_⟩
  · rw [hrequests]
    exact fun n r hr => (hhandled n).trans (h.handled n r hr)
  · rw [hrequests]
    exact fun n hn => (hhandled n).trans (h.fresh n hn)
  · rw [hrequests]
    intro n r hand hr hhand
    obtain ⟨hdata, hraw, hright⟩ := h.hands n r hand hr hhand
    exact ⟨hdata, hraw, hrightful hright⟩
  · rw [hrequests, hsent]
    intro hand hmem
    obtain ⟨r, hr, hright⟩ := h.sent hand hmem
    exact ⟨r, hr, hrightful hright⟩
  · rw [hrequests]
    exact h.threads

theorem Accounted.thread (h : Accounted a) {phase : NiPhase}
    (hr : a.requests[n]? = some r)
    (hrequests : a'.requests = (a.setPhase n phase).requests)
    (hresponses : a'.responses = a.responses)
    (hother : ∀ m, m ≠ n → a'.handled m = a.handled m)
    (hself : a'.handled n =
      if r.data = true ∧ phase.isSettled = true then 1 else 0)
    (hhand : ∀ hand, phase.hand = some hand →
      r.data = true ∧ hand.rawRequest = n ∧ Rightful a r hand)
    (hsent : ∀ hand ∈ a'.sent,
      hand ∈ a.sent ∨ (hand.rawRequest = n ∧ Rightful a r hand))
    (habsent : phase ≠ .absent) : Accounted a' := by
  have hof : ∀ {m r'}, a'.requests[m]? = some r' →
      ∃ r : NiRequest, a.requests[m]? = some r ∧ r.withPhase n m phase = r' := by
    intro m r' hr'
    rw [hrequests] at hr'
    exact of_setPhase hr'
  have hto : ∀ {m : ℕ} {r' : NiRequest}, a.requests[m]? = some r' →
      a'.requests[m]? = some (r'.withPhase n m phase) := by
    intro m r' hr'
    rw [hrequests]
    exact to_setPhase phase hr'
  have hrightful : ∀ {m} {r' : NiRequest} {hand}, Rightful a r' hand →
      Rightful a' (r'.withPhase n m phase) hand := by
    intro m r' hand hright
    rw [Rightful, hresponses]
    exact hright
  refine ⟨?_, ?_, ?_, ?_, ?_⟩
  · intro m r' hr'
    obtain ⟨r', hwas, rfl⟩ := hof hr'
    by_cases heq : n = m
    · subst heq
      obtain rfl : r = r' := Option.some.inj (hr.symm.trans hwas)
      rw [hself, NiRequest.withPhase, if_pos rfl]
    · rw [hother m (Ne.symm heq), h.handled m r' hwas, NiRequest.withPhase, if_neg heq]
  · intro m hm
    have hlength : a'.requests.length = a.requests.length := by
      rw [hrequests, NiAdapter.setPhase, List.length_modify]
    rw [hlength] at hm
    have hlt := (List.getElem?_eq_some_iff.mp hr).1
    rw [hother m (by omega)]
    exact h.fresh m hm
  · intro m r' hand hr' hsome
    obtain ⟨r', hwas, rfl⟩ := hof hr'
    by_cases heq : n = m
    · subst heq
      obtain rfl : r = r' := Option.some.inj (hr.symm.trans hwas)
      rw [NiRequest.withPhase, if_pos rfl] at hsome
      obtain ⟨hdata, hraw, hright⟩ := hhand hand hsome
      exact ⟨hdata, hraw, hrightful hright⟩
    · rw [NiRequest.withPhase, if_neg heq] at hsome
      obtain ⟨hdata, hraw, hright⟩ := h.hands m r' hand hwas hsome
      exact ⟨hdata, hraw, hrightful hright⟩
  · intro hand hmem
    obtain hmem | ⟨hraw, hright⟩ := hsent hand hmem
    · obtain ⟨r', hr', hright⟩ := h.sent hand hmem
      exact ⟨_, hto hr', hrightful hright⟩
    · refine ⟨_, hto (hraw ▸ hr), hrightful hright⟩
  · intro m r' hr' hphase
    obtain ⟨r', hwas, rfl⟩ := hof hr'
    by_cases heq : n = m
    · rw [NiRequest.withPhase, if_pos heq] at hphase
      exact absurd hphase habsent
    · rw [NiRequest.withPhase, if_neg heq] at hphase
      exact h.threads m r' hwas hphase

theorem Accounted.save (h : Accounted a) {reqID : ℕ} {data created : Bool}
    (hcreated : data = true → created = true)
    (hrequests : a'.requests = a.requests ++
      [⟨slot, reqID, data, if created then .created else .absent⟩])
    (hsent : a'.sent = a.sent) (hfreed : a'.freed = a.freed)
    (hresponses : a'.responses = a.responses) : Accounted a' := by
  have hhandled : ∀ n, a'.handled n = a.handled n := by
    intro n
    rw [NiAdapter.handled, hsent, hfreed]
    rfl
  have hrightful : ∀ {r hand}, Rightful a r hand → Rightful a' r hand := by
    intro r hand hright
    rw [Rightful, hresponses]
    exact hright
  have hphase : (if created then NiPhase.created else .absent).isSettled = false ∧
      (if created then NiPhase.created else .absent).hand = none := by
    cases created <;> exact ⟨rfl, rfl⟩
  refine ⟨?_, ?_, ?_, ?_, ?_⟩
  · intro n r hr
    rw [hrequests] at hr
    rw [hhandled]
    obtain hr | ⟨rfl, rfl⟩ := of_getElem?_concat hr
    · exact h.handled n r hr
    · rw [hphase.1, h.fresh _ le_rfl, if_neg nofun]
  · intro n hn
    rw [hrequests, List.length_append] at hn
    rw [hhandled]
    exact h.fresh n (by omega)
  · intro n r hand hr hhand
    rw [hrequests] at hr
    obtain hr | ⟨rfl, rfl⟩ := of_getElem?_concat hr
    · obtain ⟨hdata, hraw, hright⟩ := h.hands n r hand hr hhand
      exact ⟨hdata, hraw, hrightful hright⟩
    · exact absurd (hphase.2.symm.trans hhand) nofun
  · rw [hrequests, hsent]
    intro hand hmem
    obtain ⟨r, hr, hright⟩ := h.sent hand hmem
    exact ⟨r, to_getElem?_concat hr, hrightful hright⟩
  · intro n r hr habsent
    rw [hrequests] at hr
    obtain hr | ⟨rfl, rfl⟩ := of_getElem?_concat hr
    · exact h.threads n r hr habsent
    · cases data with
      | false => rfl
      | true =>
        dsimp only at habsent
        rw [hcreated rfl] at habsent
        exact absurd habsent nofun

theorem handled_freed (raw m : ℕ) (a : NiAdapter) :
    handled m { a with freed := a.freed ++ [raw] } =
      a.handled m + if m = raw then 1 else 0 := by
  rw [handled, handled, List.count_append, List.count_singleton]
  simp only [beq_iff_eq, @eq_comm ℕ raw m]
  omega

theorem handled_sent (hand : NiHand) (m : ℕ) (a : NiAdapter) :
    handled m { a with sent := a.sent ++ [hand] } =
      a.handled m + if m = hand.rawRequest then 1 else 0 := by
  rw [handled, handled, List.map_append, List.count_append, List.map_singleton,
    List.count_singleton]
  simp only [beq_iff_eq, @eq_comm ℕ hand.rawRequest m]
  omega

theorem Sound.found (h : Sound a) (hr : a.requests[n]? = some r)
    (hw : r.phase.isWaiting = true) {raw : ℕ}
    (hraw : (a.sessions r.slot).rawRequest = some raw) {timedOut : Bool}
    (hflag : timedOut = false → (a.sessions r.slot).respRecvd = true)
    {resp : GnssNiResponse} (hresp : (if timedOut = true then GnssNiResponse.noResponse
      else (a.sessions r.slot).resp) = resp) :
    raw = n ∧ r.data = true ∧
      (resp ≠ .ignore → Rightful a r ⟨raw, resp, timedOut⟩) := by
  obtain ⟨r', hr', hslot, hw', hdata⟩ := h.raw r.slot raw hraw
  obtain rfl := h.alone n raw r r' hr hr' hslot.symm
    (NiPhase.isOpen_of_isWaiting hw) (NiPhase.isOpen_of_isWaiting hw')
  obtain rfl : r = r' := Option.some.inj (hr.symm.trans hr')
  refine ⟨rfl, hdata, fun hne => ?_⟩
  cases timedOut with
  | true => exact .inl ⟨rfl, hresp.symm⟩
  | false =>
    rw [if_neg Bool.false_ne_true] at hresp
    obtain ⟨m, r', hraw', hr'', hgiven⟩ := h.flag r.slot (hflag rfl)
    obtain rfl : n = m := Option.some.inj (hraw.symm.trans hraw')
    obtain rfl : r = r' := Option.some.inj (hr.symm.trans hr'')
    rw [hresp] at hgiven
    exact .inr (hgiven.resolve_left hne)

theorem Accounted.takeRequest (h : Accounted a) (hs : Sound a)
    (hr : a.requests[n]? = some r) (hw : r.phase.isWaiting = true)
    (timedOut : Bool)
    (hflag : timedOut = false → (a.sessions r.slot).respRecvd = true) :
    Accounted (a.takeRequest n r.slot timedOut) := by
  have hzero : a.handled n = 0 := by
    rw [h.handled n r hr, NiPhase.not_isSettled_of_isWaiting hw,
      if_neg fun hno => absurd hno.2 nofun]
  have hfound := fun {raw} hraw => @Sound.found a n r hs hr hw raw hraw timedOut hflag
  rw [NiAdapter.takeRequest]
  dsimp only
  generalize hresp : (if timedOut = true then GnssNiResponse.noResponse
    else (a.sessions r.slot).resp) = resp
  split
  · next hraw =>
      have hdata : r.data = false := by
        rw [Bool.eq_false_iff]
        intro hdata
        exact absurd (hraw.symm.trans ((hs.waiting n r hr hw).2 hdata)) nofun
      refine h.thread hr rfl rfl (fun _ _ => rfl) ?_ nofun (fun _ hmem => .inl hmem) nofun
      rw [hdata, if_neg fun hno => absurd hno.1 nofun]
      exact hzero
  · next raw hraw =>
      obtain ⟨rfl, hdata, hright⟩ := hfound hraw hresp
      split
      · next hne =>
          refine h.thread hr rfl rfl (fun _ _ => rfl) ?_ (fun hand hhand => ?_)
            (fun _ hmem => .inl hmem) nofun
          · rw [if_neg fun hno => absurd hno.2 nofun]
            exact hzero
          · obtain rfl := Option.some.inj hhand
            exact ⟨hdata, rfl, hright hne⟩
      · refine h.thread hr rfl rfl (fun m hm => ?_) ?_ nofun (fun _ hmem => .inl hmem)
          nofun
        · exact (handled_freed raw m a).trans (by rw [if_neg hm]; rfl)
        · rw [if_pos ⟨hdata, rfl⟩]
          exact (handled_freed raw raw a).trans (by rw [if_pos rfl, hzero])

theorem Accounted.setPhase (h : Accounted a) (hr : a.requests[n]? = some r)
    (phase : NiPhase) (hsettled : phase.isSettled = r.phase.isSettled)
    (hhand : phase.hand = r.phase.hand) (habsent : phase ≠ .absent)
    (hrequests : a'.requests = (a.setPhase n phase).requests)
    (hsent : a'.sent = a.sent) (hfreed : a'.freed = a.freed)
    (hresponses : a'.responses = a.responses) : Accounted a' := by
  have hhandled : ∀ m, a'.handled m = a.handled m := by
    intro m
    rw [NiAdapter.handled, hsent, hfreed]
    rfl
  refine h.thread hr hrequests hresponses (fun m _ => hhandled m) ?_
    (fun hand hsome => h.hands n r hand hr (hhand.symm.trans hsome)) ?_ habsent
  · rw [hhandled, h.handled n r hr, hsettled]
  · rw [hsent]
    exact fun _ hmem => .inl hmem

theorem Accounted.send (h : Accounted a) {hand : Option NiHand}
    (hr : a.requests[n]? = some r) (hphase : r.phase = .cleared hand) :
    Accounted ({ a with sent := a.sent ++ hand.toList }.setPhase n .done) := by
  cases hand with
  | none =>
    refine h.setPhase hr .done ?_ ?_ nofun rfl (List.append_nil _) rfl rfl
    · rw [hphase]
      rfl
    · rw [hphase]
      rfl
  | some hand =>
    obtain ⟨hdata, hraw, hright⟩ := h.hands n r hand hr (by rw [hphase]; rfl)
    refine h.thread hr rfl rfl (fun m hm => ?_) ?_ nofun (fun hand' hmem => ?_) nofun
    · exact (handled_sent hand m a).trans (by rw [hraw, if_neg hm]; rfl)
    · refine (handled_sent hand n a).trans ?_
      rw [hraw, h.handled n r hr, hphase, if_pos rfl, if_neg fun hno =>
        absurd hno.2 nofun, if_pos ⟨hdata, rfl⟩]
    · obtain hmem | hmem := List.mem_append.mp hmem
      · exact .inl hmem
      · rw [Option.toList_some, List.mem_singleton] at hmem
        rw [hmem]
        exact .inr ⟨hraw, hright⟩

theorem Accounted.step (h : Accounted a) (hs : Sound a) {op : Op}
    (hcond : Undisturbed a op) : Accounted (a.step op) := by
  cases op with
  | requestNiNotify hasCallback emergency timeout data created =>
    rw [NiAdapter.step]
    split
    · next hidle =>
        rw [NiAdapter.requestNiNotify]
        split
        · next hasCallback =>
            split
            · exact h.same rfl rfl rfl fun _ hgiven => hgiven
            · next slot hslot =>
                obtain ⟨-, hcreated⟩ := hcond hidle hasCallback slot hslot
                exact h.save hcreated rfl rfl rfl rfl
        · exact h
    · exact h
  | gnssNiResponse hasCallback id response =>
    have hmem : ∀ given ∈ a.responses, given ∈ a.responses ++ [(id, response)] :=
      fun given hgiven => List.mem_append_left _ hgiven
    rw [NiAdapter.step]
    split
    · rw [NiAdapter.gnssNiResponse]
      split
      · dsimp only
        split
        · split
          · exact h.same rfl rfl rfl hmem
          · exact h.same rfl rfl rfl hmem
        · split
          · exact h.same rfl rfl rfl hmem
          · exact h.same rfl rfl rfl hmem
      · exact h.same rfl rfl rfl fun _ hgiven => hgiven
    · exact h
  | gnssNiResponseLock =>
    rw [NiAdapter.step, NiAdapter.gnssNiResponseLock]
    split
    · exact h
    · exact h.same rfl rfl rfl fun _ hgiven => hgiven
    · exact h.same rfl rfl rfl fun _ hgiven => hgiven
  | niThreadLock n =>
    rw [NiAdapter.step, niThreadLock]
    split
    · next slot reqID data hr =>
        split
        · next hflag => exact h.takeRequest hs hr rfl false fun _ => hflag
        · exact h.setPhase hr .waiting rfl rfl nofun rfl rfl rfl rfl
    · next slot reqID data hr =>
        split
        · next hflag => exact h.takeRequest hs hr rfl false fun _ => hflag
        · exact h.setPhase hr .waiting rfl rfl nofun rfl rfl rfl rfl
    · exact h
  | niThreadTimeout n =>
    rw [NiAdapter.step, niThreadTimeout]
    split
    · next slot reqID data hr => exact h.takeRequest hs hr rfl true nofun
    · exact h
  | niThreadClear n =>
    rw [NiAdapter.step, niThreadClear]
    split
    · next slot reqID data hand hr =>
        refine h.setPhase hr (.cleared hand) ?_ rfl nofun rfl rfl rfl rfl
        cases hand <;> rfl
    · exact h
  | niThreadSend n =>
    rw [NiAdapter.step, niThreadSend]
    split
    · next slot reqID data hand hr => exact h.send hr rfl
    · exact h

/-! ## Runs -/

/-- A thread alone, up to its end. -/
def finish (n : ℕ) : List Op :=
  [.niThreadLock n, .niThreadTimeout n, .niThreadClear n, .niThreadSend n]

/-- Every raw request is handled once: not more than once so far, and once when
its thread has gone on to its end; and what has been sent has the response of a
client for the id of the request, or that of the time being up. -/
structure Answered (a : NiAdapter) : Prop where
  once : ∀ (n : ℕ) (r : NiRequest), a.requests[n]? = some r → r.data = true →
    a.handled n ≤ 1 ∧ ((finish n).foldl step a).handled n = 1
  own : ∀ hand ∈ a.sent, ∃ r, a.requests[hand.rawRequest]? = some r ∧
    Rightful a r hand

/-- A response to a request that waits is not reported to be of an unknown id. -/
def NotRejected (a : NiAdapter) : Op → Prop
  | .gnssNiResponse hasCallback id response => a.proc = .idle →
      (∃ r ∈ a.requests, r.phase.isWaiting = true ∧ r.reqID = id) →
        (a.step (.gnssNiResponse hasCallback id response)).reports = a.reports
  | _ => True

theorem Sound.notRejected (h : Sound a) {op : Op} (hcond : Undisturbed a op) :
    NotRejected a op := by
  cases op with
  | gnssNiResponse hasCallback id response =>
    rintro hidle ⟨r, hmem, hw, rfl⟩
    obtain ⟨hcallback, hdata⟩ := hcond hidle r hmem hw rfl
    obtain ⟨n, hr⟩ := List.mem_iff_getElem?.mp hmem
    obtain ⟨hid, hraw⟩ := h.waiting n r hr hw
    have hraw : (a.sessions r.slot).rawRequest ≠ none := by
      rw [hraw hdata]
      nofun
    rw [NiAdapter.step, if_pos hidle, NiAdapter.gnssNiResponse, if_pos hcallback]
    dsimp only
    split
    · split <;> rfl
    · next hes =>
        -- it is not in the emergency session, so in the ordinary one
        cases hslot : r.slot with
        | sessionEs =>
          rw [hslot] at hid hraw
          exact absurd ⟨hid.symm, hraw⟩ hes
        | session =>
          rw [hslot] at hid hraw
          rw [if_pos ⟨hid.symm, hraw⟩]
  | _ => exact trivial

/-- The thread of a request with data is so far or farther. -/
def Reached (a : NiAdapter) (n k : ℕ) : Prop :=
  ∃ r, a.requests[n]? = some r ∧ r.data = true ∧ k ≤ r.phase.rank

theorem reached_setPhase (phase : NiPhase) (hr : a.requests[n]? = some r)
    (hdata : r.data = true) : Reached (a.setPhase n phase) n phase.rank := by
  refine ⟨_, to_setPhase phase hr, hdata, ?_⟩
  rw [NiRequest.withPhase, if_pos rfl]

theorem reached_takeRequest (hr : a.requests[n]? = some r) (hdata : r.data = true)
    (timedOut : Bool) : Reached (a.takeRequest n slot timedOut) n 3 := by
  rw [NiAdapter.takeRequest]
  dsimp only
  generalize (if timedOut = true then GnssNiResponse.noResponse
    else (a.sessions slot).resp) = resp
  split
  · exact reached_setPhase (.responded none) hr hdata
  · split
    · exact reached_setPhase (.responded _) hr hdata
    · exact reached_setPhase (.responded none) hr hdata

theorem Reached.mono {k k' : ℕ} (h : Reached a n k) (hle : k' ≤ k) :
    Reached a n k' := by
  obtain ⟨r, hr, hdata, hk⟩ := h
  exact ⟨r, hr, hdata, hle.trans hk⟩

theorem Reached.niThreadLock (h : Reached a n 1) : Reached (a.niThreadLock n) n 2 := by
  obtain ⟨⟨slot, reqID, data, phase⟩, hr, hdata, hk⟩ := h
  rw [NiAdapter.niThreadLock, hr]
  cases phase with
  | absent => exact absurd hk (by simp)
  | created | waiting =>
    dsimp only
    split
    · exact (reached_takeRequest hr hdata false).mono (by simp)
    · exact reached_setPhase .waiting hr hdata
  | responded hand => exact ⟨_, hr, hdata, by simp⟩
  | cleared hand => exact ⟨_, hr, hdata, by simp⟩
  | done => exact ⟨_, hr, hdata, by simp⟩

theorem Reached.niThreadTimeout (h : Reached a n 2) :
    Reached (a.niThreadTimeout n) n 3 := by
  obtain ⟨⟨slot, reqID, data, phase⟩, hr, hdata, hk⟩ := h
  rw [NiAdapter.niThreadTimeout, hr]
  cases phase with
  | absent | created => exact absurd hk (by simp)
  | waiting => exact reached_takeRequest hr hdata true
  | responded hand => exact ⟨_, hr, hdata, le_rfl⟩
  | cleared hand => exact ⟨_, hr, hdata, by simp⟩
  | done => exact ⟨_, hr, hdata, by simp⟩

theorem Reached.niThreadClear (h : Reached a n 3) :
    Reached (a.niThreadClear n) n 4 := by
  obtain ⟨⟨slot, reqID, data, phase⟩, hr, hdata, hk⟩ := h
  rw [NiAdapter.niThreadClear, hr]
  cases phase with
  | absent | created | waiting => exact absurd hk (by simp)
  | responded hand => exact reached_setPhase (.cleared hand) hr hdata
  | cleared hand => exact ⟨_, hr, hdata, le_rfl⟩
  | done => exact ⟨_, hr, hdata, by simp⟩

theorem Reached.niThreadSend (h : Reached a n 4) :
    Reached (a.niThreadSend n) n 5 := by
  obtain ⟨⟨slot, reqID, data, phase⟩, hr, hdata, hk⟩ := h
  rw [NiAdapter.niThreadSend, hr]
  cases phase with
  | absent | created | waiting | responded => exact absurd hk (by simp)
  | cleared hand => exact reached_setPhase .done hr hdata
  | done => exact ⟨_, hr, hdata, le_rfl⟩

theorem finish_done (hr : a.requests[n]? = some r) (hdata : r.data = true)
    (hphase : r.phase ≠ .absent) : Reached ((finish n).foldl step a) n 5 := by
  have hstart : Reached a n 1 := by
    refine ⟨r, hr, hdata, ?_⟩
    cases hp : r.phase with
    | absent => exact absurd hp hphase
    | _ => simp
  exact hstart.niThreadLock.niThreadTimeout.niThreadClear.niThreadSend

theorem finish_accounted (hs : Sound a) (ha : Accounted a) (n : ℕ) :
    Accounted ((finish n).foldl step a) := by
  have hstep : ∀ {a} op, Undisturbed a op → Sound a ∧ Accounted a →
      Sound (a.step op) ∧ Accounted (a.step op) :=
    fun op hcond h => ⟨h.1.step hcond, h.2.step h.1 hcond⟩
  have hlock := hstep (.niThreadLock n) trivial ⟨hs, ha⟩
  have htimeout := hstep (.niThreadTimeout n) trivial hlock
  have hclear := hstep (.niThreadClear n) trivial htimeout
  exact (hstep (.niThreadSend n) trivial hclear).2

theorem answered (hs : Sound a) (ha : Accounted a) : Answered a := by
  refine ⟨fun n r hr hdata => ⟨?_, ?_⟩, ha.sent⟩
  · rw [ha.handled n r hr]
    split <;> omega
  · have hphase : r.phase ≠ .absent := by
      intro habsent
      exact absurd (hdata.symm.trans (ha.threads n r hr habsent)) nofun
    obtain ⟨r', hr', hdata', hdone⟩ := finish_done hr hdata hphase
    rw [(finish_accounted hs ha n).handled n r' hr', if_pos]
    refine ⟨hdata', ?_⟩
    cases hp : r'.phase with
    | done => rfl
    | _ =>
      rw [hp] at hdone
      exact absurd hdone (by simp)

/-- Where every step sees to what it must, every raw request is handled once, with
a response for it, and no response to a request that waits is rejected. -/
theorem run_answered (ops : List Op)
    (hops : ∀ pre op, pre ++ [op] <+: ops → Undisturbed (run pre) op) :
    (∀ pre, pre <+: ops → Answered (run pre)) ∧
      ∀ pre op, pre ++ [op] <+: ops → NotRejected (run pre) op := by
  have hinv : ∀ pre, pre <+: ops → Sound (run pre) ∧ Accounted (run pre) := by
    intro pre
    induction pre using List.reverseRecOn with
    | nil => exact fun _ => ⟨sound_new, accounted_new⟩
    | append_singleton pre op ih =>
      intro hpre
      obtain ⟨hs, ha⟩ := ih ((List.prefix_append pre [op]).trans hpre)
      have hcond := hops pre op hpre
      rw [run_concat]
      exact ⟨hs.step hcond, ha.step hs hcond⟩
  refine ⟨fun pre hpre => ?_, fun pre op hpre => ?_⟩
  · obtain ⟨hs, ha⟩ := hinv pre hpre
    exact answered hs ha
  · obtain ⟨hs, -⟩ := hinv pre ((List.prefix_append pre [op]).trans hpre)
    exact hs.notRejected (hops pre op hpre)

instance (a : NiAdapter) : (op : Op) → Decidable (Undisturbed a op)
  | .requestNiNotify hasCallback emergency _ data created =>
    inferInstanceAs (Decidable (a.proc = .idle → hasCallback = true →
      ∀ slot ∈ a.freeSlot emergency,
        (∀ r ∈ a.requests, r.slot = slot → r.phase.isOpen = false) ∧
          (data = true → created = true)))
  | .gnssNiResponse hasCallback id _ =>
    inferInstanceAs (Decidable (a.proc = .idle → ∀ r ∈ a.requests,
      r.phase.isWaiting = true → r.reqID = id →
        hasCallback = true ∧ r.data = true))
  | .gnssNiResponseLock =>
    inferInstanceAs (Decidable (∀ slot ∈ a.proc.slot,
      (a.sessions slot).rawRequest ≠ none))
  | .niThreadLock _ | .niThreadTimeout _ | .niThreadClear _ | .niThreadSend _ =>
    isTrue trivial

/-- A request that a client accepts. -/
def oneRequest : List Op :=
  [.requestNiNotify true false 0 true true, .niThreadLock 0,
    .gnssNiResponse true 1 .accept, .gnssNiResponseLock, .niThreadLock 0,
    .niThreadClear 0, .niThreadSend 0]

theorem oneRequest_answered : (∀ pre, pre <+: oneRequest → Answered (run pre)) ∧
    ∀ pre op, pre ++ [op] <+: oneRequest → NotRejected (run pre) op :=
  run_answered oneRequest (Lib.forall_concat_of_take (by decide))

/-- The second request is saved before the thread of the first has cleared the
session, and loses its id. -/
def lostId : List Op :=
  oneRequest.take 5 ++ [.requestNiNotify true false 0 true true, .niThreadClear 0]

/-- The time is up between the check of a response and its lock, and the response
is left for the second request. -/
def leftResponse : List Op :=
  [.requestNiNotify true false 0 true true, .niThreadLock 0,
    .gnssNiResponse true 1 .accept, .niThreadTimeout 0, .gnssNiResponseLock,
    .niThreadClear 0, .niThreadSend 0, .requestNiNotify true false 0 true true,
    .niThreadLock 1, .niThreadClear 1, .niThreadSend 1]

/-- The user is asked for the second request, and the response is rejected; or the
user is not asked, and it is accepted. -/
theorem reused_session :
    ¬ NotRejected (run lostId) (.gnssNiResponse true 2 .deny) ∧
      ¬ Answered (run leftResponse) := by
  refine ⟨fun h => ?_, fun h => ?_⟩
  · exact absurd (h (by decide) (by decide)) (by decide)
  · obtain ⟨r, hr, hright⟩ := h.own ⟨1, .accept, false⟩ (by decide)
    have hr' : (run leftResponse).requests[1]? = some ⟨.session, 2, true, .done⟩ := by
      decide
    obtain rfl := Option.some.inj (hr.symm.trans hr')
    obtain ⟨hno, -⟩ | hmem := hright
    · exact absurd hno nofun
    · exact absurd hmem (by decide)

end NiAdapter

end Axon7.Gnss
