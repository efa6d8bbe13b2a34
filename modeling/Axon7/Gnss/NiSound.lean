import Axon7.Gnss.Ni

/-!
# Sessions and their threads

The steps keep the sessions and the threads together as long as two things are
seen to: a request is saved only when the thread of the one before it has cleared
the session, and a response is put into a session only while the request is there
that it was checked against. Then a session has one thread at most that may still
touch it, and what is in it is about the request of that thread.
-/

namespace Axon7.Gnss

theorem NiPhase.isOpen_of_isWaiting {phase : NiPhase}
    (h : phase.isWaiting = true) : phase.isOpen = true := by
  cases phase with
  | created | waiting => rfl
  | _ => exact absurd h nofun

theorem NiPhase.not_isSettled_of_isWaiting {phase : NiPhase}
    (h : phase.isWaiting = true) : phase.isSettled = false := by
  cases phase with
  | created | waiting => rfl
  | _ => exact absurd h nofun

/-- How far a thread is. -/
@[simp] def NiPhase.rank : NiPhase → ℕ
  | .absent => 0
  | .created => 1
  | .waiting => 2
  | .responded _ => 3
  | .cleared _ => 4
  | .done => 5

/-- A request with the phase of one of them set. -/
def NiRequest.withPhase (r : NiRequest) (n m : ℕ) (phase : NiPhase) : NiRequest :=
  { r with phase := if n = m then phase else r.phase }

namespace NiAdapter

variable {a : NiAdapter} {n m : ℕ} {r r' : NiRequest} {slot : NiSlot}
  {id : ℕ} {response : GnssNiResponse}

/-! ## What is where -/

theorem setSession_sessions (slot' : NiSlot) (session : NiSession) :
    (a.setSession slot session).sessions slot' =
      if slot' = slot then session else a.sessions slot' :=
  Function.update_apply _ _ _ _

theorem getElem?_setPhase {phase : NiPhase} :
    (a.setPhase n phase).requests[m]? =
      (a.requests[m]?).map fun r => NiRequest.withPhase r n m phase := by
  rw [setPhase, List.getElem?_modify]
  cases a.requests[m]? with
  | none => rfl
  | some r =>
    by_cases h : n = m
    · simp [NiRequest.withPhase, h]
    · simp [NiRequest.withPhase, h]

theorem of_setPhase {phase : NiPhase}
    (h : (a.setPhase n phase).requests[m]? = some r') :
    ∃ r, a.requests[m]? = some r ∧ NiRequest.withPhase r n m phase = r' := by
  rw [getElem?_setPhase] at h
  exact Option.map_eq_some_iff.mp h

theorem to_setPhase (phase : NiPhase) (h : a.requests[m]? = some r) :
    (a.setPhase n phase).requests[m]? =
      some (NiRequest.withPhase r n m phase) := by
  rw [getElem?_setPhase, h]
  rfl

/-- The response is one for the request that is in the session. -/
structure Named (a : NiAdapter) (slot : NiSlot) (id : ℕ)
    (response : GnssNiResponse) : Prop where
  given : (id, response) ∈ a.responses
  same : ∀ (n : ℕ) (r : NiRequest), (a.sessions slot).rawRequest = some n →
    a.requests[n]? = some r → r.reqID = id

/-- The sessions and the threads. -/
structure Sound (a : NiAdapter) : Prop where
  /-- A session has one thread that is open. -/
  alone : ∀ (n m : ℕ) (r r' : NiRequest), a.requests[n]? = some r →
    a.requests[m]? = some r' → r.slot = r'.slot → r.phase.isOpen = true →
    r'.phase.isOpen = true → n = m
  raw : ∀ slot n, (a.sessions slot).rawRequest = some n →
    ∃ r, a.requests[n]? = some r ∧ r.slot = slot ∧ r.phase.isWaiting = true ∧
      r.data = true
  waiting : ∀ (n : ℕ) (r : NiRequest), a.requests[n]? = some r → r.phase.isWaiting = true →
    (a.sessions r.slot).reqID = r.reqID ∧
      (r.data = true → (a.sessions r.slot).rawRequest = some n)
  /-- A response that has come is for the request in the session. -/
  flag : ∀ slot, (a.sessions slot).respRecvd = true →
    ∃ n r, (a.sessions slot).rawRequest = some n ∧ a.requests[n]? = some r ∧
      ((a.sessions slot).resp = .ignore ∨
        (r.reqID, (a.sessions slot).resp) ∈ a.responses)
  ignoring : ∀ id response, a.proc = .ignoring id response →
    Named a .sessionEs id response
  responding : ∀ slot id response, a.proc = .responding slot id response →
    Named a slot id response

theorem sound_new : Sound new where
  alone _ _ _ _ h := absurd h nofun
  raw _ _ h := absurd h nofun
  waiting _ _ h := absurd h nofun
  flag _ h := absurd h nofun
  ignoring _ _ h := absurd h nofun
  responding _ _ _ h := absurd h nofun

/-! ## Steps -/

theorem Sound.setPhase (h : Sound a) {phase : NiPhase}
    (hr : a.requests[n]? = some r) (hopen : phase.isOpen = true → r.phase.isOpen = true)
    (hwaiting : phase.isWaiting = r.phase.isWaiting) : Sound (a.setPhase n phase) := by
  have hphase : ∀ m r', a.requests[m]? = some r' →
      (NiRequest.withPhase r' n m phase).phase.isWaiting = r'.phase.isWaiting ∧
        ((NiRequest.withPhase r' n m phase).phase.isOpen = true →
          r'.phase.isOpen = true) := by
    intro m r' hr'
    by_cases heq : n = m
    · subst heq
      obtain rfl : r = r' := Option.some.inj (hr.symm.trans hr')
      simpa [NiRequest.withPhase] using ⟨hwaiting, hopen⟩
    · simp [NiRequest.withPhase, heq]
  have hnamed : ∀ {slot id response}, Named a slot id response →
      Named (a.setPhase n phase) slot id response := by
    intro slot id response hnamed
    refine ⟨hnamed.given, fun m r' hraw hm => ?_⟩
    obtain ⟨r'', hr'', rfl⟩ := of_setPhase hm
    exact hnamed.same m r'' hraw hr''
  refine ⟨?_, ?_, ?_, ?_, fun id response hproc => hnamed (h.ignoring id response hproc),
    fun slot id response hproc => hnamed (h.responding slot id response hproc)⟩
  · intro m m' r₁ r₂ h₁ h₂ hslot ho₁ ho₂
    obtain ⟨r₁, hr₁, rfl⟩ := of_setPhase h₁
    obtain ⟨r₂, hr₂, rfl⟩ := of_setPhase h₂
    exact h.alone m m' r₁ r₂ hr₁ hr₂ hslot ((hphase m r₁ hr₁).2 ho₁)
      ((hphase m' r₂ hr₂).2 ho₂)
  · intro slot m hraw
    obtain ⟨r', hr', hslot, hw, hdata⟩ := h.raw slot m hraw
    exact ⟨_, to_setPhase phase hr', hslot, (hphase m r' hr').1.trans hw, hdata⟩
  · intro m r' hm hw
    obtain ⟨r', hr', rfl⟩ := of_setPhase hm
    exact h.waiting m r' hr' ((hphase m r' hr').1.symm.trans hw)
  · intro slot hflag
    obtain ⟨m, r', hraw, hr', hresp⟩ := h.flag slot hflag
    exact ⟨m, _, hraw, to_setPhase phase hr', hresp⟩

theorem Sound.leave (h : Sound a) (hr : a.requests[n]? = some r)
    (hopen : r.phase.isOpen = true) {session : NiSession} {phase : NiPhase}
    (hraw : session.rawRequest = none) (hflag : session.respRecvd = false)
    (hphase : phase.isWaiting = false) :
    Sound ((a.setSession r.slot session).setPhase n phase) := by
  have hsessions : ∀ slot, ((a.setSession r.slot session).setPhase n phase).sessions
      slot = if slot = r.slot then session else a.sessions slot :=
    fun slot => setSession_sessions slot session
  -- a raw request that is left is in the other session
  have hleft : ∀ {slot m}, (((a.setSession r.slot session).setPhase n phase).sessions
      slot).rawRequest = some m → slot ≠ r.slot := by
    intro slot m hsome hslot
    rw [hsessions, if_pos hslot, hraw] at hsome
    exact absurd hsome nofun
  have hother : ∀ {slot}, slot ≠ r.slot →
      ((a.setSession r.slot session).setPhase n phase).sessions slot =
        a.sessions slot := by
    intro slot hslot
    rw [hsessions, if_neg hslot]
  have hwas : ∀ {m : ℕ} {r' : NiRequest}, a.requests[m]? = some r' →
      (r'.withPhase n m phase).phase.isOpen = true → r'.phase.isOpen = true := by
    intro m r' hr' ho
    by_cases heq : n = m
    · subst heq
      obtain rfl : r = r' := Option.some.inj (hr.symm.trans hr')
      exact hopen
    · simpa [NiRequest.withPhase, heq] using ho
  have hnamed : ∀ {slot id response}, Named a slot id response →
      Named ((a.setSession r.slot session).setPhase n phase) slot id response := by
    intro slot id response hnamed
    refine ⟨hnamed.given, fun m r' hsome hm => ?_⟩
    obtain ⟨r'', hr'', rfl⟩ := of_setPhase hm
    rw [hother (hleft hsome)] at hsome
    exact hnamed.same m r'' hsome hr''
  refine ⟨?_, ?_, ?_, ?_, fun id response hproc => hnamed (h.ignoring id response hproc),
    fun slot id response hproc => hnamed (h.responding slot id response hproc)⟩
  · intro m m' r₁ r₂ h₁ h₂ hslot ho₁ ho₂
    obtain ⟨r₁, hr₁, rfl⟩ := of_setPhase h₁
    obtain ⟨r₂, hr₂, rfl⟩ := of_setPhase h₂
    exact h.alone m m' r₁ r₂ hr₁ hr₂ hslot (hwas hr₁ ho₁) (hwas hr₂ ho₂)
  · intro slot m hsome
    have hslot := hleft hsome
    rw [hother hslot] at hsome
    obtain ⟨r', hr', rfl, hw, hdata⟩ := h.raw slot m hsome
    have hnm : n ≠ m := by
      rintro rfl
      obtain rfl : r = r' := Option.some.inj (hr.symm.trans hr')
      exact hslot rfl
    refine ⟨_, to_setPhase phase hr', rfl, ?_, hdata⟩
    rw [NiRequest.withPhase, if_neg hnm]
    exact hw
  · intro m r' hm hw
    obtain ⟨r', hr', rfl⟩ := of_setPhase hm
    have hnm : n ≠ m := by
      rintro rfl
      rw [NiRequest.withPhase, if_pos rfl, hphase] at hw
      exact absurd hw nofun
    rw [NiRequest.withPhase, if_neg hnm] at hw
    have hslot : r'.slot ≠ r.slot := fun hslot =>
      hnm (h.alone n m r r' hr hr' hslot.symm hopen (NiPhase.isOpen_of_isWaiting hw))
    rw [NiRequest.withPhase]
    dsimp only
    rw [hother hslot]
    exact h.waiting m r' hr' hw
  · intro slot hrecvd
    have hslot : slot ≠ r.slot := by
      intro hslot
      rw [hsessions, if_pos hslot, hflag] at hrecvd
      exact absurd hrecvd nofun
    rw [hother hslot] at hrecvd ⊢
    obtain ⟨m, r', hsome, hr', hresp⟩ := h.flag slot hrecvd
    exact ⟨m, _, hsome, to_setPhase phase hr', hresp⟩

theorem Sound.empty (h : Sound a) (hr : a.requests[n]? = some r)
    (hopen : r.phase.isOpen = true) (hwaiting : r.phase.isWaiting = false) :
    (a.sessions r.slot).rawRequest = none ∧
      (a.sessions r.slot).respRecvd = false := by
  have hraw : (a.sessions r.slot).rawRequest = none := by
    cases hsome : (a.sessions r.slot).rawRequest with
    | none => rfl
    | some m =>
      obtain ⟨r', hr', hslot, hw, -⟩ := h.raw r.slot m hsome
      obtain rfl := h.alone n m r r' hr hr' hslot.symm hopen
        (NiPhase.isOpen_of_isWaiting hw)
      obtain rfl : r = r' := Option.some.inj (hr.symm.trans hr')
      exact absurd (hw.symm.trans hwaiting) nofun
  refine ⟨hraw, ?_⟩
  rw [Bool.eq_false_iff]
  intro hflag
  obtain ⟨m, -, hsome, -⟩ := h.flag r.slot hflag
  exact absurd (hraw.symm.trans hsome) nofun

theorem Sound.respond (h : Sound a) {raw : ℕ}
    (hraw : (a.sessions slot).rawRequest = some raw)
    (hresp : ∀ r, a.requests[raw]? = some r →
      response = .ignore ∨ (r.reqID, response) ∈ a.responses) :
    Sound (a.respond slot response) := by
  have hsessions : ∀ slot', (a.respond slot response).sessions slot' =
      if slot' = slot then
        { a.sessions slot with resp := response, respRecvd := true }
      else a.sessions slot' := fun slot' => setSession_sessions slot' _
  -- the raw request and the id stay
  have hsame : ∀ slot', ((a.respond slot response).sessions slot').rawRequest =
        (a.sessions slot').rawRequest ∧
      ((a.respond slot response).sessions slot').reqID = (a.sessions slot').reqID := by
    intro slot'
    rw [hsessions]
    by_cases hslot : slot' = slot
    · rw [if_pos hslot, hslot]
      exact ⟨rfl, rfl⟩
    · rw [if_neg hslot]
      exact ⟨rfl, rfl⟩
  have hnamed : ∀ {slot' id response'}, Named a slot' id response' →
      Named (a.respond slot response) slot' id response' := by
    intro slot' id response' hnamed
    refine ⟨hnamed.given, fun m r hsome hm => hnamed.same m r ?_ hm⟩
    rw [← (hsame slot').1]
    exact hsome
  refine ⟨h.alone, ?_, ?_, ?_,
    fun id response hproc => hnamed (h.ignoring id response hproc),
    fun slot id response hproc => hnamed (h.responding slot id response hproc)⟩
  · intro slot' m hsome
    rw [(hsame slot').1] at hsome
    exact h.raw slot' m hsome
  · intro m r hm hw
    rw [(hsame r.slot).1, (hsame r.slot).2]
    exact h.waiting m r hm hw
  · intro slot' hflag
    rw [hsessions] at hflag ⊢
    by_cases hslot : slot' = slot
    · rw [if_pos hslot]
      obtain ⟨r, hr, -⟩ := h.raw slot raw hraw
      exact ⟨raw, r, hraw, hr, hresp r hr⟩
    · rw [if_neg hslot] at hflag ⊢
      exact h.flag slot' hflag

theorem of_getElem?_concat {l : List NiRequest} (h : (l ++ [r])[n]? = some r') :
    l[n]? = some r' ∨ (n = l.length ∧ r = r') := by
  rw [List.getElem?_append] at h
  split at h
  · exact .inl h
  · next hlt =>
      obtain hzero | hpos := Nat.eq_zero_or_pos (n - l.length)
      · rw [hzero] at h
        exact .inr ⟨by omega, Option.some.inj h⟩
      · rw [List.getElem?_eq_none (by rwa [List.length_singleton])] at h
        exact absurd h nofun

theorem to_getElem?_concat {l : List NiRequest} (h : l[n]? = some r') :
    (l ++ [r])[n]? = some r' := by
  rw [List.getElem?_append_left (List.getElem?_eq_some_iff.mp h).1]
  exact h

theorem Sound.save (h : Sound a) {a' : NiAdapter} {session : NiSession}
    {data created : Bool} (hidle : a'.proc = .idle)
    (hopen : ∀ r ∈ a.requests, r.slot = slot → r.phase.isOpen = false)
    (hcreated : data = true → created = true)
    (hsessions : ∀ slot', a'.sessions slot' =
      if slot' = slot then session else a.sessions slot')
    (hraw : session.rawRequest = if data then some a.requests.length else none)
    (hrecvd : session.respRecvd = (a.sessions slot).respRecvd)
    (hrequests : a'.requests = a.requests ++
      [⟨slot, session.reqID, data, if created then .created else .absent⟩])
    (hresponses : a'.responses = a.responses) : Sound a' := by
  have hold : ∀ {n : ℕ} {r : NiRequest}, a.requests[n]? = some r → r.phase.isOpen = true →
      r.slot ≠ slot := by
    intro n r hr ho hslot
    have := hopen r (List.mem_of_getElem? hr) hslot
    exact absurd (ho.symm.trans this) nofun
  have hflag : session.respRecvd = false := by
    rw [hrecvd, Bool.eq_false_iff]
    intro hflag
    obtain ⟨n, -, hsome, -⟩ := h.flag slot hflag
    obtain ⟨r, hr, hslot, hw, -⟩ := h.raw slot n hsome
    exact hold hr (NiPhase.isOpen_of_isWaiting hw) hslot
  refine ⟨?_, ?_, ?_, ?_, ?_, ?_⟩
  · intro n m r r' hr hr' hslot ho ho'
    rw [hrequests] at hr hr'
    obtain hr | ⟨rfl, rfl⟩ := of_getElem?_concat hr
    · obtain hr' | ⟨rfl, rfl⟩ := of_getElem?_concat hr'
      · exact h.alone n m r r' hr hr' hslot ho ho'
      · exact absurd hslot (hold hr ho)
    · obtain hr' | ⟨rfl, rfl⟩ := of_getElem?_concat hr'
      · exact absurd hslot.symm (hold hr' ho')
      · rfl
  · intro slot' n hsome
    rw [hsessions] at hsome
    rw [hrequests]
    by_cases hslot : slot' = slot
    · rw [if_pos hslot, hraw] at hsome
      cases data with
      | false => exact absurd hsome nofun
      | true =>
        obtain rfl : a.requests.length = n := Option.some.inj hsome
        refine ⟨_, List.getElem?_concat_length, hslot.symm, ?_, rfl⟩
        rw [hcreated rfl]
        rfl
    · rw [if_neg hslot] at hsome
      obtain ⟨r, hr, hrest⟩ := h.raw slot' n hsome
      exact ⟨r, to_getElem?_concat hr, hrest⟩
  · intro n r hr hw
    rw [hrequests] at hr
    rw [hsessions]
    obtain hr | ⟨rfl, rfl⟩ := of_getElem?_concat hr
    · rw [if_neg (hold hr (NiPhase.isOpen_of_isWaiting hw))]
      exact h.waiting n r hr hw
    · rw [if_pos rfl]
      refine ⟨rfl, fun hdata => ?_⟩
      rw [hraw, if_pos hdata]
  · intro slot' hset
    rw [hsessions] at hset ⊢
    by_cases hslot : slot' = slot
    · rw [if_pos hslot, hflag] at hset
      exact absurd hset nofun
    · rw [if_neg hslot] at hset ⊢
      rw [hrequests, hresponses]
      obtain ⟨n, r, hsome, hr, hresp⟩ := h.flag slot' hset
      exact ⟨n, r, hsome, to_getElem?_concat hr, hresp⟩
  · intro id response hproc
    exact absurd (hidle.symm.trans hproc) nofun
  · intro slot' id response hproc
    exact absurd (hidle.symm.trans hproc) nofun

theorem Sound.withProc (h : Sound a) {a' : NiAdapter}
    (hsessions : a'.sessions = a.sessions) (hrequests : a'.requests = a.requests)
    (hresponses : ∀ given ∈ a.responses, given ∈ a'.responses)
    (hignoring : ∀ id response, a'.proc = .ignoring id response →
      Named a' .sessionEs id response)
    (hresponding : ∀ slot id response, a'.proc = .responding slot id response →
      Named a' slot id response) : Sound a' := by
  refine ⟨?_, ?_, ?_, ?_, hignoring, hresponding⟩
  · rw [hrequests]
    exact h.alone
  · rw [hsessions, hrequests]
    exact h.raw
  · rw [hsessions, hrequests]
    exact h.waiting
  · rw [hsessions, hrequests]
    intro slot hset
    obtain ⟨n, r, hsome, hr, hresp⟩ := h.flag slot hset
    exact ⟨n, r, hsome, hr, hresp.imp_right (hresponses _)⟩

theorem Sound.named (h : Sound a) {a' : NiAdapter} {raw : ℕ}
    (hsessions : a'.sessions = a.sessions) (hrequests : a'.requests = a.requests)
    (hgiven : (id, response) ∈ a'.responses)
    (hraw : (a.sessions slot).rawRequest = some raw)
    (hid : id = (a.sessions slot).reqID) : Named a' slot id response := by
  refine ⟨hgiven, fun n r hsome hr => ?_⟩
  rw [hsessions] at hsome
  rw [hrequests] at hr
  obtain ⟨r', hr', rfl, hw, -⟩ := h.raw slot n hsome
  obtain rfl : r = r' := Option.some.inj (hr.symm.trans hr')
  rw [hid, (h.waiting n r hr hw).1]

end NiAdapter

end Axon7.Gnss
