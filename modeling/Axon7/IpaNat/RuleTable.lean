import Axon7.IpaNat.Del

/-!
# The rule tables by themselves

The invariant of the base table and its expansion, and what adding and taking
away one rule does to it. Everything is stated on the array of entries and
says what happened to it cell by cell, so the order in which the driver
reaches that array does not matter here.

An entry has three link fields and a body. The links change when neighbours
come and go; the body is what the client asked for, and a rule's bucket and
whether it is live are read off the body alone.
-/

namespace Axon7.IpaNat

open Axon7.Lib

/-! ## Bodies -/

/-- An entry without its links. -/
def NatRule.body (r : NatRule) : NatRule :=
  { r with nextIndex := 0, prevIndex := 0, indxTblEntry := 0 }

/-- A live rule: enabled, and not the remains of a deleted list head. -/
def NatRule.Live (r : NatRule) : Prop :=
  r.enable = true ∧ r.protocol ≠ invalidProtoFieldCmp

instance (r : NatRule) : Decidable r.Live :=
  inferInstanceAs (Decidable (_ ∧ _))

/-- The bucket the hardware looks an entry up from, downlink. -/
def dstOf (c : Cfg) (r : NatRule) : Nat :=
  dstHash c (c.publicIp r.pdnIndex) r.targetIp r.targetPort r.publicPort
    r.protocol (c.tableEntries - 1)

/-- The bucket of the index table it looks an entry up from, uplink. -/
def srcOf (c : Cfg) (r : NatRule) : Nat :=
  srcHash r.privateIp r.privatePort r.targetIp r.targetPort r.protocol
    (c.tableEntries - 1)

/-- What the client asked for. -/
def NatRule.clnt (r : NatRule) : ClntRule where
  targetIp := r.targetIp
  privateIp := r.privateIp
  targetPort := r.targetPort
  privatePort := r.privatePort
  publicPort := r.publicPort
  protocol := r.protocol
  pdnIndex := r.pdnIndex

section Body

variable {r r' : NatRule} (h : r'.body = r.body)
include h

theorem NatRule.enable_of_body : r'.enable = r.enable :=
  show r'.body.enable = r.body.enable from congrArg _ h

theorem NatRule.protocol_of_body : r'.protocol = r.protocol :=
  show r'.body.protocol = r.body.protocol from congrArg _ h

theorem NatRule.live_of_body : r'.Live ↔ r.Live := by
  unfold NatRule.Live
  rw [NatRule.enable_of_body h, NatRule.protocol_of_body h]

theorem dstOf_of_body {c : Cfg} : dstOf c r' = dstOf c r :=
  show dstOf c r'.body = dstOf c r.body from congrArg _ h

theorem srcOf_of_body {c : Cfg} : srcOf c r' = srcOf c r :=
  show srcOf c r'.body = srcOf c r.body from congrArg _ h

theorem NatRule.clnt_of_body : r'.clnt = r.clnt :=
  show r'.body.clnt = r.body.clnt from congrArg _ h

end Body

theorem dstOf_isBucket {c : Cfg} (hg : c.Geometry) (r : NatRule) :
    IsBucket c (dstOf c r) :=
  isBucket_bucketOf hg

theorem srcOf_isBucket {c : Cfg} (hg : c.Geometry) (r : NatRule) :
    IsBucket c (srcOf c r) :=
  isBucket_bucketOf hg

theorem NatRule.not_live_zero : ¬ NatRule.zero.Live := fun h =>
  Bool.false_ne_true h.1

/-! ## The invariant -/

/-- The chains of the rule tables: unused entries are blank, a deleted entry
that is still in use is a bucket, and a live rule is on the chain of its own
bucket. -/
structure RuleChains (c : Cfg) (rules : Nat → NatRule)
    (tail : Nat → List Nat) : Prop where
  chained : Chained 0 (IsBucket c) (IsCell c)
    (fun e => (rules e).enable = true) (fun e => (rules e).nextIndex)
    (fun e => (rules e).prevIndex) tail
  clear : ∀ e, (rules e).enable = false → rules e = .zero
  range : ∀ e, (rules e).enable = true → IsBucket c e ∨ IsCell c e
  dead : ∀ e, (rules e).enable = true →
    (rules e).protocol = invalidProtoFieldCmp → IsBucket c e
  home : ∀ e, (rules e).Live →
    e ∈ dstOf c (rules e) :: tail (dstOf c (rules e))

/-- The lists behind the buckets keep everything but `e`. -/
def KeepsBut (e : Nat) (tail tail' : Nat → List Nat) : Prop :=
  ∀ b x, x ≠ e → x ∈ b :: tail b → x ∈ b :: tail' b

namespace RuleChains

variable {c : Cfg} {rules rules' : Nat → NatRule} {tail : Nat → List Nat}
  (h : RuleChains c rules tail)
include h

theorem live_range {e : Nat} (he : (rules e).Live) :
    IsBucket c e ∨ IsCell c e :=
  h.range e he.1

theorem next_cell {b e : Nat} (hb : IsBucket c b) (he : e ∈ b :: tail b)
    (hne : (rules e).nextIndex ≠ 0) :
    IsCell c (rules e).nextIndex ∧
      (rules (rules e).nextIndex).enable = true ∧
      (rules (rules e).nextIndex).prevIndex = e ∧ (rules e).nextIndex ≠ e := by
  obtain ⟨hmem, hprev, hself⟩ := h.chained.next_mem hb he hne
  obtain ⟨hcell, hocc⟩ := h.chained.cells b _ hb hmem
  exact ⟨hcell, hocc, hprev, hself⟩

theorem congr_indx
    (heq : ∀ x, (rules' x).body = (rules x).body ∧
      (rules' x).nextIndex = (rules x).nextIndex ∧
      (rules' x).prevIndex = (rules x).prevIndex)
    (hz : ∀ x, (rules x).enable = false → rules' x = rules x) :
    RuleChains c rules' tail where
  chained := by
    refine h.chained.congr (fun x _ => ?_) (fun x _ => (heq x).2.1)
      fun x _ _ => (heq x).2.2
    rw [NatRule.enable_of_body (heq x).1]
  clear e he := by
    rw [NatRule.enable_of_body (heq e).1] at he
    rw [hz e he, h.clear e he]
  range e he := h.range e (NatRule.enable_of_body (heq e).1 ▸ he)
  dead e he hp := by
    rw [NatRule.enable_of_body (heq e).1] at he
    rw [NatRule.protocol_of_body (heq e).1] at hp
    exact h.dead e he hp
  home e he := by
    rw [dstOf_of_body (heq e).1]
    exact h.home e ((NatRule.live_of_body (heq e).1).mp he)

/-! ## One rule more -/

theorem add (rules' : Nat → NatRule) {b p e : Nat} (hb : IsBucket c b)
    (hpl : Place 0 (IsCell c) (fun e => (rules e).enable = true)
      (fun e => (rules e).nextIndex) tail b p e)
    (hlive : (rules' e).Live) (hdst : dstOf c (rules' e) = b)
    (hnext : (rules' e).nextIndex = 0)
    (hprev : p ≠ 0 → (rules' e).prevIndex = p)
    (hp : p ≠ 0 → rules' p = { rules p with nextIndex := e })
    (hx : ∀ x, x ≠ e → (p ≠ 0 → x ≠ p) → rules' x = rules x) :
    ∃ tail', RuleChains c rules' tail' ∧ KeepsBut e tail tail' := by
  have hpocc := h.chained.place_prev_occ hb hpl
  have hpe : p ≠ 0 → p ≠ e := by
    rintro hp0 rfl
    exact hpl.not_occ (hpocc hp0)
  have hbody : ∀ x, x ≠ e → (rules' x).body = (rules x).body ∧
      (rules' x).prevIndex = (rules x).prevIndex := by
    intro x hxe
    by_cases hxp : p ≠ 0 ∧ x = p
    · rw [hxp.2, hp hxp.1]
      exact ⟨rfl, rfl⟩
    · rw [hx x hxe fun hp0 hxp' => hxp ⟨hp0, hxp'⟩]
      exact ⟨rfl, rfl⟩
  have hen : ∀ x, x ≠ e → (rules' x).enable = (rules x).enable := fun x hxe =>
    NatRule.enable_of_body (hbody x hxe).1
  obtain ⟨tail', hch, hmem, hkeep⟩ := h.chained.place
    (fun e => (rules' e).enable = true) (fun e => (rules' e).nextIndex)
    (fun e => (rules' e).prevIndex) isBucket_not_isCell hb hpl hnext
    (fun hp0 => by simp only [hp hp0])
    (fun x hxe hxp => by simp only [hx x hxe hxp]) hprev
    (fun x _ hxe => (hbody x hxe).2)
    (fun x _ => by
      rcases eq_or_ne x e with rfl | hxe
      · simp only [hlive.1, or_true]
      · simp only [hen x hxe, hxe, or_false])
  have hentry : IsBucket c e ∨ IsCell c e :=
    hpl.entry.elim (fun heb => .inl (heb ▸ hb)) .inr
  refine ⟨tail', ⟨hch, fun x hxen => ?_, fun x hxen => ?_,
    fun x hxen hproto => ?_, fun x hxl => ?_⟩, fun b' x _ hmem => hkeep b' x hmem⟩
  · have hxe : x ≠ e := by
      rintro rfl
      rw [hlive.1] at hxen
      cases hxen
    have hxen' := hxen
    rw [hen x hxe] at hxen'
    rw [hx x hxe fun hp0 hxp => ?_]
    · exact h.clear x hxen'
    · rw [hxp] at hxen'
      rw [hpocc hp0] at hxen'
      cases hxen'
  · rcases eq_or_ne x e with rfl | hxe
    · exact hentry
    · exact h.range x (hen x hxe ▸ hxen)
  · rcases eq_or_ne x e with rfl | hxe
    · exact absurd hproto hlive.2
    · rw [hen x hxe] at hxen
      rw [NatRule.protocol_of_body (hbody x hxe).1] at hproto
      exact h.dead x hxen hproto
  · rcases eq_or_ne x e with rfl | hxe
    · rw [hdst]
      exact hmem
    · rw [dstOf_of_body (hbody x hxe).1]
      exact hkeep _ x (h.home x ((NatRule.live_of_body (hbody x hxe).1).mp hxl))

/-! ## One rule less -/

theorem del_only {e : Nat} (he : IsBucket c e)
    (hnext : (rules e).nextIndex = 0) (hz : rules' e = .zero)
    (hx : ∀ x, x ≠ e → rules' x = rules x) :
    ∃ tail', RuleChains c rules' tail' ∧ KeepsBut e tail tail' := by
  have hte := (h.chained.tail_nil_iff he).mpr hnext
  have hcell : ∀ x, IsCell c x → x ≠ e := fun x hxc hxe =>
    isBucket_not_isCell e he (hxe ▸ hxc)
  have hne : ∀ x, (rules' x).enable = true → x ≠ e := by
    rintro x hxen rfl
    rw [hz] at hxen
    cases hxen
  refine ⟨tail, ⟨?_, fun x hxen => ?_, fun x hxen => ?_,
    fun x hxen hproto => ?_, fun x hxl => ?_⟩, fun _ _ _ => id⟩
  · have hlinks : Chained 0 (IsBucket c) (IsCell c)
        (fun e => (rules e).enable = true) (fun e => (rules' e).nextIndex)
        (fun e => (rules' e).prevIndex) tail := by
      refine h.chained.congr (fun _ _ => Iff.rfl) (fun x _ => ?_)
        fun x hxc _ => by rw [hx x (hcell x hxc)]
      rcases eq_or_ne x e with rfl | hxe
      · rw [hz, hnext]
        rfl
      · rw [hx x hxe]
    refine hlinks.reoccupy (fun x hxc => ?_) fun b hb ht => ?_
    · rw [hx x (hcell x hxc)]
    · have hbe : b ≠ e := fun hbe => ht (hbe ▸ hte)
      rw [hx b hbe]
      by_contra hv
      exact ht (h.chained.vacant b hb hv)
  · rcases eq_or_ne x e with rfl | hxe
    · exact hz
    · rw [hx x hxe] at hxen ⊢
      exact h.clear x hxen
  · rw [hx x (hne x hxen)] at hxen
    exact h.range x hxen
  · have hxe := hne x hxen
    rw [hx x hxe] at hxen hproto
    exact h.dead x hxen hproto
  · have hxe := hne x hxl.1
    rw [hx x hxe] at hxl ⊢
    exact h.home x hxl

theorem del_head {e : Nat} (he : IsBucket c e)
    (hen : (rules' e).enable = true)
    (hproto : (rules' e).protocol = invalidProtoFieldCmp)
    (hlinks : (rules' e).nextIndex = (rules e).nextIndex)
    (hx : ∀ x, x ≠ e → rules' x = rules x) :
    ∃ tail', RuleChains c rules' tail' ∧ KeepsBut e tail tail' := by
  have hcell : ∀ x, IsCell c x → x ≠ e := fun x hxc hxe =>
    isBucket_not_isCell e he (hxe ▸ hxc)
  refine ⟨tail, ⟨?_, fun x hxen => ?_, fun x hxen => ?_,
    fun x hxen hpx => ?_, fun x hxl => ?_⟩, fun _ _ _ => id⟩
  · have hlinks' : Chained 0 (IsBucket c) (IsCell c)
        (fun e => (rules e).enable = true) (fun e => (rules' e).nextIndex)
        (fun e => (rules' e).prevIndex) tail := by
      refine h.chained.congr (fun _ _ => Iff.rfl) (fun x _ => ?_)
        fun x hxc _ => by rw [hx x (hcell x hxc)]
      rcases eq_or_ne x e with rfl | hxe
      · exact hlinks
      · rw [hx x hxe]
    refine hlinks'.reoccupy (fun x hxc => ?_) fun b hb ht => ?_
    · rw [hx x (hcell x hxc)]
    · rcases eq_or_ne b e with rfl | hbe
      · exact hen
      · rw [hx b hbe]
        by_contra hv
        exact ht (h.chained.vacant b hb hv)
  · have hxe : x ≠ e := by
      rintro rfl
      rw [hen] at hxen
      cases hxen
    rw [hx x hxe] at hxen ⊢
    exact h.clear x hxen
  · rcases eq_or_ne x e with rfl | hxe
    · exact .inl he
    · rw [hx x hxe] at hxen
      exact h.range x hxen
  · rcases eq_or_ne x e with rfl | hxe
    · exact he
    · rw [hx x hxe] at hxen hpx
      exact h.dead x hxen hpx
  · have hxe : x ≠ e := by
      rintro rfl
      exact hxl.2 hproto
    rw [hx x hxe] at hxl ⊢
    exact h.home x hxl

theorem del_cell {b e : Nat} (hb : IsBucket c b) (he : e ∈ tail b)
    (hz : rules' e = .zero)
    (hp : rules' (rules e).prevIndex =
      { rules (rules e).prevIndex with nextIndex := (rules e).nextIndex })
    (hs : (rules e).nextIndex ≠ 0 → rules' (rules e).nextIndex =
      { rules (rules e).nextIndex with prevIndex := (rules e).prevIndex })
    (hx : ∀ x, x ≠ e → x ≠ (rules e).prevIndex →
      ((rules e).nextIndex ≠ 0 → x ≠ (rules e).nextIndex) →
      rules' x = rules x) :
    ∃ tail', RuleChains c rules' tail' ∧ KeepsBut e tail tail' := by
  obtain ⟨hcell, hocc⟩ := h.chained.cells b e hb he
  have hpe := h.chained.prev_ne hb he
  obtain ⟨hpm, -⟩ := h.chained.back b e hb he
  have hpen : (rules (rules e).prevIndex).enable = true := by
    rcases List.mem_cons.mp hpm with hpb | hpt
    · rw [hpb]
      exact h.chained.occ_head hb he
    · exact (h.chained.cells b _ hb hpt).2
  have hsucc : (rules e).nextIndex ≠ 0 →
      (rules (rules e).nextIndex).enable = true ∧
      (rules (rules e).nextIndex).prevIndex = e := fun hne =>
    have hn := h.next_cell hb (List.mem_cons_of_mem _ he) hne
    ⟨hn.2.1, hn.2.2.1⟩
  -- the cells a chain removal does not empty keep what they say
  have hbody : ∀ x, x ≠ e → (rules' x).body = (rules x).body := by
    intro x hxe
    by_cases hxp : x = (rules e).prevIndex
    · rw [hxp, hp]
      rfl
    · by_cases hxs : (rules e).nextIndex ≠ 0 ∧ x = (rules e).nextIndex
      · rw [hxs.2, hs hxs.1]
        rfl
      · rw [hx x hxe hxp fun hne hxn => hxs ⟨hne, hxn⟩]
  have hen : ∀ x, x ≠ e → (rules' x).enable = (rules x).enable := fun x hxe =>
    NatRule.enable_of_body (hbody x hxe)
  have hne : ∀ x, (rules' x).enable = true → x ≠ e := by
    rintro x hxen rfl
    rw [hz] at hxen
    cases hxen
  obtain ⟨tail', hch, hkeep⟩ := h.chained.remove
    (fun e => (rules' e).enable = true) (fun e => (rules' e).nextIndex)
    (fun e => (rules' e).prevIndex) isBucket_not_isCell hb he
    (by simp only [hp])
    (fun x hxp hxe => by
      by_cases hxs : (rules e).nextIndex ≠ 0 ∧ x = (rules e).nextIndex
      · simp only [hxs.2, hs hxs.1]
      · simp only [hx x hxe hxp fun hne hxn => hxs ⟨hne, hxn⟩])
    (fun hne => by simp only [hs hne])
    (fun x _ hxe hxs => by
      by_cases hxp : x = (rules e).prevIndex
      · simp only [hxp, hp]
      · simp only [hx x hxe hxp fun _ => hxs])
    (fun x _ => by
      rcases eq_or_ne x e with rfl | hxe
      · simp only [hz, NatRule.zero, ne_eq, not_true_eq_false, and_false,
          Bool.false_eq_true]
      · simp only [hen x hxe, ne_eq, hxe, not_false_eq_true, and_true])
  refine ⟨tail', ⟨hch, fun x hxen => ?_, fun x hxen => ?_,
    fun x hxen hproto => ?_, fun x hxl => ?_⟩, hkeep⟩
  · rcases eq_or_ne x e with rfl | hxe
    · exact hz
    · have hxen' := hxen
      rw [hen x hxe] at hxen'
      rw [hx x hxe]
      · exact h.clear x hxen'
      · rintro rfl
        rw [hpen] at hxen'
        cases hxen'
      · rintro hn0 rfl
        rw [(hsucc hn0).1] at hxen'
        cases hxen'
  · exact h.range x (hen x (hne x hxen) ▸ hxen)
  · have hxe := hne x hxen
    rw [hen x hxe] at hxen
    rw [NatRule.protocol_of_body (hbody x hxe)] at hproto
    exact h.dead x hxen hproto
  · have hxe := hne x hxl.1
    rw [dstOf_of_body (hbody x hxe)]
    exact hkeep _ x hxe (h.home x ((NatRule.live_of_body (hbody x hxe)).mp hxl))

/-! ## Reclaiming dead heads -/

theorem reclaim (rules' : Nat → NatRule)
    (hx : ∀ x, rules' x =
      if x < c.tableEntries ∧ (rules x).protocol = invalidProtoFieldCmp ∧
        (rules x).nextIndex = 0 then .zero else rules x) :
    RuleChains c rules' tail ∧ ∀ e, (rules' e).enable = true →
      (rules' e).protocol = invalidProtoFieldCmp →
      (rules' e).nextIndex ≠ 0 := by
  have hkeep : ∀ x, (rules' x).enable = true → rules' x = rules x := by
    intro x hxen
    rw [hx x] at hxen ⊢
    split at hxen
    · cases hxen
    · next hdead => rw [if_neg hdead]
  have hcell : ∀ x, IsCell c x → rules' x = rules x := by
    intro x hxc
    rw [hx x, if_neg]
    unfold IsCell at hxc
    omega
  have hnext : ∀ x, (rules' x).nextIndex = (rules x).nextIndex := by
    intro x
    rw [hx x]
    split
    · next hdead => rw [hdead.2.2]; rfl
    · rfl
  refine ⟨⟨?_, fun x hxen => ?_, fun x hxen => ?_, fun x hxen hproto => ?_,
    fun x hxl => ?_⟩, fun e hen hproto hn0 => ?_⟩
  · have hlinks : Chained 0 (IsBucket c) (IsCell c)
        (fun e => (rules e).enable = true) (fun e => (rules' e).nextIndex)
        (fun e => (rules' e).prevIndex) tail :=
      h.chained.congr (fun _ _ => Iff.rfl) (fun x _ => hnext x)
        fun x hxc _ => by rw [hcell x hxc]
    refine hlinks.reoccupy (fun x hxc => by rw [hcell x hxc]) fun b hb ht => ?_
    have hn : (rules b).nextIndex ≠ 0 := fun hn =>
      ht ((h.chained.tail_nil_iff hb).mpr hn)
    rw [hx b, if_neg fun hd => hn hd.2.2]
    by_contra hv
    exact ht (h.chained.vacant b hb hv)
  · rw [hx x] at hxen ⊢
    split at hxen
    · next hdead => rw [if_pos hdead]
    · next hdead =>
        rw [if_neg hdead]
        exact h.clear x hxen
  · have hxk := hkeep x hxen
    rw [hxk] at hxen
    exact h.range x hxen
  · have hxk := hkeep x hxen
    rw [hxk] at hxen hproto
    exact h.dead x hxen hproto
  · have hxk := hkeep x hxl.1
    rw [hxk] at hxl ⊢
    exact h.home x hxl
  · have hek := hkeep e hen
    rw [hek] at hen hproto hn0
    have hlt := (h.dead e hen hproto).2
    rw [hx e, if_pos ⟨hlt, hproto, hn0⟩] at hek
    rw [← hek] at hen
    cases hen

end RuleChains

end Axon7.IpaNat
