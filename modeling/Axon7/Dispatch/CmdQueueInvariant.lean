import Axon7.Dispatch.CmdQueue

/-!
# What the threads keep

If no one looks for a queue while another makes it, each queue is made once, and everyone has
the same. Then what was posted to a queue is, in order, what was processed, what `Process` has
in hand and what the queue holds.
-/

namespace Axon7.Dispatch

open Lib

variable {D : Type}

/-! ## The queues are made once -/

/-- At most one makes a queue of a kind, while there is none; and who returns one has one. -/
structure MadeOnce (inst : QueueKind → Option Nat)
    (getting : Option Nat → Option (QueueKind × GetPc)) : Prop where
  create : ∀ who kind, getting who = some (kind, .create) →
    inst kind = none ∧ ∀ other, getting other = some (kind, .create) → other = who
  fetch : ∀ who kind, getting who = some (kind, .fetch) → inst kind ≠ none

section

variable {inst : QueueKind → Option Nat} {getting : Option Nat → Option (QueueKind × GetPc)}
  {who : Option Nat} {kind : QueueKind}

theorem MadeOnce.move (h : MadeOnce inst getting) (who : Option Nat)
    {pc : Option (QueueKind × GetPc)} (hpc : ∀ kind, pc ≠ some (kind, .create) ∧
      (pc = some (kind, .fetch) → inst kind ≠ none)) :
    MadeOnce inst (Function.update getting who pc) := by
  have hsame : ∀ other kind, Function.update getting who pc other = some (kind, .create) →
      getting other = some (kind, .create) := by
    intro other kind hother
    rcases of_update hother with ⟨-, hcreate⟩ | ⟨-, hother⟩
    · exact absurd hcreate (hpc kind).1
    · exact hother
  refine ⟨fun other kind hother => ?_, fun other kind hother => ?_⟩
  · obtain ⟨hnone, hunique⟩ := h.create other kind (hsame other kind hother)
    exact ⟨hnone, fun other' hother' => hunique other' (hsame other' kind hother')⟩
  · rcases of_update hother with ⟨-, hfetch⟩ | ⟨-, hother⟩
    · exact (hpc kind).2 hfetch
    · exact h.fetch other kind hother

theorem MadeOnce.found_none (h : MadeOnce inst getting) (hnone : inst kind = none)
    (hquiet : ∀ other, getting other ≠ some (kind, .create)) :
    MadeOnce inst (Function.update getting who (some (kind, .create))) := by
  refine ⟨fun other kind' hother => ?_, fun other kind' hother => ?_⟩
  · rcases of_update hother with ⟨hwho, heq⟩ | ⟨-, hother⟩
    · obtain ⟨rfl, -⟩ := Prod.mk.inj (Option.some_inj.1 heq)
      refine ⟨hnone, fun other' hother' => ?_⟩
      rcases of_update hother' with ⟨hwho', -⟩ | ⟨-, hother'⟩
      · rw [hwho, hwho']
      · exact absurd hother' (hquiet other')
    · obtain ⟨hnone', hunique⟩ := h.create other kind' hother
      refine ⟨hnone', fun other' hother' => ?_⟩
      rcases of_update hother' with ⟨-, heq⟩ | ⟨-, hother'⟩
      · obtain ⟨rfl, -⟩ := Prod.mk.inj (Option.some_inj.1 heq)
        exact absurd hother (hquiet other)
      · exact hunique other' hother'
  · rcases of_update hother with ⟨-, heq⟩ | ⟨-, hother⟩
    · exact absurd heq (by simp)
    · exact h.fetch other kind' hother

theorem MadeOnce.made (h : MadeOnce inst getting) (hcreate : getting who = some (kind, .create))
    (q : Nat) :
    MadeOnce (Function.update inst kind (some q))
      (Function.update getting who (some (kind, .fetch))) := by
  obtain ⟨-, hunique⟩ := h.create who kind hcreate
  refine ⟨fun other kind' hother => ?_, fun other kind' hother => ?_⟩
  · rcases of_update hother with ⟨-, heq⟩ | ⟨hwho, hother⟩
    · exact absurd heq (by simp)
    · have hkind : kind' ≠ kind := by
        intro hkind
        exact hwho (hunique other (hkind ▸ hother))
      obtain ⟨hnone, hunique'⟩ := h.create other kind' hother
      rw [Function.update_of_ne hkind]
      refine ⟨hnone, fun other' hother' => ?_⟩
      rcases of_update hother' with ⟨-, heq⟩ | ⟨-, hother'⟩
      · exact absurd heq (by simp)
      · exact hunique' other' hother'
  · intro hnone
    rcases of_update hnone with ⟨-, heq⟩ | ⟨hkind, hnone⟩
    · exact absurd heq (Option.some_ne_none q)
    · rcases of_update hother with ⟨-, heq⟩ | ⟨-, hother⟩
      · exact hkind (Prod.mk.inj (Option.some_inj.1 heq)).1.symm
      · exact h.fetch other kind' hother hnone

end

theorem Cmdq.getting_post (s : Cmdq D) (thread : Nat) (pc : PostPc D) :
    ({ s with post := Function.update s.post thread pc } : Cmdq D).getting =
      Function.update s.getting (some thread) pc.getting := by
  funext who
  cases who with
  | none => rfl
  | some other =>
    by_cases hother : other = thread
    · subst hother
      rw [Function.update_self]
      change (Function.update s.post other pc other).getting = _
      rw [Function.update_self]
    · rw [Function.update_of_ne (fun h => hother (Option.some_inj.1 h))]
      change (Function.update s.post thread pc other).getting = _
      rw [Function.update_of_ne hother]
      rfl

theorem Cmdq.getting_proc (s : Cmdq D) (pc : ProcPc) :
    ({ s with proc := pc } : Cmdq D).getting = Function.update s.getting none pc.getting := by
  funext who
  cases who with
  | none => rw [Function.update_self]; rfl
  | some other => rw [Function.update_of_ne (by simp)]; rfl

/-! ## Messages in hand -/

/-- The event, queue and message of a call of `PostEvt`. -/
def PostPc.message : PostPc D → Option (CmdQData D × Nat × Nat)
  | .lock data q item => some (data, q, item)
  | .enqueue data q item => some (data, q, item)
  | _ => none

theorem of_update_message {post : Nat → PostPc D} {t t' : Nat} {pc : PostPc D}
    {m : CmdQData D × Nat × Nat} (h : (Function.update post t pc t').message = some m) :
    t' = t ∧ pc.message = some m ∨ t' ≠ t ∧ (post t').message = some m := by
  rw [Function.apply_update fun _ => PostPc.message] at h
  exact of_update h

/-- The messages in hand are each in one hand, and in no queue. -/
structure InHand (heap : Heap (CmdQData D)) (inst : QueueKind → Option Nat)
    (post : Nat → PostPc D) (hand : Option Nat) (cells : QueueKind → List (Nat × CmdQData D)) :
    Prop where
  queue : ∀ t data q item, (post t).message = some (data, q, item) → inst data.kind = some q
  stored : ∀ t data q item, (post t).message = some (data, q, item) →
    heap.lookup item = some ⟨data, none⟩ ∧ hand ≠ some item ∧
      ∀ kind, item ∉ (cells kind).map Prod.fst
  one : ∀ t t' data data' q q' item, (post t).message = some (data, q, item) →
    (post t').message = some (data', q', item) → t' = t
  taken : ∀ item, hand = some item → heap.lookup item ≠ none ∧
    ∀ kind, item ∉ (cells kind).map Prod.fst

section

variable {heap heap' : Heap (CmdQData D)} {inst : QueueKind → Option Nat} {post : Nat → PostPc D}
  {hand : Option Nat} {cells : QueueKind → List (Nat × CmdQData D)} {t : Nat}

theorem InHand.move (h : InHand heap inst post hand cells) {pc : PostPc D}
    (hpc : ∀ m, pc.message = some m → (post t).message = some m) :
    InHand heap inst (Function.update post t pc) hand cells := by
  have hsame : ∀ t' m, (Function.update post t pc t').message = some m →
      (post t').message = some m := by
    intro t' m hm
    rcases of_update_message hm with ⟨ht, hm⟩ | ⟨-, hm⟩
    · rw [ht]
      exact hpc m hm
    · exact hm
  exact ⟨fun t' data q item hm => h.queue t' data q item (hsame t' _ hm),
    fun t' data q item hm => h.stored t' data q item (hsame t' _ hm),
    fun t₁ t₂ data data' q q' item h₁ h₂ =>
      h.one t₁ t₂ data data' q q' item (hsame t₁ _ h₁) (hsame t₂ _ h₂), h.taken⟩

theorem InHand.make (h : InHand heap inst post hand cells) {kind : QueueKind}
    (hnone : inst kind = none) (q : Nat) :
    InHand heap (Function.update inst kind (some q)) post hand cells := by
  refine ⟨fun t data q' item hm => ?_, h.stored, h.one, h.taken⟩
  have hq := h.queue t data q' item hm
  have hkind : data.kind ≠ kind := by
    intro hkind
    rw [hkind, hnone] at hq
    exact absurd hq (by simp)
  rwa [Function.update_of_ne hkind]

theorem InHand.alloc (h : InHand heap inst post hand cells) {item q : Nat} {data : CmdQData D}
    (hfresh : heap.lookup item = none) (hq : inst data.kind = some q)
    (hcells : ∀ kind, ∀ b ∈ (cells kind).map Prod.fst, heap.lookup b ≠ none) {pc : PostPc D}
    (hpc : pc.message = some (data, q, item)) :
    InHand (heap.insert item ⟨data, none⟩) inst (Function.update post t pc) hand cells := by
  have hother : ∀ b, heap.lookup b ≠ none →
      (heap.insert item (⟨data, none⟩ : Cell (CmdQData D))).lookup b = heap.lookup b := by
    intro b hb
    refine AList.lookup_insert_ne ?_
    rintro rfl
    exact hb hfresh
  have hmessage : ∀ t' m, (Function.update post t pc t').message = some m →
      t' = t ∧ m = (data, q, item) ∨ t' ≠ t ∧ (post t').message = some m := by
    intro t' m hm
    rcases of_update_message hm with ⟨ht, hm⟩ | hother
    · rw [hpc] at hm
      exact .inl ⟨ht, (Option.some_inj.1 hm).symm⟩
    · exact .inr hother
  have hold : ∀ t' data' q', (post t').message ≠ some (data', q', item) := by
    intro t' data' q' hm
    rw [(h.stored t' data' q' item hm).1] at hfresh
    exact absurd hfresh (by simp)
  refine ⟨fun t' data' q' item' hm => ?_, fun t' data' q' item' hm => ?_,
    fun t₁ t₂ data₁ data₂ q₁ q₂ item' h₁ h₂ => ?_, fun item' hitem' => ?_⟩
  · rcases hmessage t' _ hm with ⟨-, heq⟩ | ⟨-, hm⟩
    · obtain ⟨rfl, rfl, rfl⟩ : data' = data ∧ q' = q ∧ item' = item := by simpa using heq
      exact hq
    · exact h.queue t' data' q' item' hm
  · rcases hmessage t' _ hm with ⟨-, heq⟩ | ⟨-, hm⟩
    · obtain ⟨rfl, rfl, rfl⟩ : data' = data ∧ q' = q ∧ item' = item := by simpa using heq
      refine ⟨AList.lookup_insert _, fun hhand => ?_, fun kind hmem => hcells kind _ hmem hfresh⟩
      exact (h.taken _ hhand).1 hfresh
    · obtain ⟨hlookup, hhand, hnot⟩ := h.stored t' data' q' item' hm
      refine ⟨?_, hhand, hnot⟩
      rw [hother item' (by rw [hlookup]; simp), hlookup]
  · rcases hmessage t₁ _ h₁ with ⟨rfl, heq₁⟩ | ⟨-, h₁⟩
    · obtain ⟨-, -, rfl⟩ : data₁ = data ∧ q₁ = q ∧ item' = item := by simpa using heq₁
      rcases hmessage t₂ _ h₂ with ⟨rfl, -⟩ | ⟨-, h₂⟩
      · rfl
      · exact absurd h₂ (hold t₂ data₂ q₂)
    · rcases hmessage t₂ _ h₂ with ⟨-, heq₂⟩ | ⟨-, h₂⟩
      · obtain ⟨-, -, rfl⟩ : data₂ = data ∧ q₂ = q ∧ item' = item := by simpa using heq₂
        exact absurd h₁ (hold t₁ data₁ q₁)
      · exact h.one t₁ t₂ data₁ data₂ q₁ q₂ item' h₁ h₂
  · obtain ⟨hlookup, hnot⟩ := h.taken item' hitem'
    refine ⟨?_, hnot⟩
    rwa [hother item' hlookup]

theorem InHand.putIn (h : InHand heap inst post hand cells) {data : CmdQData D} {q item : Nat}
    (hmessage : (post t).message = some (data, q, item))
    (hkept : ∀ b ∉ (cells data.kind).map Prod.fst, heap'.lookup b = heap.lookup b)
    {pc : PostPc D} (hpc : pc.message = none) :
    InHand heap' inst (Function.update post t pc) hand
      (Function.update cells data.kind (cells data.kind ++ [(item, data)])) := by
  have hother : ∀ t' m, (Function.update post t pc t').message = some m →
      t' ≠ t ∧ (post t').message = some m := by
    intro t' m hm
    rcases of_update_message hm with ⟨-, hm⟩ | hother
    · rw [hpc] at hm
      exact absurd hm (by simp)
    · exact hother
  have hnew : ∀ b, b ≠ item → (∀ kind, b ∉ (cells kind).map Prod.fst) → ∀ kind,
      b ∉ (Function.update cells data.kind (cells data.kind ++ [(item, data)]) kind).map
        Prod.fst := by
    intro b hb hnot kind
    by_cases hkind : kind = data.kind
    · rw [hkind, Function.update_self]
      simpa [hb] using hnot data.kind
    · rw [Function.update_of_ne hkind]
      exact hnot kind
  refine ⟨fun t' data' q' item' hm => h.queue t' data' q' item' (hother t' _ hm).2,
    fun t' data' q' item' hm => ?_, fun t₁ t₂ data₁ data₂ q₁ q₂ item' h₁ h₂ =>
      h.one t₁ t₂ data₁ data₂ q₁ q₂ item' (hother t₁ _ h₁).2 (hother t₂ _ h₂).2,
    fun item' hitem' => ?_⟩
  · obtain ⟨ht, hm⟩ := hother t' _ hm
    obtain ⟨hlookup, hhand, hnot⟩ := h.stored t' data' q' item' hm
    refine ⟨by rw [hkept item' (hnot _), hlookup], hhand, hnew item' ?_ hnot⟩
    rintro rfl
    exact ht (h.one t t' data data' q q' item' hmessage hm)
  · obtain ⟨hlookup, hnot⟩ := h.taken item' hitem'
    refine ⟨by rwa [hkept item' (hnot _)], hnew item' ?_ hnot⟩
    rintro rfl
    exact (h.stored t data q item' hmessage).2.1 hitem'

theorem InHand.takeOut (h : InHand heap inst post none cells) {kind : QueueKind} {a : Nat}
    {x : CmdQData D} {rest : List (Nat × CmdQData D)} (hcells : cells kind = (a, x) :: rest)
    (hstored : heap.lookup a ≠ none) (hrest : a ∉ rest.map Prod.fst)
    (hdisjoint : ∀ kind', a ∈ (cells kind').map Prod.fst → kind' = kind) :
    InHand heap inst post (some a) (Function.update cells kind rest) := by
  have hfewer : ∀ b, (∀ kind, b ∉ (cells kind).map Prod.fst) → ∀ kind',
      b ∉ (Function.update cells kind rest kind').map Prod.fst := by
    intro b hnot kind'
    by_cases hkind : kind' = kind
    · rw [hkind, Function.update_self]
      have := hnot kind
      rw [hcells] at this
      exact fun hb => this (List.mem_cons_of_mem _ hb)
    · rw [Function.update_of_ne hkind]
      exact hnot kind'
  refine ⟨h.queue, fun t' data' q' item' hm => ?_, h.one, fun item' hitem' => ?_⟩
  · obtain ⟨hlookup, -, hnot⟩ := h.stored t' data' q' item' hm
    refine ⟨hlookup, fun ha => ?_, hfewer item' hnot⟩
    obtain rfl := Option.some_inj.1 ha
    exact hnot kind (by simp [hcells])
  · obtain rfl := Option.some_inj.1 hitem'
    refine ⟨hstored, fun kind' => ?_⟩
    by_cases hkind : kind' = kind
    · rwa [hkind, Function.update_self]
    · rw [Function.update_of_ne hkind]
      exact fun hmem => hkind (hdisjoint kind' hmem)

theorem InHand.release {a : Nat} (h : InHand heap inst post (some a) cells) :
    InHand (heap.erase a) inst post none cells := by
  refine ⟨h.queue, fun t' data' q' item' hm => ?_, h.one,
    fun item' hitem' => absurd hitem' (by simp)⟩
  obtain ⟨hlookup, hhand, hnot⟩ := h.stored t' data' q' item' hm
  refine ⟨?_, by simp, hnot⟩
  rw [AList.lookup_erase_ne (fun he => hhand (by rw [he])), hlookup]

end

/-! ## The mutex -/

/-- Between `pthread_mutex_lock` and `pthread_mutex_unlock`. -/
def PostPc.critical : PostPc D → Bool
  | .enqueue .. => true
  | .unlock => true
  | _ => false

def ProcPc.critical : ProcPc → Bool
  | .dequeue => true
  | .unlock _ => true
  | _ => false

/-- The mutex is held by the one thread that is between lock and unlock. A handler posts only
while it runs. -/
structure Exclusive (mutex : Option Nat) (post : Nat → PostPc D) (proc : ProcPc) : Prop where
  posts : ∀ t, (post t).critical → mutex = some t
  procs : proc.critical → mutex = some 0
  held : ∀ t, mutex = some t → (post t).critical ∨ t = 0 ∧ proc.critical
  handler : post 0 = .idle ∨ ∃ item, proc = .callback item

section

variable {mutex : Option Nat} {post : Nat → PostPc D} {proc : ProcPc} {t : Nat}

theorem Exclusive.move (h : Exclusive mutex post proc) {pc : PostPc D}
    (hpc : pc.critical = (post t).critical) (hrun : t = 0 → ∃ item, proc = .callback item) :
    Exclusive mutex (Function.update post t pc) proc := by
  have hsame : ∀ t', (Function.update post t pc t').critical = (post t').critical := by
    intro t'
    by_cases ht : t' = t
    · rw [ht, Function.update_self, hpc]
    · rw [Function.update_of_ne ht]
  refine ⟨fun t' ht' => h.posts t' (hsame t' ▸ ht'), h.procs, fun t' ht' => ?_, ?_⟩
  · rw [hsame t']
    exact h.held t' ht'
  · by_cases ht : t = 0
    · exact .inr (hrun ht)
    · rw [Function.update_of_ne (Ne.symm ht)]
      exact h.handler

theorem Exclusive.lock (h : Exclusive none post proc) {pc : PostPc D} (hpc : pc.critical = true)
    (hrun : t = 0 → ∃ item, proc = .callback item) :
    Exclusive (some t) (Function.update post t pc) proc := by
  refine ⟨fun t' ht' => ?_, fun hproc => absurd (h.procs hproc) (by simp), fun t' ht' => ?_, ?_⟩
  · by_cases ht : t' = t
    · rw [ht]
    · rw [Function.update_of_ne ht] at ht'
      exact absurd (h.posts t' ht') (by simp)
  · obtain rfl := Option.some_inj.1 ht'
    exact .inl (by rwa [Function.update_self])
  · by_cases ht : t = 0
    · exact .inr (hrun ht)
    · rw [Function.update_of_ne (Ne.symm ht)]
      exact h.handler

theorem Exclusive.unlock (h : Exclusive mutex post proc) (ht : (post t).critical = true) :
    Exclusive none (Function.update post t .idle) proc := by
  have hmutex := h.posts t ht
  refine ⟨fun t' ht' => ?_, fun hproc => ?_, fun t' ht' => absurd ht' (by simp), ?_⟩
  · by_cases htt : t' = t
    · rw [htt, Function.update_self] at ht'
      exact absurd ht' (by simp [PostPc.critical])
    · rw [Function.update_of_ne htt] at ht'
      exact absurd (Option.some_inj.1 ((h.posts t' ht').symm.trans hmutex)) htt
  · -- the mutex would be held by `Process` too, which runs no handler then
    obtain rfl := Option.some_inj.1 ((h.procs hproc).symm.trans hmutex)
    rcases h.handler with hidle | ⟨item, hcallback⟩
    · rw [hidle] at ht
      exact absurd ht (by simp [PostPc.critical])
    · rw [hcallback] at hproc
      exact absurd hproc (by simp [ProcPc.critical])
  · by_cases htt : (0 : Nat) = t
    · rw [htt, Function.update_self]
      exact .inl rfl
    · rw [Function.update_of_ne htt]
      exact h.handler

theorem Exclusive.moveProc (h : Exclusive mutex post proc) (hidle : post 0 = .idle) {pc : ProcPc}
    (hpc : pc.critical = proc.critical) : Exclusive mutex post pc := by
  refine ⟨h.posts, fun hproc => h.procs (hpc ▸ hproc), fun t ht => ?_, .inl hidle⟩
  rw [hpc]
  exact h.held t ht

theorem Exclusive.lockProc (h : Exclusive none post proc) (hidle : post 0 = .idle) {pc : ProcPc}
    (hpc : pc.critical = true) : Exclusive (some 0) post pc := by
  refine ⟨fun t ht => absurd (h.posts t ht) (by simp), fun _ => rfl, fun t ht => ?_, .inl hidle⟩
  exact .inr ⟨(Option.some_inj.1 ht).symm, hpc⟩

theorem Exclusive.unlockProc (h : Exclusive mutex post proc) (hidle : post 0 = .idle)
    (hproc : proc.critical = true) {pc : ProcPc} (hpc : pc.critical = false) :
    Exclusive none post pc := by
  refine ⟨fun t ht => ?_, fun hpc' => ?_, fun t ht => absurd ht (by simp), .inl hidle⟩
  · obtain rfl := Option.some_inj.1 ((h.procs hproc).symm.trans (h.posts t ht))
    rw [hidle] at ht
    exact absurd ht (by simp [PostPc.critical])
  · rw [hpc] at hpc'
    exact absurd hpc' (by simp)

theorem Exclusive.one (h : Exclusive mutex post proc) :
    (∀ t t', (post t).critical → (post t').critical → t = t') ∧
      ∀ t, (post t).critical → ¬ proc.critical := by
  refine ⟨fun t t' ht ht' => ?_, fun t ht hproc => ?_⟩
  · exact Option.some_inj.1 ((h.posts t ht).symm.trans (h.posts t' ht'))
  · obtain rfl := Option.some_inj.1 ((h.posts t ht).symm.trans (h.procs hproc))
    rcases h.handler with hidle | ⟨item, hcallback⟩
    · rw [hidle] at ht
      exact absurd ht (by simp [PostPc.critical])
    · rw [hcallback] at hproc
      exact absurd hproc (by simp [ProcPc.critical])

end

end Axon7.Dispatch
