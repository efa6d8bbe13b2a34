import Axon7.Lib.Walk

/-!
# Bucket chains with back links

The overflow scheme of a hash table whose cells are numbered in one space:
some cells are buckets, some are overflow cells, and each occupied bucket
heads a chain of overflow cells linked forwards by `next` and backwards by
`prev`. `Chained` is the whole invariant, with the list of overflow cells
behind each bucket as a ghost argument.

The moves are the ones a table makes: hook a fresh cell behind the last one,
bypass an overflow cell, and occupy or vacate a bucket that heads nothing.
Each is stated pointwise on the occupancy and on the two link functions, and
each says what the ghost lists become.
-/

namespace Axon7.Lib

variable {α : Type*} {nil : α} {isBucket isCell : α → Prop}
  {occ occ' : α → Prop} {next next' prev prev' : α → α} {tail : α → List α}

/-- Every bucket's walk is the bucket and its overflow cells, the cells are
occupied and name their predecessor, and every occupied cell is behind exactly
one bucket. -/
structure Chained (nil : α) (isBucket isCell occ : α → Prop)
    (next prev : α → α) (tail : α → List α) : Prop where
  walk : ∀ b, isBucket b → Walk nil next b (b :: tail b)
  cells : ∀ b x, isBucket b → x ∈ tail b → isCell x ∧ occ x
  vacant : ∀ b, isBucket b → ¬ occ b → tail b = []
  back : ∀ b x, isBucket b → x ∈ tail b →
    prev x ∈ b :: tail b ∧ next (prev x) = x
  cover : ∀ x, isCell x → occ x → ∃ b, isBucket b ∧ x ∈ tail b
  disjoint : ∀ b b' x, isBucket b → isBucket b' → x ∈ tail b → x ∈ tail b' →
    b = b'

namespace Chained

variable (h : Chained nil isBucket isCell occ next prev tail)
include h

theorem occ_head {b x : α} (hb : isBucket b) (hx : x ∈ tail b) : occ b := by
  by_contra hocc
  rw [h.vacant b hb hocc] at hx
  cases hx

theorem nodup {b : α} (hb : isBucket b) : (b :: tail b).Nodup :=
  (h.walk b hb).nodup

theorem tail_nil_iff {b : α} (hb : isBucket b) :
    tail b = [] ↔ next b = nil := by
  have hw := h.walk b hb
  constructor
  · intro ht
    rw [ht] at hw
    exact hw.next_last (l := [])
  · intro hn
    have ht := hw.tail_walk
    rw [hn] at ht
    exact ht.unique .stop

theorem ne_nil {b x : α} (hb : isBucket b) (hx : x ∈ b :: tail b) :
    x ≠ nil :=
  (h.walk b hb).ne_nil_of_mem hx

theorem split {b e : α} (hb : isBucket b) (he : e ∈ tail b) :
    ∃ l₁ l₂, b :: tail b = l₁ ++ prev e :: e :: l₂ := by
  obtain ⟨hp, hnp⟩ := h.back b e hb he
  have hne : next (prev e) ≠ nil := by
    rw [hnp]
    exact h.ne_nil hb (List.mem_cons_of_mem _ he)
  obtain ⟨l₁, l₂, hl⟩ := (h.walk b hb).next_split hp hne
  exact ⟨l₁, l₂, by rw [hl, hnp]⟩

theorem prev_ne {b e : α} (hb : isBucket b) (he : e ∈ tail b) :
    prev e ≠ e := by
  obtain ⟨l₁, l₂, hl⟩ := h.split hb he
  have hnd := h.nodup hb
  rw [hl] at hnd
  have := (List.nodup_append.mp hnd).2.1
  simp only [List.nodup_cons, List.mem_cons, not_or] at this
  exact this.1.1

theorem next_mem {b e : α} (hb : isBucket b) (he : e ∈ b :: tail b)
    (hne : next e ≠ nil) :
    next e ∈ tail b ∧ prev (next e) = e ∧ next e ≠ e := by
  have hw := h.walk b hb
  obtain ⟨l₁, l₂, hl⟩ := hw.next_split he hne
  have hmem : next e ∈ tail b := by
    cases l₁ with
    | nil =>
      rw [List.nil_append] at hl
      rw [(List.cons.inj hl).2]
      exact List.mem_cons_self
    | cons z l₁ =>
      rw [List.cons_append] at hl
      rw [(List.cons.inj hl).2]
      simp
  obtain ⟨hp, hnp⟩ := h.back b _ hb hmem
  have hpe : prev (next e) = e :=
    hw.next_inj hp he hnp (by rw [hnp]; exact hne)
  refine ⟨hmem, hpe, fun heq => ?_⟩
  exact h.prev_ne hb hmem (by rw [hpe, heq])

theorem prev_ne_next {b e : α} (hb : isBucket b) (he : e ∈ tail b)
    (hne : next e ≠ nil) : prev e ≠ next e := by
  intro heq
  have hmem := List.mem_cons_of_mem b he
  have hnn : next (next e) = e := heq ▸ (h.back b e hb he).2
  obtain ⟨l₁, l₂, hl⟩ := (h.walk b hb).next_split hmem hne
  have hw := h.walk b hb
  have hnd := h.nodup hb
  rw [hl] at hw hnd
  -- following the link of the successor would come back to `e`
  have hback : Walk nil next (next e) (next e :: l₂) := by
    have : Walk nil next b ((l₁ ++ [e]) ++ next e :: l₂) := by simpa using hw
    exact this.of_append
  have htl := hback.tail_walk
  rw [hnn] at htl
  have he₂ : e ∈ l₂ := by
    cases htl with
    | stop => exact absurd rfl (h.ne_nil hb hmem)
    | step _ _ => exact List.mem_cons_self
  have := (List.nodup_append.mp hnd).2.1
  simp [he₂] at this

theorem bucket_unique (hsep : ∀ x, isBucket x → ¬ isCell x) {b b' x : α}
    (hb : isBucket b) (hb' : isBucket b') (hx : x ∈ b :: tail b)
    (hx' : x ∈ b' :: tail b') : b = b' := by
  rcases List.mem_cons.mp hx with hxb | hxb <;>
    rcases List.mem_cons.mp hx' with hxb' | hxb'
  · exact hxb.symm.trans hxb'
  · exact absurd (h.cells b' x hb' hxb').1 (hsep x (hxb ▸ hb))
  · exact absurd (h.cells b x hb hxb).1 (hsep x (hxb' ▸ hb'))
  · exact h.disjoint b b' x hb hb' hxb hxb'

theorem congr (hocc : ∀ x, isBucket x ∨ isCell x → (occ' x ↔ occ x))
    (hn : ∀ x, isBucket x ∨ occ x → next' x = next x)
    (hp : ∀ x, isCell x → occ x → prev' x = prev x) :
    Chained nil isBucket isCell occ' next' prev' tail where
  walk b hb := (h.walk b hb).congr fun x hx => by
    rcases List.mem_cons.mp hx with rfl | hx
    · exact hn _ (.inl hb)
    · exact hn _ (.inr (h.cells b x hb hx).2)
  cells b x hb hx :=
    have hc := h.cells b x hb hx
    ⟨hc.1, (hocc x (.inr hc.1)).mpr hc.2⟩
  vacant b hb hv := h.vacant b hb fun ho => hv ((hocc b (.inl hb)).mpr ho)
  back b x hb hx := by
    have hc := h.cells b x hb hx
    obtain ⟨hpm, hnp⟩ := h.back b x hb hx
    rw [hp x hc.1 hc.2]
    refine ⟨hpm, (hn _ ?_).trans hnp⟩
    rcases List.mem_cons.mp hpm with hpb | hpt
    · exact .inl (hpb ▸ hb)
    · exact .inr (h.cells b _ hb hpt).2
  cover x hx ho := h.cover x hx ((hocc x (.inr hx)).mp ho)
  disjoint := h.disjoint

theorem reoccupy (hcell : ∀ x, isCell x → (occ' x ↔ occ x))
    (hbucket : ∀ b, isBucket b → tail b ≠ [] → occ' b) :
    Chained nil isBucket isCell occ' next prev tail where
  walk := h.walk
  cells b x hb hx :=
    have hc := h.cells b x hb hx
    ⟨hc.1, (hcell x hc.1).mpr hc.2⟩
  vacant b hb hv := by
    by_contra hne
    exact hv (hbucket b hb hne)
  back := h.back
  cover x hx ho := h.cover x hx ((hcell x hx).mp ho)
  disjoint := h.disjoint

variable [DecidableEq α]

theorem append (hsep : ∀ x, isBucket x → ¬ isCell x) {b p e : α}
    (hb : isBucket b) (hob : occ b) (he : isCell e) (hnil : e ≠ nil)
    (hfree : ¬ occ e) (hpm : p ∈ b :: tail b) (hpl : next p = nil)
    (hp : next' p = e) (hne : next' e = nil)
    (hn : ∀ x, x ≠ p → x ≠ e → next' x = next x)
    (hpe : prev' e = p) (hpv : ∀ x, isCell x → x ≠ e → prev' x = prev x)
    (hocc : ∀ x, isBucket x ∨ isCell x → (occ' x ↔ occ x ∨ x = e)) :
    Chained nil isBucket isCell occ' next' prev'
      (Function.update tail b (tail b ++ [e])) := by
  have hmem : ∀ b' x, isBucket b' → x ∈ b' :: tail b' → x ≠ e := by
    rintro b' x hb' hx rfl
    rcases List.mem_cons.mp hx with rfl | hx
    · exact hsep _ hb' he
    · exact hfree (h.cells b' _ hb' hx).2
  obtain ⟨l, hl⟩ : ∃ l, b :: tail b = l ++ [p] := by
    obtain ⟨l₁, l₂, hl⟩ := List.append_of_mem hpm
    cases l₂ with
    | nil => exact ⟨l₁, hl⟩
    | cons y l₂ =>
      have hw := h.walk b hb
      rw [hl] at hw
      exact absurd (hw.next_eq.symm.trans hpl)
        (hw.ne_nil_of_mem (by simp))
  have hlp : ∀ x ∈ l, x ≠ p := by
    have hnd := h.nodup hb
    rw [hl] at hnd
    rintro x hx rfl
    exact (List.nodup_append.mp hnd).2.2 x hx x (by simp) rfl
  have hother : ∀ b', isBucket b' → b' ≠ b → ∀ x ∈ b' :: tail b', x ≠ p := by
    rintro b' hb' hbb x hx rfl
    exact hbb (h.bucket_unique hsep hb' hb hx hpm)
  have hback : ∀ b' x, isBucket b' → x ∈ tail b' →
      prev' x ∈ b' :: tail b' ∧ next' (prev' x) = x := by
    intro b' x hb' hx
    have hxe := hmem b' x hb' (List.mem_cons_of_mem _ hx)
    obtain ⟨hpx, hnx⟩ := h.back b' x hb' hx
    rw [hpv x (h.cells b' x hb' hx).1 hxe]
    refine ⟨hpx, (hn _ ?_ (hmem b' _ hb' hpx)).trans hnx⟩
    rintro heq
    rw [heq, hpl] at hnx
    exact h.ne_nil hb' (List.mem_cons_of_mem _ hx) hnx.symm
  refine
    { walk := fun b' hb' => ?_
      cells := fun b' x hb' hx => ?_
      vacant := fun b' hb' hv => ?_
      back := fun b' x hb' hx => ?_
      cover := fun x hx ho => ?_
      disjoint := fun b₁ b₂ x hb₁ hb₂ h₁ h₂ => ?_ }
  · rcases eq_or_ne b' b with rfl | hbb
    · rw [Function.update_self]
      have hw := h.walk b' hb
      rw [hl] at hw
      have := hw.append hnil hp hne fun x hx => hn x (hlp x hx) <|
        hmem b' x hb (by rw [hl]; simp [hx])
      rwa [← hl, List.cons_append] at this
    · rw [Function.update_of_ne hbb]
      exact (h.walk b' hb').congr fun x hx =>
        hn x (hother b' hb' hbb x hx) (hmem b' x hb' hx)
  · rcases eq_or_ne b' b with rfl | hbb
    · rw [Function.update_self] at hx
      rcases List.mem_append.mp hx with hx | hx
      · have hc := h.cells b' x hb hx
        exact ⟨hc.1, (hocc x (.inr hc.1)).mpr (.inl hc.2)⟩
      · obtain rfl := List.mem_singleton.mp hx
        exact ⟨he, (hocc x (.inr he)).mpr (.inr rfl)⟩
    · rw [Function.update_of_ne hbb] at hx
      have hc := h.cells b' x hb' hx
      exact ⟨hc.1, (hocc x (.inr hc.1)).mpr (.inl hc.2)⟩
  · rcases eq_or_ne b' b with rfl | hbb
    · exact absurd ((hocc b' (.inl hb)).mpr (.inl hob)) hv
    · rw [Function.update_of_ne hbb]
      exact h.vacant b' hb' fun ho => hv ((hocc b' (.inl hb')).mpr (.inl ho))
  · rcases eq_or_ne b' b with rfl | hbb
    · rw [Function.update_self] at hx ⊢
      rw [← List.cons_append]
      rcases List.mem_append.mp hx with hx | hx
      · have hbx := hback b' x hb hx
        exact ⟨List.mem_append_left _ hbx.1, hbx.2⟩
      · obtain rfl := List.mem_singleton.mp hx
        rw [hpe]
        exact ⟨List.mem_append_left _ hpm, hp⟩
    · rw [Function.update_of_ne hbb] at hx ⊢
      exact hback b' x hb' hx
  · rcases (hocc x (.inr hx)).mp ho with ho | rfl
    · obtain ⟨b', hb', hxb⟩ := h.cover x hx ho
      refine ⟨b', hb', ?_⟩
      rcases eq_or_ne b' b with rfl | hbb
      · rw [Function.update_self]
        exact List.mem_append_left _ hxb
      · rwa [Function.update_of_ne hbb]
    · exact ⟨b, hb, by rw [Function.update_self]; simp⟩
  · have key : ∀ b', isBucket b' →
        x ∈ Function.update tail b (tail b ++ [e]) b' →
        (x = e ∧ b' = b) ∨ (x ∈ tail b' ∧ x ≠ e) := by
      intro b' hb' hx
      rcases eq_or_ne b' b with rfl | hbb
      · rw [Function.update_self] at hx
        rcases List.mem_append.mp hx with hx | hx
        · exact .inr ⟨hx, hmem b' x hb (List.mem_cons_of_mem _ hx)⟩
        · exact .inl ⟨List.mem_singleton.mp hx, rfl⟩
      · rw [Function.update_of_ne hbb] at hx
        exact .inr ⟨hx, hmem b' x hb' (List.mem_cons_of_mem _ hx)⟩
    rcases key b₁ hb₁ h₁ with ⟨hxe, rfl⟩ | ⟨hx₁, hxe⟩ <;>
      rcases key b₂ hb₂ h₂ with ⟨hxe', rfl⟩ | ⟨hx₂, hxe'⟩
    · rfl
    · exact absurd hxe hxe'
    · exact absurd hxe' hxe
    · exact h.disjoint b₁ b₂ x hb₁ hb₂ hx₁ hx₂

theorem walk_unlink (hsep : ∀ x, isBucket x → ¬ isCell x) {b e : α}
    (hb : isBucket b) (he : e ∈ tail b) (hp : next' (prev e) = next e)
    (hn : ∀ x, x ≠ prev e → x ≠ e → next' x = next x) :
    Walk nil next' b (b :: (tail b).erase e) := by
  obtain ⟨l₁, l₂, hl⟩ := h.split hb he
  have hnd := h.nodup hb
  rw [hl] at hnd
  have hp₁ : prev e ∉ l₁ ∧ prev e ≠ e ∧ prev e ∉ l₂ := by
    have := List.nodup_middle.mp hnd
    simp only [List.nodup_cons, List.mem_append, List.mem_cons, not_or] at this
    exact ⟨this.1.1, this.1.2.1, this.1.2.2⟩
  have he₁ : e ∉ l₁ ∧ e ∉ l₂ := by
    have : (l₁ ++ [prev e] ++ e :: l₂).Nodup := by simpa using hnd
    have := List.nodup_middle.mp this
    simp only [List.nodup_cons, List.mem_append, List.mem_singleton,
      not_or] at this
    exact ⟨this.1.1.1, this.1.2⟩
  have hbe : b ≠ e := by
    rintro rfl
    exact hsep _ hb (h.cells _ _ hb he).1
  have herase : b :: (tail b).erase e = l₁ ++ prev e :: l₂ := by
    rw [← List.erase_cons_tail (by simpa using hbe), hl,
      List.erase_append_right _ he₁.1,
      List.erase_cons_tail (by simpa using hp₁.2.1), List.erase_cons_head]
  have hw := h.walk b hb
  rw [hl] at hw
  rw [herase]
  refine hw.unlink hp fun x hx => ?_
  rcases List.mem_append.mp hx with hx | hx
  · exact hn x (fun hxp => hp₁.1 (hxp ▸ hx)) fun hxe => he₁.1 (hxe ▸ hx)
  · exact hn x (fun hxp => hp₁.2.2 (hxp ▸ hx)) fun hxe => he₁.2 (hxe ▸ hx)

theorem unlink (hsep : ∀ x, isBucket x → ¬ isCell x) {b e : α}
    (hb : isBucket b) (he : e ∈ tail b) (hp : next' (prev e) = next e)
    (hn : ∀ x, x ≠ prev e → x ≠ e → next' x = next x)
    (hs : next e ≠ nil → prev' (next e) = prev e)
    (hpv : ∀ x, isCell x → x ≠ e → x ≠ next e → prev' x = prev x)
    (hocc : ∀ x, isBucket x ∨ isCell x → (occ' x ↔ occ x ∧ x ≠ e)) :
    Chained nil isBucket isCell occ' next' prev'
      (Function.update tail b ((tail b).erase e)) := by
  have hce := (h.cells b e hb he).1
  have hndt := (List.nodup_cons.mp (h.nodup hb)).2
  have heb : e ∈ b :: tail b := List.mem_cons_of_mem _ he
  have hpe := h.back b e hb he
  have hother : ∀ b', isBucket b' → b' ≠ b →
      ∀ x ∈ b' :: tail b', x ≠ prev e ∧ x ≠ e := by
    intro b' hb' hbb x hx
    constructor <;> rintro rfl
    · exact hbb (h.bucket_unique hsep hb' hb hx hpe.1)
    · exact hbb (h.bucket_unique hsep hb' hb hx heb)
  have hlist : ∀ b' x, isBucket b' →
      (x ∈ Function.update tail b ((tail b).erase e) b' ↔
        x ∈ tail b' ∧ x ≠ e) := by
    intro b' x hb'
    rcases eq_or_ne b' b with rfl | hbb
    · rw [Function.update_self, hndt.mem_erase_iff, and_comm]
    · rw [Function.update_of_ne hbb]
      exact ⟨fun hx => ⟨hx, (hother b' hb' hbb x (by simp [hx])).2⟩, And.left⟩
  have hback : ∀ b' x, isBucket b' → x ∈ tail b' → x ≠ e →
      prev' x ∈ b' :: tail b' ∧ prev' x ≠ e ∧ next' (prev' x) = x := by
    intro b' x hb' hx hxe
    obtain ⟨hpx, hnx⟩ := h.back b' x hb' hx
    rcases eq_or_ne x (next e) with hxs | hxs
    · have hne : next e ≠ nil :=
        hxs ▸ h.ne_nil hb' (List.mem_cons_of_mem _ hx)
      have hb'b : b' = b := h.disjoint b' b x hb' hb hx <| by
        rw [hxs]
        exact (h.next_mem hb heb hne).1
      rw [hxs, hs hne, hb'b]
      exact ⟨hpe.1, h.prev_ne hb he, hp⟩
    · have hpxe : prev x ≠ e := fun heq => hxs (by rw [← heq, hnx])
      have hpxp : prev x ≠ prev e := by
        intro heq
        rw [heq, hpe.2] at hnx
        exact hxe hnx.symm
      rw [hpv x (h.cells b' x hb' hx).1 hxe hxs]
      exact ⟨hpx, hpxe, (hn _ hpxp hpxe).trans hnx⟩
  refine
    { walk := fun b' hb' => ?_
      cells := fun b' x hb' hx => ?_
      vacant := fun b' hb' hv => ?_
      back := fun b' x hb' hx => ?_
      cover := fun x hx ho => ?_
      disjoint := fun b₁ b₂ x hb₁ hb₂ h₁ h₂ => ?_ }
  · rcases eq_or_ne b' b with rfl | hbb
    · rw [Function.update_self]
      exact h.walk_unlink hsep hb he hp hn
    · rw [Function.update_of_ne hbb]
      exact (h.walk b' hb').congr fun x hx =>
        have hx := hother b' hb' hbb x hx
        hn x hx.1 hx.2
  · obtain ⟨hx, hxe⟩ := (hlist b' x hb').mp hx
    have hc := h.cells b' x hb' hx
    exact ⟨hc.1, (hocc x (.inr hc.1)).mpr ⟨hc.2, hxe⟩⟩
  · have hbe : b' ≠ e := by
      rintro rfl
      exact hsep _ hb' hce
    have ht := h.vacant b' hb' fun ho =>
      hv ((hocc b' (.inl hb')).mpr ⟨ho, hbe⟩)
    rcases eq_or_ne b' b with rfl | hbb
    · rw [ht] at he
      cases he
    · rwa [Function.update_of_ne hbb]
  · obtain ⟨hx, hxe⟩ := (hlist b' x hb').mp hx
    obtain ⟨hm, hne, hnx⟩ := hback b' x hb' hx hxe
    refine ⟨?_, hnx⟩
    rcases List.mem_cons.mp hm with hm | hm
    · rw [hm]
      exact List.mem_cons_self
    · exact List.mem_cons_of_mem _ ((hlist b' _ hb').mpr ⟨hm, hne⟩)
  · obtain ⟨hox, hxe⟩ := (hocc x (.inr hx)).mp ho
    obtain ⟨b', hb', hxb⟩ := h.cover x hx hox
    exact ⟨b', hb', (hlist b' x hb').mpr ⟨hxb, hxe⟩⟩
  · exact h.disjoint b₁ b₂ x hb₁ hb₂ ((hlist b₁ x hb₁).mp h₁).1
      ((hlist b₂ x hb₂).mp h₂).1

end Chained

/-! ## The two moves, with the lists left open

What a caller wants of a move is that nothing else gets lost: every cell that
was behind a bucket still is, except the one taken out. -/

/-- Where a new entry of the bucket `b` goes: into the bucket itself while it
is vacant, otherwise into a free cell `e` behind the last cell `p`. -/
inductive Place (nil : α) (isCell occ : α → Prop) (next : α → α)
    (tail : α → List α) (b : α) : α → α → Prop
  | vacant : ¬ occ b → Place nil isCell occ next tail b nil b
  | behind {p e : α} : occ b → p ∈ b :: tail b → next p = nil → p ≠ nil →
      isCell e → e ≠ nil → ¬ occ e → Place nil isCell occ next tail b p e

theorem Place.not_occ {b p e : α}
    (hpl : Place nil isCell occ next tail b p e) : ¬ occ e := by
  cases hpl with
  | vacant h => exact h
  | behind _ _ _ _ _ _ h => exact h

theorem Place.cell {b p e : α} (hpl : Place nil isCell occ next tail b p e)
    (hp : p ≠ nil) : isCell e := by
  cases hpl with
  | vacant _ => exact absurd rfl hp
  | behind _ _ _ _ hc _ _ => exact hc

theorem Place.entry {b p e : α}
    (hpl : Place nil isCell occ next tail b p e) : e = b ∨ isCell e := by
  cases hpl with
  | vacant _ => exact .inl rfl
  | behind _ _ _ _ hc _ _ => exact .inr hc

namespace Chained

variable (h : Chained nil isBucket isCell occ next prev tail)
include h

theorem place_prev_occ {b p e : α} (hb : isBucket b)
    (hpl : Place nil isCell occ next tail b p e) (hp : p ≠ nil) : occ p := by
  cases hpl with
  | vacant _ => exact absurd rfl hp
  | behind hob hpm _ _ _ _ _ =>
    rcases List.mem_cons.mp hpm with rfl | hpm
    · exact hob
    · exact (h.cells b p hb hpm).2

variable [DecidableEq α]

theorem place (occ' : α → Prop) (next' prev' : α → α)
    (hsep : ∀ x, isBucket x → ¬ isCell x) {b p e : α}
    (hb : isBucket b) (hpl : Place nil isCell occ next tail b p e)
    (hne : next' e = nil) (hp : p ≠ nil → next' p = e)
    (hn : ∀ x, x ≠ e → (p ≠ nil → x ≠ p) → next' x = next x)
    (hpe : p ≠ nil → prev' e = p)
    (hpv : ∀ x, isCell x → x ≠ e → prev' x = prev x)
    (hocc : ∀ x, isBucket x ∨ isCell x → (occ' x ↔ occ x ∨ x = e)) :
    ∃ tail', Chained nil isBucket isCell occ' next' prev' tail' ∧
      e ∈ b :: tail' b ∧
      ∀ b' x, x ∈ b' :: tail b' → x ∈ b' :: tail' b' := by
  cases hpl with
  | vacant hv =>
    have hcell : ∀ x, isCell x → x ≠ b := fun x hx hxb => hsep b hb (hxb ▸ hx)
    -- only the bucket's own occupancy changes, and it heads nothing
    have hlinks : Chained nil isBucket isCell occ next' prev' tail := by
      refine h.congr (fun _ _ => Iff.rfl) (fun x _ => ?_)
        fun x hx _ => hpv x hx (hcell x hx)
      rcases eq_or_ne x b with rfl | hxb
      · rw [hne, (h.tail_nil_iff hb).mp (h.vacant _ hb hv)]
      · exact hn x hxb fun hpp => absurd rfl hpp
    refine ⟨tail, hlinks.reoccupy (fun x hx => ?_) (fun b' hb' ht => ?_),
      List.mem_cons_self, fun _ _ => id⟩
    · exact (hocc x (.inr hx)).trans (or_iff_left (hcell x hx))
    · refine (hocc b' (.inl hb')).mpr (.inl ?_)
      by_contra hv'
      exact ht (h.vacant b' hb' hv')
  | behind hob hpm hpl hpn he hnil hfree =>
    refine ⟨_, h.append hsep hb hob he hnil hfree hpm hpl (hp hpn) hne
      (fun x hxp hxe => hn x hxe fun _ => hxp) (hpe hpn) hpv hocc, ?_,
      fun b' x hx => ?_⟩
    · rw [Function.update_self]
      simp
    · rcases eq_or_ne b' b with rfl | hbb
      · rw [Function.update_self, ← List.cons_append]
        exact List.mem_append_left _ hx
      · rwa [Function.update_of_ne hbb]

theorem remove (occ' : α → Prop) (next' prev' : α → α)
    (hsep : ∀ x, isBucket x → ¬ isCell x) {b e : α}
    (hb : isBucket b) (he : e ∈ tail b) (hp : next' (prev e) = next e)
    (hn : ∀ x, x ≠ prev e → x ≠ e → next' x = next x)
    (hs : next e ≠ nil → prev' (next e) = prev e)
    (hpv : ∀ x, isCell x → x ≠ e → x ≠ next e → prev' x = prev x)
    (hocc : ∀ x, isBucket x ∨ isCell x → (occ' x ↔ occ x ∧ x ≠ e)) :
    ∃ tail', Chained nil isBucket isCell occ' next' prev' tail' ∧
      ∀ b' x, x ≠ e → x ∈ b' :: tail b' → x ∈ b' :: tail' b' := by
  refine ⟨_, h.unlink hsep hb he hp hn hs hpv hocc, fun b' x hxe hx => ?_⟩
  rcases eq_or_ne b' b with rfl | hbb
  · rw [Function.update_self]
    rcases List.mem_cons.mp hx with rfl | hx
    · exact List.mem_cons_self
    · exact List.mem_cons_of_mem _ ((List.mem_erase_of_ne hxe).mpr hx)
  · rwa [Function.update_of_ne hbb]

end Chained

end Axon7.Lib
