import Mathlib

/-!
# Walks along a successor field

A singly linked chain kept in a table is a successor function and a null
value. `Walk nil next a l` says that following `next` from `a` visits exactly
the cells of `l`, in order, and then reaches `nil`. Everything a table update
does to a chain is one of two moves: a cell is hooked behind the last one, or
a cell is bypassed by its predecessor. Both are stated pointwise on the new
successor function, so that a caller whose updates have another shape only
has to say what they do at each cell.

A walk is determined by its start, and a cell met twice would have two walks
of different lengths; that is all there is to acyclicity here.
-/

namespace Axon7.Lib

variable {α : Type*} {nil : α} {next next' : α → α}

/-- Following `next` from `a` visits the cells of `l` and stops at `nil`. -/
inductive Walk (nil : α) (next : α → α) : α → List α → Prop
  | stop : Walk nil next nil []
  | step {a : α} {l : List α} : a ≠ nil → Walk nil next (next a) l →
      Walk nil next a (a :: l)

namespace Walk

theorem unique {a : α} {l l' : List α} (h : Walk nil next a l)
    (h' : Walk nil next a l') : l = l' := by
  induction h generalizing l' with
  | stop =>
    cases h' with
    | stop => rfl
    | step hne _ => exact absurd rfl hne
  | step hne _ ih =>
    cases h' with
    | stop => exact absurd rfl hne
    | step _ hw => rw [ih hw]

theorem ne_nil_of_mem {a x : α} {l : List α} (h : Walk nil next a l)
    (hx : x ∈ l) : x ≠ nil := by
  induction h with
  | stop => cases hx
  | step hne _ ih =>
    rcases List.mem_cons.mp hx with rfl | hmem
    · exact hne
    · exact ih hmem

theorem of_append {a x : α} {l₁ l₂ : List α}
    (h : Walk nil next a (l₁ ++ x :: l₂)) : Walk nil next x (x :: l₂) := by
  induction l₁ generalizing a with
  | nil =>
    cases h with
    | step hne hw => exact .step hne hw
  | cons y l₁ ih =>
    cases h with
    | step _ hw => exact ih hw

theorem next_eq {a x y : α} {l₁ l₂ : List α}
    (h : Walk nil next a (l₁ ++ x :: y :: l₂)) : next x = y := by
  cases h.of_append with
  | step _ hw =>
    cases hw with
    | step _ _ => rfl

theorem next_last {a x : α} {l : List α}
    (h : Walk nil next a (l ++ [x])) : next x = nil := by
  cases h.of_append with
  | step _ hw =>
    generalize next x = y at hw
    cases hw with
    | stop => rfl

theorem tail_walk {a : α} {l : List α} (h : Walk nil next a (a :: l)) :
    Walk nil next (next a) l := by
  cases h with
  | step _ hw => exact hw

theorem nodup {a : α} {l : List α} (h : Walk nil next a l) : l.Nodup := by
  induction h with
  | stop => exact List.nodup_nil
  | @step a l hne hw ih =>
    refine List.nodup_cons.mpr ⟨fun hmem => ?_, ih⟩
    obtain ⟨l₁, l₂, rfl⟩ := List.append_of_mem hmem
    have hlen := (Walk.step hne hw).unique hw.of_append
    have := congrArg List.length hlen
    simp only [List.length_cons, List.length_append] at this
    omega

theorem next_split {a x : α} {l : List α} (h : Walk nil next a l)
    (hx : x ∈ l) (hne : next x ≠ nil) :
    ∃ l₁ l₂, l = l₁ ++ x :: next x :: l₂ := by
  obtain ⟨l₁, l₂, rfl⟩ := List.append_of_mem hx
  cases l₂ with
  | nil => exact absurd h.next_last hne
  | cons y l₂ => exact ⟨l₁, l₂, by rw [h.next_eq]⟩

theorem next_inj {a x y : α} {l : List α} (h : Walk nil next a l)
    (hx : x ∈ l) (hy : y ∈ l) (heq : next x = next y) (hne : next x ≠ nil) :
    x = y := by
  obtain ⟨l₁, l₂, rfl⟩ := h.next_split hx hne
  have hnd := h.nodup
  by_contra hxy
  obtain ⟨m₁, m₂, hm⟩ := h.next_split hy (heq ▸ hne)
  rw [← heq] at hm
  -- the two splits cut the list at the same place: at `next x`
  have hcut : l₁ ++ [x] = m₁ ++ [y] := by
    have hl : (l₁ ++ [x]) ++ next x :: l₂ = (m₁ ++ [y]) ++ next x :: m₂ := by
      simpa using hm
    have hnd' : ((l₁ ++ [x]) ++ next x :: l₂).Nodup := by simpa using hnd
    have hndm : ((m₁ ++ [y]) ++ next x :: m₂).Nodup := hl ▸ hnd'
    have h₁ : next x ∉ l₁ ++ [x] := fun hmem =>
      (List.nodup_append.mp hnd').2.2 _ hmem _ List.mem_cons_self rfl
    have h₂ : next x ∉ m₁ ++ [y] := fun hmem =>
      (List.nodup_append.mp hndm).2.2 _ hmem _ List.mem_cons_self rfl
    rcases List.append_eq_append_iff.mp hl with ⟨d, hd, hd'⟩ | ⟨d, hd, hd'⟩
    · cases d with
      | nil => simpa using hd.symm
      | cons z d =>
        rw [List.cons_append] at hd'
        rw [hd, ← (List.cons.inj hd').1] at h₂
        exact absurd (by simp) h₂
    · cases d with
      | nil => simpa using hd
      | cons z d =>
        rw [List.cons_append] at hd'
        rw [hd, ← (List.cons.inj hd').1] at h₁
        exact absurd (by simp) h₁
  exact hxy (List.append_inj' hcut rfl |>.2 |> List.singleton_inj.mp)

theorem congr {a : α} {l : List α} (h : Walk nil next a l)
    (heq : ∀ x ∈ l, next' x = next x) : Walk nil next' a l := by
  induction h with
  | stop => exact .stop
  | @step a l hne _ ih =>
    refine .step hne ?_
    rw [heq a List.mem_cons_self]
    exact ih fun x hx => heq x (List.mem_cons_of_mem _ hx)

theorem append {a p e : α} {l : List α} (h : Walk nil next a (l ++ [p]))
    (he : e ≠ nil) (hp : next' p = e) (hnil : next' e = nil)
    (heq : ∀ x ∈ l, next' x = next x) :
    Walk nil next' a (l ++ [p] ++ [e]) := by
  induction l generalizing a with
  | nil =>
    cases h with
    | step hne _ =>
      refine .step hne ?_
      rw [hp]
      exact .step he (by rw [hnil]; exact .stop)
  | cons y l ih =>
    cases h with
    | step hne hw =>
      refine .step hne ?_
      rw [heq _ List.mem_cons_self]
      exact ih hw fun x hx => heq x (List.mem_cons_of_mem _ hx)

theorem unlink {a p e : α} {l₁ l₂ : List α}
    (h : Walk nil next a (l₁ ++ p :: e :: l₂)) (hp : next' p = next e)
    (heq : ∀ x ∈ l₁ ++ l₂, next' x = next x) :
    Walk nil next' a (l₁ ++ p :: l₂) := by
  induction l₁ generalizing a with
  | nil =>
    cases h with
    | step hne hw =>
      cases hw with
      | step _ hw =>
        refine .step hne ?_
        rw [hp]
        exact hw.congr heq
  | cons y l₁ ih =>
    cases h with
    | step hne hw =>
      refine .step hne ?_
      rw [heq _ List.mem_cons_self]
      exact ih hw fun x hx => heq x (List.mem_cons_of_mem _ hx)

end Walk

theorem length_le_card_of_nodup [DecidableEq α] {l : List α} (hl : l.Nodup)
    {s : Finset α} (hs : ∀ x ∈ l, x ∈ s) : l.length ≤ s.card := by
  rw [← List.toFinset_card_of_nodup hl]
  exact Finset.card_le_card fun x hx => hs x (List.mem_toFinset.mp hx)

end Axon7.Lib
