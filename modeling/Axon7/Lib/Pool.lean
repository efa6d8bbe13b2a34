import Mathlib

/-!
# Handles for resources

A pool hands out handles for resources and takes them back. A client *owns*
the resources on its books when the pool holds exactly these, under handles of
their own, and has never been asked for one it does not hold. Ownership
splits: an operation that keeps the books of its own part keeps those of the
whole, whatever the rest is. So the books of a large structure are kept by
keeping those of the piece at hand.
-/

namespace Axon7.Lib

/-- The resources out, by handle, and whether a handle was ever given back
that was not out. -/
structure Pool (η ρ : Type*) where
  live : List (η × ρ)
  refused : Bool

namespace Pool

variable {η ρ : Type*}

def empty : Pool η ρ := ⟨[], false⟩

def add (p : Pool η ρ) (h : η) (r : ρ) : Pool η ρ :=
  { p with live := (h, r) :: p.live }

/-- The handle is not in use. -/
def Fresh (p : Pool η ρ) (h : η) : Prop := h ∉ p.live.map Prod.fst

/-- The pool holds what is on the books, and nothing else. -/
structure Owns (p : Pool η ρ) (books : Multiset (η × ρ)) : Prop where
  live : (p.live : Multiset (η × ρ)) = books
  nodup : (p.live.map Prod.fst).Nodup
  granted : p.refused = false

theorem owns_empty : (empty : Pool η ρ).Owns 0 := ⟨rfl, List.nodup_nil, rfl⟩

variable {p : Pool η ρ} {books rest : Multiset (η × ρ)}

theorem Owns.add (h : p.Owns books) {x : η} {r : ρ} (hx : p.Fresh x) :
    (p.add x r).Owns ((x, r) ::ₘ books) where
  live := by
    rw [← h.live]
    rfl
  nodup := List.nodup_cons.mpr ⟨hx, h.nodup⟩
  granted := h.granted

variable [DecidableEq η]

def del (p : Pool η ρ) (h : η) : Pool η ρ :=
  if h ∈ p.live.map Prod.fst then
    { p with live := p.live.eraseP fun e => e.1 = h }
  else { p with refused := true }

theorem Owns.del {x : η} {r : ρ} (h : p.Owns ((x, r) ::ₘ books)) :
    (p.del x).Owns books := by
  have hmem : (x, r) ∈ p.live := by
    rw [← Multiset.mem_coe, h.live]
    exact Multiset.mem_cons_self _ _
  have hkey : x ∈ p.live.map Prod.fst := List.mem_map.mpr ⟨_, hmem, rfl⟩
  rw [Pool.del, if_pos hkey]
  obtain ⟨⟨x', r'⟩, l₁, l₂, hno, hx', heq, herase⟩ :=
    List.exists_of_eraseP (p := fun e : η × ρ => decide (e.1 = x)) hmem
      (decide_eq_true rfl)
  obtain rfl : x' = x := of_decide_eq_true hx'
  have hnd := h.nodup
  rw [heq, List.map_append, List.map_cons, List.nodup_middle,
    List.nodup_cons] at hnd
  -- the handle stands for this resource only
  have hr : r' = r := by
    rw [heq, List.mem_append, List.mem_cons] at hmem
    obtain hm | hm | hm := hmem
    · exact absurd rfl (of_decide_eq_false (Bool.not_eq_true _ ▸ hno _ hm))
    · exact (Prod.mk.inj hm).2.symm
    · refine absurd ?_ hnd.1
      rw [List.mem_append]
      exact .inr (List.mem_map.mpr ⟨_, hm, rfl⟩)
  subst hr
  refine ⟨?_, ?_, h.granted⟩
  · rw [herase]
    have hlive := h.live
    rw [heq, ← Multiset.coe_add, ← Multiset.cons_coe, Multiset.add_cons,
      Multiset.cons_inj_right, Multiset.coe_add] at hlive
    exact hlive
  · rw [herase, List.map_append]
    exact hnd.2

/-! ## What a delete takes out

Also of a handle that is not out. -/

/-- No two resources are out under one handle. -/
def Keyed (p : Pool η ρ) : Prop := (p.live.map Prod.fst).Nodup

omit [DecidableEq η] in
theorem Keyed.add (h : p.Keyed) {x : η} {r : ρ} (hx : p.Fresh x) :
    (p.add x r).Keyed :=
  List.nodup_cons.mpr ⟨hx, h⟩

theorem del_live (p : Pool η ρ) (x : η) :
    (p.del x).live = p.live.eraseP fun e => e.1 = x := by
  rw [del]
  split
  · rfl
  · rename_i hx
    refine (List.eraseP_of_forall_not fun e he hex => hx ?_).symm
    exact List.mem_map.mpr ⟨e, he, of_decide_eq_true hex⟩

theorem mem_of_mem_del {x : η} {e : η × ρ} (he : e ∈ (p.del x).live) :
    e ∈ p.live := by
  rw [del_live] at he
  exact List.mem_of_mem_eraseP he

theorem mem_del_of_ne {x : η} {e : η × ρ} (he : e ∈ p.live) (hx : e.1 ≠ x) :
    e ∈ (p.del x).live := by
  rw [del_live]
  exact (List.mem_eraseP_of_neg (by simpa using hx)).mpr he

theorem Keyed.del (h : p.Keyed) (x : η) : (p.del x).Keyed := by
  rw [Keyed, del_live]
  exact h.sublist ((List.eraseP_sublist).map Prod.fst)

theorem Keyed.ne_of_mem_del (h : p.Keyed) {x : η} {e : η × ρ}
    (he : e ∈ (p.del x).live) : e.1 ≠ x := by
  rintro rfl
  have hmem := mem_of_mem_del he
  rw [del_live] at he
  obtain ⟨e', l₁, l₂, -, hx, heq, herase⟩ :=
    List.exists_of_eraseP (p := fun e' : η × ρ => decide (e'.1 = e.1)) hmem
      (decide_eq_true rfl)
  rw [herase] at he
  rw [Keyed, heq, List.map_append, List.map_cons, List.nodup_middle,
    List.nodup_cons, of_decide_eq_true hx, ← List.map_append] at h
  exact h.1 (List.mem_map.mpr ⟨e, he, rfl⟩)

/-! ## What a client keeps track of

Of the resources out it knows some, which are those that are its own. -/

omit [DecidableEq η] in
theorem Keyed.eq_of_fst_eq (h : p.Keyed) {e e' : η × ρ} (he : e ∈ p.live)
    (he' : e' ∈ p.live) (heq : e.1 = e'.1) : e = e' :=
  List.inj_on_of_nodup_map h he he' heq

/-- The resources selected that are out are these. -/
def Tracks (p : Pool η ρ) (sel : ρ → Prop) (own : Set (η × ρ)) : Prop :=
  ∀ e, e ∈ p.live ∧ sel e.2 ↔ e ∈ own

section Tracks

variable {sel : ρ → Prop} {own : Set (η × ρ)} {x : η} {r : ρ}

omit [DecidableEq η] in
theorem Tracks.add_mem (h : p.Tracks sel own) (hr : sel r) :
    (p.add x r).Tracks sel (insert (x, r) own) := by
  intro e
  rw [add, List.mem_cons, Set.mem_insert_iff, or_and_right, h e]
  refine or_congr_left ⟨And.left, fun heq => ⟨heq, ?_⟩⟩
  rw [heq]
  exact hr

omit [DecidableEq η] in
theorem Tracks.add_other (h : p.Tracks sel own) (hr : ¬ sel r) :
    (p.add x r).Tracks sel own := by
  intro e
  rw [add, List.mem_cons, or_and_right, h e]
  refine or_iff_right fun ⟨heq, hsel⟩ => ?_
  rw [heq] at hsel
  exact hr hsel

theorem Tracks.del_mem (h : p.Tracks sel own) (hk : p.Keyed) (hx : (x, r) ∈ own) :
    (p.del x).Tracks sel (own \ {(x, r)}) := by
  intro e
  rw [Set.mem_sdiff, Set.mem_singleton_iff]
  constructor
  · intro ⟨he, hsel⟩
    refine ⟨(h e).mp ⟨mem_of_mem_del he, hsel⟩, fun heq => ?_⟩
    rw [heq] at he
    exact hk.ne_of_mem_del he rfl
  · intro ⟨he, hne⟩
    obtain ⟨hlive, hsel⟩ := (h e).mpr he
    refine ⟨mem_del_of_ne hlive fun hfst => hne ?_, hsel⟩
    exact hk.eq_of_fst_eq hlive ((h (x, r)).mpr hx).1 hfst

theorem Tracks.del_other (h : p.Tracks sel own) (hx : ∀ e ∈ own, e.1 ≠ x) :
    (p.del x).Tracks sel own := by
  intro e
  constructor
  · intro ⟨he, hsel⟩
    exact (h e).mp ⟨mem_of_mem_del he, hsel⟩
  · intro he
    obtain ⟨hlive, hsel⟩ := (h e).mpr he
    exact ⟨mem_del_of_ne hlive (hx e he), hsel⟩

end Tracks

/-! ## Changing a resource in place -/

/-- The resource under the handle becomes another. -/
def modify (p : Pool η ρ) (h : η) (r : ρ) : Pool η ρ :=
  { p with live := p.live.map fun e => if e.1 = h then (h, r) else e }

theorem Keyed.modify_eq (hp : p.Keyed) {x : η} {r : ρ} (hx : (x, r) ∈ p.live) :
    p.modify x r = p := by
  have hsame : ∀ e ∈ p.live, (if e.1 = x then (x, r) else e) = e := by
    intro e he
    split
    case isTrue heq => exact (hp.eq_of_fst_eq he hx heq).symm
    case isFalse => rfl
  rw [modify, List.map_congr_left hsame, List.map_id']

/-! ## Handles that are numbers

They are counted up from the highest that is out. -/

variable {κ : Type*}

def nextHandle (p : Pool (κ × ℕ) ρ) : ℕ := (p.live.map fun e => e.1.2).foldr max 0 + 1

theorem fresh_nextHandle (p : Pool (κ × ℕ) ρ) (x : κ) : p.Fresh (x, p.nextHandle) := by
  intro hmem
  have hmax : ∀ {l : List ℕ} {n : ℕ}, n ∈ l → n ≤ l.foldr max 0 := by
    intro l n hn
    induction l with
    | nil => cases hn
    | cons m l ih =>
      obtain rfl | hn := List.mem_cons.mp hn
      · exact Nat.le_max_left _ _
      · exact (ih hn).trans (Nat.le_max_right _ _)
  obtain ⟨e, he, heq⟩ := List.mem_map.mp hmem
  have hle := hmax (List.mem_map.mpr ⟨e, he, rfl⟩ : e.1.2 ∈ p.live.map fun e => e.1.2)
  rw [congrArg Prod.snd heq, nextHandle] at hle
  exact absurd hle (Nat.not_succ_le_self _)

end Pool

/-! ## A state threaded through a list -/

/-- `f` on each element in turn, the state handed from one to the next. -/
def mapThread {α β σ : Type*} (f : α → σ → β × σ) : List α → σ → List β × σ
  | [], s => ([], s)
  | x :: l, s =>
    let (y, s) := f x s
    let (l, s) := mapThread f l s
    (y :: l, s)

section MapThread

variable {α β γ σ : Type*} {f : α → σ → β × σ}

@[simp] theorem mapThread_nil (s : σ) : mapThread f [] s = ([], s) := rfl

@[simp] theorem mapThread_cons (x : α) (l : List α) (s : σ) :
    mapThread f (x :: l) s =
      ((f x s).1 :: (mapThread f l (f x s).2).1,
        (mapThread f l (f x s).2).2) := rfl

theorem mapThread_map {g : β → γ} {g' : α → γ} {l : List α}
    (hf : ∀ x ∈ l, ∀ s, g (f x s).1 = g' x) (s : σ) :
    (mapThread f l s).1.map g = l.map g' := by
  induction l generalizing s with
  | nil => rfl
  | cons x l ih =>
    rw [mapThread_cons, List.map_cons, List.map_cons, hf x List.mem_cons_self,
      ih fun x' hx' => hf x' (List.mem_cons_of_mem _ hx')]

/-! ## Books kept through a list

`P s books` says that the state keeps the books. -/

variable {M : Type*} [AddCommMonoid M] {P : σ → M → Prop}

end MapThread

end Axon7.Lib
