import Mathlib

/-!
# LocHeap

The heap of `LocRankable` objects: a binary tree sorted only from parent to
child. A push drops the lower ranked of two payloads into the smaller
subtree, a pop swaps the payload of the top down to a leaf and cuts the leaf
off, a remove searches by address and prunes by rank.

Every operation is described by what it does to the multiset of payloads.
Only `remove` needs the heap sorted: the rank prunes its search, so a payload
out of place would not be found.
-/

namespace Axon7.GpsUtils

/-- `LocHeapNode`, with the null pointer as `null`. The payload is a pointer
to an object of the client: equality of payloads is equality of addresses. -/
inductive LocHeapNode (α : Type*)
  | null
  | node (mSize : Int) (mLeft mRight : LocHeapNode α) (mData : α)
deriving DecidableEq

namespace LocHeapNode

variable {α : Type*}

def mSize : LocHeapNode α → Int
  | null => 0
  | node mSize _ _ _ => mSize

/-- `LocHeap::peek`. -/
def peek : LocHeapNode α → Option α
  | null => none
  | node _ _ _ mData => some mData

/-- The payloads of a tree. -/
def elements : LocHeapNode α → Multiset α
  | null => 0
  | node _ l r d => d ::ₘ (l.elements + r.elements)

@[simp] theorem elements_null : (null : LocHeapNode α).elements = 0 := rfl

@[simp] theorem elements_node (n : Int) (l r : LocHeapNode α) (d : α) :
    (node n l r d).elements = d ::ₘ (l.elements + r.elements) := rfl

@[simp] theorem peek_null : (null : LocHeapNode α).peek = none := rfl

@[simp] theorem peek_node (n : Int) (l r : LocHeapNode α) (d : α) :
    (node n l r d).peek = some d := rfl

theorem peek_eq_none {t : LocHeapNode α} : t.peek = none ↔ t = null := by
  cases t <;> simp [peek]

theorem mem_of_peek {t : LocHeapNode α} {d : α} (h : t.peek = some d) :
    d ∈ t.elements := by
  cases t with
  | null => cases h
  | node n l r d' =>
    obtain rfl : d' = d := Option.some.inj h
    exact Multiset.mem_cons_self _ _

/-! ## The operations -/

section Ops

variable (outRanks : α → α → Bool)

/-- `LocHeapNode::push`, on a null tree the node itself as in
`LocHeap::push`. -/
def push : LocHeapNode α → α → LocHeapNode α
  | null, data => node 1 null null data
  | node mSize mLeft mRight mData, data =>
    -- the current node keeps the higher ranked of the two payloads
    let top := if outRanks data mData then data else mData
    let low := if outRanks data mData then mData else data
    match mLeft, mRight with
    | null, _ => node (mSize + 1) (node 1 null null low) mRight top
    | _, null => node (mSize + 1) mLeft (node 1 null null low) top
    | node .., node .. =>
      if mLeft.mSize ≤ mRight.mSize then
        node (mSize + 1) (push mLeft low) mRight top
      else
        node (mSize + 1) mLeft (push mRight low) top

/-- `LocHeapNode::pop` on a tree whose top carries `data`: the payload of the
higher ranked child moves up, `data` moves down in its place. The payload of
the leaf cut off comes back with the tree that is left. -/
def popData : LocHeapNode α → α → LocHeapNode α × α
  | null, data => (null, data)
  | node mSize mLeft mRight _, data =>
    match mLeft, mRight with
    | null, null => (null, data)
    | null, node _ _ _ d =>
      let (t, popped) := popData mRight data
      (node (mSize - 1) null t d, popped)
    | node _ _ _ d, null =>
      let (t, popped) := popData mLeft data
      (node (mSize - 1) t null d, popped)
    | node _ _ _ dl, node _ _ _ dr =>
      if outRanks dl dr then
        let (t, popped) := popData mLeft data
        (node (mSize - 1) t mRight dl, popped)
      else
        let (t, popped) := popData mRight data
        (node (mSize - 1) mLeft t dr, popped)

/-- `LocHeap::pop`. -/
def pop (t : LocHeapNode α) : LocHeapNode α × Option α :=
  match t.peek with
  | none => (t, none)
  | some data =>
    let (t, popped) := popData outRanks t data
    (t, some popped)

/-- `LocHeapNode::remove` and `LocHeap::remove`: the payload removed, or
`none` when the search did not find it. -/
def remove [DecidableEq α] :
    LocHeapNode α → α → LocHeapNode α × Option α
  | null, _ => (null, none)
  | node mSize mLeft mRight mData, data =>
    if data = mData then
      pop outRanks (node mSize mLeft mRight mData)
    else if outRanks data mData then
      (node mSize mLeft mRight mData, none)
    else
      match remove mLeft data with
      | (l, some removed) => (node (mSize - 1) l mRight mData, some removed)
      | (_, none) =>
        match remove mRight data with
        | (r, some removed) =>
          (node (mSize - 1) mLeft r mData, some removed)
        | (_, none) => (node mSize mLeft mRight mData, none)

end Ops

/-! ## What the operations do to the payloads -/

section Elements

variable {outRanks : α → α → Bool}

theorem push_node (outRanks : α → α → Bool) (n : Int) (l r : LocHeapNode α) (d data : α) :
    ∃ top low,
      (outRanks data d = true ∧ top = data ∧ low = d ∨
        outRanks data d = false ∧ top = d ∧ low = data) ∧
      (push outRanks (node n l r d) data =
          node (n + 1) (push outRanks l low) r top ∨
        push outRanks (node n l r d) data =
          node (n + 1) l (push outRanks r low) top) := by
  refine ⟨if outRanks data d then data else d,
    if outRanks data d then d else data, ?_, ?_⟩
  · cases outRanks data d <;> simp
  · cases l with
    | null => exact .inl rfl
    | node =>
      cases r with
      | null => exact .inr rfl
      | node =>
        rw [push]
        split
        · exact .inl rfl
        · exact .inr rfl

theorem push_elements (t : LocHeapNode α) (data : α) :
    (push outRanks t data).elements = data ::ₘ t.elements := by
  induction t generalizing data with
  | null => rfl
  | node n l r d ihl ihr =>
    obtain ⟨top, low, hswap, heq⟩ := push_node outRanks n l r d data
    have hpair : top ::ₘ low ::ₘ (l.elements + r.elements) =
        data ::ₘ d ::ₘ (l.elements + r.elements) := by
      obtain ⟨-, rfl, rfl⟩ | ⟨-, rfl, rfl⟩ := hswap
      · rfl
      · exact Multiset.cons_swap _ _ _
    obtain heq | heq := heq
    · rw [heq, elements_node, ihl, Multiset.cons_add, hpair, elements_node]
    · rw [heq, elements_node, ihr, Multiset.add_cons, hpair, elements_node]

theorem push_peek (outRanks : α → α → Bool) (t : LocHeapNode α) (data : α) :
    (push outRanks t data).peek = some data ∧
        (∀ d, t.peek = some d → outRanks data d = true) ∨
      (push outRanks t data).peek = t.peek ∧
        ∃ d, t.peek = some d ∧ outRanks data d = false := by
  cases t with
  | null => exact .inl ⟨rfl, fun d h => by cases h⟩
  | node n l r d =>
    obtain ⟨top, low, hswap, heq⟩ := push_node outRanks n l r d data
    have hpeek : (push outRanks (node n l r d) data).peek = some top := by
      obtain heq | heq := heq <;> rw [heq, peek_node]
    obtain ⟨hout, rfl, -⟩ | ⟨hout, rfl, -⟩ := hswap
    · refine .inl ⟨hpeek, ?_⟩
      intro d' hd'
      obtain rfl : d = d' := Option.some.inj hd'
      exact hout
    · exact .inr ⟨hpeek, _, rfl, hout⟩

theorem popData_node (outRanks : α → α → Bool) (n : Int) (l r : LocHeapNode α) (d data : α) :
    (l = null ∧ r = null ∧
        popData outRanks (node n l r d) data = (null, data)) ∨
      (∃ dl, l.peek = some dl ∧
        (∀ dr, r.peek = some dr → outRanks dl dr = true) ∧
        popData outRanks (node n l r d) data =
          (node (n - 1) (popData outRanks l data).1 r dl,
            (popData outRanks l data).2)) ∨
      (∃ dr, r.peek = some dr ∧
        (∀ dl, l.peek = some dl → outRanks dl dr = false) ∧
        popData outRanks (node n l r d) data =
          (node (n - 1) l (popData outRanks r data).1 dr,
            (popData outRanks r data).2)) := by
  cases l with
  | null =>
    cases r with
    | null => exact .inl ⟨rfl, rfl, rfl⟩
    | node nr lr rr dr =>
      exact .inr (.inr ⟨dr, rfl, fun _ h => (by cases h), rfl⟩)
  | node nl ll rl dl =>
    cases r with
    | null => exact .inr (.inl ⟨dl, rfl, fun _ h => (by cases h), rfl⟩)
    | node nr lr rr dr =>
      rw [popData]
      split
      · next hout =>
          refine .inr (.inl ⟨dl, rfl, ?_, rfl⟩)
          intro d' hd'
          exact Option.some.inj hd' ▸ hout
      · next hout =>
          refine .inr (.inr ⟨dr, rfl, ?_, rfl⟩)
          intro d' hd'
          exact Option.some.inj hd' ▸ Bool.eq_false_iff.mpr hout

theorem popData_snd (t : LocHeapNode α) (data : α) :
    (popData outRanks t data).2 = data := by
  induction t with
  | null => rfl
  | node n l r d ihl ihr =>
    obtain ⟨-, -, heq⟩ | ⟨dl, -, -, heq⟩ | ⟨dr, -, -, heq⟩ :=
      popData_node outRanks n l r d data
    · rw [heq]
    · rw [heq, ihl]
    · rw [heq, ihr]

theorem popData_elements (t : LocHeapNode α) (data : α) :
    ∀ d, t.peek = some d →
      d ::ₘ (popData outRanks t data).1.elements = t.elements := by
  induction t with
  | null => exact fun d h => by cases h
  | node n l r d ihl ihr =>
    intro d' hd'
    obtain rfl : d = d' := Option.some.inj hd'
    obtain ⟨rfl, rfl, heq⟩ | ⟨dl, hdl, -, heq⟩ | ⟨dr, hdr, -, heq⟩ :=
      popData_node outRanks n l r d data
    · rw [heq]
      rfl
    · rw [heq, elements_node, elements_node, ← Multiset.cons_add, ihl dl hdl]
    · rw [heq, elements_node, elements_node, ← Multiset.add_cons, ihr dr hdr]

theorem pop_snd (t : LocHeapNode α) : (pop outRanks t).2 = t.peek := by
  rw [pop]
  split
  · next h => exact h.symm
  · next data h =>
      show some (popData outRanks t data).2 = t.peek
      rw [popData_snd, h]

theorem pop_elements {t : LocHeapNode α} {d : α} (h : t.peek = some d) :
    d ::ₘ (pop outRanks t).1.elements = t.elements := by
  rw [pop, h]
  exact popData_elements t d d h

theorem pop_null : pop outRanks (null : LocHeapNode α) = (null, none) := rfl

variable [DecidableEq α]

theorem remove_cases (outRanks : α → α → Bool) (t : LocHeapNode α) (data : α) :
    ((remove outRanks t data).2 = some data ∧
        data ::ₘ (remove outRanks t data).1.elements = t.elements) ∨
      ((remove outRanks t data).2 = none ∧
        (remove outRanks t data).1 = t) := by
  induction t with
  | null => exact .inr ⟨rfl, rfl⟩
  | node n l r d ihl ihr =>
    rw [remove]
    split
    · next heq =>
        subst heq
        exact .inl ⟨by rw [pop_snd, peek_node], pop_elements rfl⟩
    · split
      · exact .inr ⟨rfl, rfl⟩
      · obtain ⟨hl, hel⟩ | ⟨hl, -⟩ := ihl
        · rw [show remove outRanks l data =
            ((remove outRanks l data).1, some data) from Prod.ext rfl hl]
          refine .inl ⟨rfl, ?_⟩
          rw [elements_node, elements_node, ← hel, Multiset.cons_add,
            Multiset.cons_swap]
        · rw [show remove outRanks l data =
            ((remove outRanks l data).1, none) from Prod.ext rfl hl]
          obtain ⟨hr, her⟩ | ⟨hr, -⟩ := ihr
          · rw [show remove outRanks r data =
              ((remove outRanks r data).1, some data) from Prod.ext rfl hr]
            refine .inl ⟨rfl, ?_⟩
            rw [elements_node, elements_node, ← her, Multiset.add_cons,
              Multiset.cons_swap]
          · rw [show remove outRanks r data =
              ((remove outRanks r data).1, none) from Prod.ext rfl hr]
            exact .inr ⟨rfl, rfl⟩

theorem remove_peek (t : LocHeapNode α) (data : α)
    (h : (remove outRanks t data).2 ≠ t.peek) :
    (remove outRanks t data).1.peek = t.peek := by
  cases t with
  | null => rfl
  | node n l r d =>
    rw [remove] at h ⊢
    split at h
    · exact absurd (pop_snd _) h
    · next hne =>
        rw [if_neg hne]
        split
        · rfl
        · split
          · rfl
          · split <;> rfl

end Elements

/-! ## Sorted heaps -/

/-- No payload below a node outranks the one it carries. -/
def Sorted (outRanks : α → α → Bool) : LocHeapNode α → Prop
  | null => True
  | node _ l r d =>
    (∀ x ∈ l.elements + r.elements, outRanks x d = false) ∧
      l.Sorted outRanks ∧ r.Sorted outRanks

/-- On the payloads in `p`, `ranks` is the comparison of a total preorder. -/
structure Ranking (outRanks : α → α → Bool) (p : α → Prop) : Prop where
  asymm : ∀ a b, p a → p b → outRanks a b = true → outRanks b a = false
  trans : ∀ a b c, p a → p b → p c → outRanks a b = false →
    outRanks b c = false → outRanks a c = false

section Sorted

variable {outRanks : α → α → Bool} {p : α → Prop}
  (hrank : Ranking outRanks p)
include hrank

theorem Ranking.irrefl {a : α} (ha : p a) : outRanks a a = false := by
  cases h : outRanks a a with
  | false => rfl
  | true => rw [← h, hrank.asymm a a ha ha h]

theorem Sorted.peek_best {t : LocHeapNode α} (hs : t.Sorted outRanks)
    (hp : ∀ x ∈ t.elements, p x) {d : α} (hd : t.peek = some d) :
    ∀ x ∈ t.elements, outRanks x d = false := by
  cases t with
  | null => cases hd
  | node n l r d' =>
    obtain rfl : d' = d := Option.some.inj hd
    intro x hx
    obtain rfl | hx := Multiset.mem_cons.mp hx
    · exact hrank.irrefl (hp _ (Multiset.mem_cons_self _ _))
    · exact hs.1 x hx

theorem Sorted.push {t : LocHeapNode α} {data : α}
    (hs : t.Sorted outRanks) (hp : ∀ x ∈ t.elements, p x) (hdata : p data) :
    (LocHeapNode.push outRanks t data).Sorted outRanks := by
  induction t generalizing data with
  | null => exact ⟨fun x hx => (by simp at hx), trivial, trivial⟩
  | node n l r d ihl ihr =>
    obtain ⟨htop, hsl, hsr⟩ := hs
    have hpd : p d := hp d (Multiset.mem_cons_self _ _)
    have hpl : ∀ x ∈ l.elements, p x := fun x hx => hp x (by simp [hx])
    have hpr : ∀ x ∈ r.elements, p x := fun x hx => hp x (by simp [hx])
    obtain ⟨top, low, hswap, heq⟩ :=
      push_node outRanks n l r d data
    have hlow : p low := by
      obtain ⟨-, -, rfl⟩ | ⟨-, -, rfl⟩ := hswap
      · exact hpd
      · exact hdata
    -- the payloads under the new top are the old ones and `low`
    have hbest : ∀ x ∈ low ::ₘ (l.elements + r.elements),
        outRanks x top = false := by
      intro x hx
      obtain ⟨hout, rfl, rfl⟩ | ⟨hout, rfl, rfl⟩ := hswap
      · have hback := hrank.asymm _ _ hdata hpd hout
        obtain rfl | hx := Multiset.mem_cons.mp hx
        · exact hback
        · exact hrank.trans x _ _ (hp x (Multiset.mem_cons_of_mem hx)) hpd
            hdata (htop x hx) hback
      · obtain rfl | hx := Multiset.mem_cons.mp hx
        · exact hout
        · exact htop x hx
    obtain heq | heq := heq
    · rw [heq]
      refine ⟨?_, ihl hsl hpl hlow, hsr⟩
      rw [push_elements, Multiset.cons_add]
      exact hbest
    · rw [heq]
      refine ⟨?_, hsl, ihr hsr hpr hlow⟩
      rw [push_elements, Multiset.add_cons]
      exact hbest

theorem Sorted.popData {t : LocHeapNode α} {data : α}
    (hs : t.Sorted outRanks) (hp : ∀ x ∈ t.elements, p x) :
    (LocHeapNode.popData outRanks t data).1.Sorted outRanks := by
  induction t with
  | null => exact trivial
  | node n l r d ihl ihr =>
    obtain ⟨-, hsl, hsr⟩ := hs
    have hpl : ∀ x ∈ l.elements, p x := fun x hx => hp x (by simp [hx])
    have hpr : ∀ x ∈ r.elements, p x := fun x hx => hp x (by simp [hx])
    obtain ⟨-, -, heq⟩ | ⟨dl, hdl, hdr, heq⟩ | ⟨dr, hdr, hdl, heq⟩ :=
      popData_node outRanks n l r d data
    · rw [heq]
      trivial
    · rw [heq]
      refine ⟨?_, ihl hsl hpl, hsr⟩
      have hpdl := hpl dl (mem_of_peek hdl)
      intro x hx
      obtain hx | hx := Multiset.mem_add.mp hx
      · refine hsl.peek_best hrank hpl hdl x ?_
        rw [← popData_elements l data dl hdl]
        exact Multiset.mem_cons_of_mem hx
      · -- the top of the right subtree stands between
        cases hr : r.peek with
        | none =>
          rw [peek_eq_none.mp hr] at hx
          simp at hx
        | some dr =>
          have hpdr := hpr dr (mem_of_peek hr)
          exact hrank.trans x dr dl (hpr x hx) hpdr hpdl
            (hsr.peek_best hrank hpr hr x hx)
            (hrank.asymm dl dr hpdl hpdr (hdr dr hr))
    · rw [heq]
      refine ⟨?_, hsl, ihr hsr hpr⟩
      have hpdr := hpr dr (mem_of_peek hdr)
      intro x hx
      obtain hx | hx := Multiset.mem_add.mp hx
      · cases hl : l.peek with
        | none =>
          rw [peek_eq_none.mp hl] at hx
          simp at hx
        | some dl =>
          have hpdl := hpl dl (mem_of_peek hl)
          exact hrank.trans x dl dr (hpl x hx) hpdl hpdr
            (hsl.peek_best hrank hpl hl x hx) (hdl dl hl)
      · refine hsr.peek_best hrank hpr hdr x ?_
        rw [← popData_elements r data dr hdr]
        exact Multiset.mem_cons_of_mem hx

theorem Sorted.pop {t : LocHeapNode α} (hs : t.Sorted outRanks)
    (hp : ∀ x ∈ t.elements, p x) :
    (LocHeapNode.pop outRanks t).1.Sorted outRanks := by
  rw [LocHeapNode.pop]
  split
  · exact hs
  · exact hs.popData hrank hp

variable [DecidableEq α]

theorem Sorted.remove {t : LocHeapNode α} {data : α}
    (hs : t.Sorted outRanks) (hp : ∀ x ∈ t.elements, p x) :
    (LocHeapNode.remove outRanks t data).1.Sorted outRanks := by
  induction t with
  | null => exact trivial
  | node n l r d ihl ihr =>
    have hpl : ∀ x ∈ l.elements, p x := fun x hx => hp x (by simp [hx])
    have hpr : ∀ x ∈ r.elements, p x := fun x hx => hp x (by simp [hx])
    -- a subtree only loses payloads
    have hsub : ∀ t : LocHeapNode α,
        (LocHeapNode.remove outRanks t data).1.elements ≤ t.elements := by
      intro t
      obtain ⟨-, hel⟩ | ⟨-, heq⟩ := remove_cases outRanks t data
      · rw [← hel]
        exact Multiset.le_cons_self _ _
      · rw [heq]
    rw [LocHeapNode.remove]
    split
    · exact hs.pop hrank hp
    · split
      · exact hs
      · split
        · next t' removed heq =>
            have ht' : t' = (LocHeapNode.remove outRanks l data).1 := by
              rw [heq]
            subst ht'
            refine ⟨fun x hx => hs.1 x ?_, ihl hs.2.1 hpl, hs.2.2⟩
            exact Multiset.mem_of_le (Multiset.add_le_add_right (hsub l)) hx
        · split
          · next t' removed heq =>
              have ht' : t' = (LocHeapNode.remove outRanks r data).1 := by
                rw [heq]
              subst ht'
              refine ⟨fun x hx => hs.1 x ?_, hs.2.1, ihr hs.2.2 hpr⟩
              exact Multiset.mem_of_le (Multiset.add_le_add_left (hsub r)) hx
          · exact hs

omit hrank in
theorem Sorted.remove_mem {t : LocHeapNode α} {data : α}
    (hs : t.Sorted outRanks) (hmem : data ∈ t.elements) :
    (LocHeapNode.remove outRanks t data).2 = some data := by
  induction t with
  | null => simp at hmem
  | node n l r d ihl ihr =>
    rw [LocHeapNode.remove]
    split
    · next heq => rw [pop_snd, peek_node, heq]
    · next hne =>
        have hlr := (Multiset.mem_cons.mp hmem).resolve_left hne
        rw [hs.1 data hlr, if_neg Bool.false_ne_true]
        obtain ⟨hl, -⟩ | ⟨hl, -⟩ := remove_cases outRanks l data
        · rw [show LocHeapNode.remove outRanks l data =
            (_, some data) from Prod.ext rfl hl]
        · rw [show LocHeapNode.remove outRanks l data =
            (_, none) from Prod.ext rfl hl]
          have hnl : data ∉ l.elements := by
            intro hin
            rw [ihl hs.2.1 hin] at hl
            cases hl
          have hr := (Multiset.mem_add.mp hlr).resolve_left hnl
          rw [show LocHeapNode.remove outRanks r data =
            (_, some data) from Prod.ext rfl (ihr hs.2.2 hr)]

end Sorted

end LocHeapNode

end Axon7.GpsUtils
