import Axon7.GpsUtils.Heap

/-!
# The heap over a run

A `LocHeap` is a priority queue with removal: whatever has been pushed, popped
and removed, the tree passes its own `checkNodes`, holds what was pushed and
not taken out since, and gives up the best first. Two objects may rank equally
and be told apart by `remove` all the same, since the search there goes by
address and rank only prunes it.
-/

namespace Axon7.GpsUtils

/-- `LocRankable::ranks` is a total preorder: positive where the first object
ranks higher, 0 where the two rank equally. -/
structure IsRanking {α : Type*} (ranks : α → α → Int) : Prop where
  antisymm : ∀ a b, 0 < ranks a b ↔ ranks b a < 0
  trans : ∀ a b c, 0 ≤ ranks a b → 0 ≤ ranks b c → 0 ≤ ranks a c

/-- `LocRankable::outRanks`. -/
def outRanks {α : Type*} (ranks : α → α → Int) (a b : α) : Bool :=
  ranks a b > 0

theorem IsRanking.ranking {α : Type*} {ranks : α → α → Int}
    (h : IsRanking ranks) :
    LocHeapNode.Ranking (outRanks ranks) fun _ => True where
  asymm a b _ _ hab := by
    have hba := (h.antisymm a b).mp (of_decide_eq_true hab)
    exact decide_eq_false (by omega)
  trans a b c _ _ _ hab hbc := by
    have hab := of_decide_eq_false hab
    have hbc := of_decide_eq_false hbc
    have hba : 0 ≤ ranks b a := by
      have hneg := h.antisymm b a
      have hpos := h.antisymm a b
      omega
    have hcb : 0 ≤ ranks c b := by
      have hneg := h.antisymm c b
      have hpos := h.antisymm b c
      omega
    have hca := h.trans c b a hcb hba
    have hac := h.antisymm a c
    exact decide_eq_false (by omega)

namespace LocHeapNode

variable {α : Type*}

/-- `LocHeapNode::checkNodes`, true on the null tree as in
`LocHeap::checkTree`. -/
def checkNodes (outRanks : α → α → Bool) : LocHeapNode α → Bool
  | null => true
  | node mSize mLeft mRight mData =>
    mLeft.peek.all (fun d => !outRanks d mData) &&
      mLeft.checkNodes outRanks &&
      mRight.peek.all (fun d => !outRanks d mData) &&
      mRight.checkNodes outRanks &&
      mSize - mLeft.mSize - mRight.mSize = 1

/-- Every `mSize` is the number of nodes from there down. -/
def Sized : LocHeapNode α → Prop
  | null => True
  | node mSize l r d =>
    mSize = (node mSize l r d).elements.card ∧ l.Sized ∧ r.Sized

section Sized

variable {outRanks : α → α → Bool} {t : LocHeapNode α}

theorem Sized.mSize_eq (h : t.Sized) : t.mSize = t.elements.card := by
  cases t with
  | null => rfl
  | node n l r d => exact h.1

theorem sized_node {n : Int} {l r : LocHeapNode α} {d : α} :
    (node n l r d).Sized ↔
      n = l.elements.card + r.elements.card + 1 ∧ l.Sized ∧ r.Sized := by
  rw [Sized, elements_node, Multiset.card_cons, Multiset.card_add]
  push_cast
  rfl

theorem Sized.push (h : t.Sized) (data : α) :
    (LocHeapNode.push outRanks t data).Sized := by
  induction t generalizing data with
  | null => exact ⟨rfl, trivial, trivial⟩
  | node n l r d ihl ihr =>
    obtain ⟨hn, hl, hr⟩ := sized_node.mp h
    obtain ⟨top, low, -, heq⟩ := push_node outRanks n l r d data
    obtain heq | heq := heq
    · rw [heq, sized_node, push_elements, Multiset.card_cons]
      exact ⟨by omega, ihl hl low, hr⟩
    · rw [heq, sized_node, push_elements, Multiset.card_cons]
      exact ⟨by omega, hl, ihr hr low⟩

theorem Sized.popData (h : t.Sized) (data : α) :
    (LocHeapNode.popData outRanks t data).1.Sized := by
  induction t with
  | null => trivial
  | node n l r d ihl ihr =>
    obtain ⟨hn, hl, hr⟩ := sized_node.mp h
    obtain ⟨-, -, heq⟩ | ⟨dl, hdl, -, heq⟩ | ⟨dr, hdr, -, heq⟩ :=
      popData_node outRanks n l r d data
    · rw [heq]
      trivial
    · -- the left subtree is the one that loses a node
      have hel : dl ::ₘ (LocHeapNode.popData outRanks l data).1.elements =
          l.elements := popData_elements l data dl hdl
      have hcard := congrArg Multiset.card hel
      rw [Multiset.card_cons] at hcard
      rw [heq, sized_node]
      exact ⟨by omega, ihl hl, hr⟩
    · have hel : dr ::ₘ (LocHeapNode.popData outRanks r data).1.elements =
          r.elements := popData_elements r data dr hdr
      have hcard := congrArg Multiset.card hel
      rw [Multiset.card_cons] at hcard
      rw [heq, sized_node]
      exact ⟨by omega, hl, ihr hr⟩

theorem Sized.pop (h : t.Sized) : (LocHeapNode.pop outRanks t).1.Sized := by
  rw [LocHeapNode.pop]
  split
  · exact h
  · exact h.popData _

theorem Sized.remove [DecidableEq α] (h : t.Sized) (data : α) :
    (LocHeapNode.remove outRanks t data).1.Sized := by
  induction t with
  | null => trivial
  | node n l r d ihl ihr =>
    obtain ⟨hn, hl, hr⟩ := sized_node.mp h
    rw [LocHeapNode.remove]
    split
    · exact h.pop
    · split
      · exact h
      · split
        · next t' removed heq =>
            -- found on the left
            obtain ⟨hs, hel⟩ | ⟨hs, -⟩ := remove_cases outRanks l data
            · rw [heq] at hs hel
              have hcard := congrArg Multiset.card hel
              rw [Multiset.card_cons] at hcard
              dsimp only at hcard
              have hl' := ihl hl
              rw [heq] at hl'
              rw [sized_node]
              exact ⟨by omega, hl', hr⟩
            · rw [heq] at hs
              cases hs
        · split
          · next t' removed heq =>
              obtain ⟨hs, hel⟩ | ⟨hs, -⟩ := remove_cases outRanks r data
              · rw [heq] at hs hel
                have hcard := congrArg Multiset.card hel
                rw [Multiset.card_cons] at hcard
                dsimp only at hcard
                have hr' := ihr hr
                rw [heq] at hr'
                rw [sized_node]
                exact ⟨by omega, hl, hr'⟩
              · rw [heq] at hs
                cases hs
          · exact h

theorem checkNodes_of_sorted (hs : t.Sorted outRanks) (hn : t.Sized) :
    t.checkNodes outRanks = true := by
  induction t with
  | null => rfl
  | node n l r d ihl ihr =>
    obtain ⟨htop, hsl, hsr⟩ := hs
    obtain ⟨hn, hl, hr⟩ := sized_node.mp hn
    have hbest : ∀ t : LocHeapNode α, t.elements ≤ l.elements + r.elements →
        t.peek.all (fun x => !outRanks x d) = true := by
      intro t hle
      cases htop' : t.peek with
      | none => rfl
      | some x =>
        have hx := htop x (Multiset.mem_of_le hle (mem_of_peek htop'))
        simp [hx]
    rw [checkNodes, hbest l (Multiset.le_add_right _ _),
      hbest r (Multiset.le_add_left _ _), ihl hsl hl, ihr hsr hr,
      hl.mSize_eq, hr.mSize_eq]
    simp
    omega

end Sized

end LocHeapNode

/-! ## Runs -/

inductive HeapOp (α : Type*)
  | push (data : α)
  | pop
  | remove (data : α)

namespace LocHeapNode

variable {α : Type*} [DecidableEq α]

/-- A call of the `LocHeap` and the object it answers. -/
def apply (outRanks : α → α → Bool) (t : LocHeapNode α) :
    HeapOp α → LocHeapNode α × Option α
  | .push data => (t.push outRanks data, none)
  | .pop => t.pop outRanks
  | .remove data => t.remove outRanks data

/-- The heap after the calls. -/
def run (outRanks : α → α → Bool) (ops : List (HeapOp α)) : LocHeapNode α :=
  ops.foldl (fun t o => (t.apply outRanks o).1) null

/-- What the calls push. -/
def pushed : List (HeapOp α) → Multiset α
  | [] => 0
  | .push data :: ops => data ::ₘ pushed ops
  | _ :: ops => pushed ops

/-- What the calls answer: the objects popped and removed. -/
def taken (outRanks : α → α → Bool) :
    LocHeapNode α → List (HeapOp α) → Multiset α
  | _, [] => 0
  | t, o :: ops =>
    (t.apply outRanks o).2.elim 0 ({·}) +
      taken outRanks (t.apply outRanks o).1 ops

variable {outRanks : α → α → Bool}

theorem apply_elements (t : LocHeapNode α) (o : HeapOp α) :
    (t.apply outRanks o).1.elements + (t.apply outRanks o).2.elim 0 ({·}) =
      pushed [o] + t.elements := by
  cases o with
  | push data =>
    show (t.push outRanks data).elements + 0 = {data} + t.elements
    rw [push_elements, add_zero, Multiset.singleton_add]
  | pop =>
    show (t.pop outRanks).1.elements + (t.pop outRanks).2.elim 0 ({·}) =
      0 + t.elements
    rw [pop_snd, zero_add]
    cases htop : t.peek with
    | none => rw [peek_eq_none.mp htop, pop_null]; rfl
    | some d =>
      rw [← pop_elements htop, Option.elim_some, add_comm,
        Multiset.singleton_add]
  | remove data =>
    show (t.remove outRanks data).1.elements +
      (t.remove outRanks data).2.elim 0 ({·}) = 0 + t.elements
    rw [zero_add]
    obtain ⟨hs, hel⟩ | ⟨hs, heq⟩ := remove_cases outRanks t data
    · rw [hs, ← hel, Option.elim_some, add_comm, Multiset.singleton_add]
    · rw [hs, heq]
      exact add_zero _

theorem foldl_elements (t : LocHeapNode α) (ops : List (HeapOp α)) :
    (ops.foldl (fun t o => (t.apply outRanks o).1) t).elements +
        taken outRanks t ops = pushed ops + t.elements := by
  induction ops generalizing t with
  | nil => rw [taken, pushed, add_comm]; rfl
  | cons o ops ih =>
    have hstep : (t.apply outRanks o).1.elements +
        (t.apply outRanks o).2.elim 0 ({·}) = pushed [o] + t.elements :=
      apply_elements t o
    have hpush : pushed (o :: ops) = pushed [o] + pushed ops := by
      cases o
      · exact (Multiset.singleton_add _ _).symm
      · exact (zero_add _).symm
      · exact (zero_add _).symm
    rw [List.foldl_cons, taken, ← add_assoc, add_right_comm, ih, add_assoc,
      hstep, hpush, ← add_assoc, add_comm (pushed ops)]

theorem run_sorted (hrank : Ranking outRanks fun _ => True)
    (ops : List (HeapOp α)) :
    (run outRanks ops).Sorted outRanks ∧ (run outRanks ops).Sized := by
  have hfold : ∀ t : LocHeapNode α, t.Sorted outRanks ∧ t.Sized →
      (ops.foldl (fun t o => (t.apply outRanks o).1) t).Sorted outRanks ∧
        (ops.foldl (fun t o => (t.apply outRanks o).1) t).Sized := by
    induction ops with
    | nil => exact fun t h => h
    | cons o ops ih =>
      intro t ⟨hs, hn⟩
      refine ih _ ?_
      cases o with
      | push data =>
        exact ⟨hs.push hrank (fun _ _ => trivial) trivial, hn.push data⟩
      | pop => exact ⟨hs.pop hrank fun _ _ => trivial, hn.pop⟩
      | remove d => exact ⟨hs.remove hrank fun _ _ => trivial, hn.remove d⟩
  exact hfold null ⟨trivial, trivial⟩

/-- A `LocHeap` is a priority queue with removal. After any calls its tree passes the check
and holds what was pushed less what was taken out; a pop answers what `peek` shows, which
no other outranks; and a remove answers the very object, if it is stored. -/
theorem run_priorityQueue {ranks : α → α → Int} (hranks : IsRanking ranks)
    (ops : List (HeapOp α)) :
    let out := GpsUtils.outRanks ranks
    let t := run out ops
    t.checkNodes out = true ∧ t.Sized ∧
      t.elements + taken out null ops = pushed ops ∧
      (t.pop out).2 = t.peek ∧
      (t.peek = none ↔ t.elements = 0) ∧
      (∀ d, t.peek = some d →
        d ∈ t.elements ∧ (∀ x ∈ t.elements, out x d = false) ∧
          d ::ₘ (t.pop out).1.elements = t.elements) ∧
      ∀ d, (d ∈ t.elements →
          (t.remove out d).2 = some d ∧
            d ::ₘ (t.remove out d).1.elements = t.elements) ∧
        (d ∉ t.elements → t.remove out d = (t, none)) := by
  intro out t
  obtain ⟨hs, hn⟩ := run_sorted hranks.ranking ops
  have hel : t.elements + taken out null ops = pushed ops + 0 :=
    foldl_elements null ops
  refine ⟨checkNodes_of_sorted hs hn, hn, by rw [hel, add_zero], pop_snd t,
    ?_, fun d hd => ?_, fun d => ?_⟩
  · rw [peek_eq_none]
    constructor
    · intro h
      rw [h]
      rfl
    · intro h
      cases ht : t with
      | null => rfl
      | node n l r d =>
        rw [ht, elements_node] at h
        exact absurd h (Multiset.cons_ne_zero)
  · exact ⟨mem_of_peek hd,
      hs.peek_best hranks.ranking (fun _ _ => trivial) hd, pop_elements hd⟩
  · obtain ⟨hrem, hrest⟩ | ⟨hrem, heq⟩ := remove_cases out t d
    · refine ⟨fun _ => ⟨hrem, hrest⟩, fun hnot => ?_⟩
      rw [← hrest] at hnot
      exact absurd (Multiset.mem_cons_self _ _) hnot
    · refine ⟨fun hmem => ?_, fun _ => Prod.ext heq hrem⟩
      have hfound := hs.remove_mem hmem
      rw [hrem] at hfound
      cases hfound

/-- The objects of the self test, by address and `mID`. -/
def debugRanks (a b : Nat × Int) : Int := b.2 - a.2

theorem isRanking_debug : IsRanking debugRanks where
  antisymm a b := by
    rw [debugRanks, debugRanks]
    omega
  trans a b c := by
    rw [debugRanks, debugRanks, debugRanks]
    omega

theorem run_priorityQueue_equalRanks :
    let t := run (GpsUtils.outRanks debugRanks)
      [.push (1, 5), .push (2, 5), .push (3, 8), .pop]
    t.checkNodes (GpsUtils.outRanks debugRanks) = true ∧
      ((2, 5) ∈ t.elements →
        (t.remove (GpsUtils.outRanks debugRanks) (2, 5)).2 = some (2, 5)) := by
  obtain ⟨hcheck, -, -, -, -, -, hrem⟩ := run_priorityQueue isRanking_debug
    [.push (1, 5), .push (2, 5), .push (3, 8), .pop]
  exact ⟨hcheck, fun h => ((hrem (2, 5)).1 h).1⟩

end LocHeapNode

end Axon7.GpsUtils
