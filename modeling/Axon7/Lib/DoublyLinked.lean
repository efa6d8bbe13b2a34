import Axon7.Lib.LinkedList

/-!
# Doubly linked lists

Lists of nodes on a heap, each with a pointer to the next and one to the previous. What leads
from one pointer to another is a segment of nodes, read from both its ends: it has the pointer
that its first node points back to, and the pointer that its last node points on to. A segment
is left alone by what is written elsewhere, is cut and joined like the list of its nodes, and
can be led elsewhere at either end by one write.
-/

namespace Axon7.Lib

/-- A node of a doubly linked list. -/
structure DNode (α : Type) where
  val : α
  next : Option Nat
  prev : Option Nat

/-- The nodes by their addresses. -/
abbrev DHeap (α : Type) := AList fun _ : Nat => DNode α

variable {α : Type}

namespace DHeap

/-- What a pointer points to. -/
def read (h : DHeap α) (p : Nat) : Except Fault (DNode α) :=
  match h.lookup p with
  | some node => .ok node
  | none => .error .freed

/-- A write to what a pointer points to. -/
def modify (h : DHeap α) (p : Nat) (f : DNode α → DNode α) : Except Fault (DHeap α) := do
  let node ← read h p
  return h.insert p (f node)

/-- A write to what a pointer points to, unless it is a null pointer. -/
def modifyIf (h : DHeap α) (p : Option Nat) (f : DNode α → DNode α) : Except Fault (DHeap α) :=
  match p with
  | some p => h.modify p f
  | none => .ok h

/-- `free`. -/
def free (h : DHeap α) (p : Nat) : Except Fault (DHeap α) := do
  let _ ← read h p
  return h.erase p

/-- The number of the nodes, which no walk over a list is longer than. -/
def size (h : DHeap α) : Nat := h.keys.length

/-- An address above all that are in use. -/
def unused (h : DHeap α) : Nat := h.keys.max?.getD 0 + 1

/-- `malloc`: memory that is not in use, if there is room. It is at the address picked, unless
that is in use. -/
def malloc (h : DHeap α) (room : Bool) (pick : Nat) : Option Nat :=
  if room then some (if pick ∈ h then h.unused else pick) else none

variable {h : DHeap α} {p : Nat} {node : DNode α}

theorem read_eq (hp : h.lookup p = some node) : h.read p = .ok node := by
  rw [read, hp]

theorem modify_eq (hp : h.lookup p = some node) (f : DNode α → DNode α) :
    h.modify p f = .ok (h.insert p (f node)) := by
  rw [modify, read_eq hp]
  rfl

theorem free_eq (hp : h.lookup p = some node) : h.free p = .ok (h.erase p) := by
  rw [free, read_eq hp]
  rfl

theorem erase_insert (h : DHeap α) (p : Nat) (node : DNode α) :
    (h.insert p node).erase p = h.erase p := by
  refine AList.ext ?_
  have hinsert : (h.insert p node).entries = ⟨p, node⟩ :: List.kerase p h.entries :=
    AList.entries_insert
  change List.kerase p (h.insert p node).entries = List.kerase p h.entries
  rw [hinsert]
  exact List.kerase_cons_eq rfl

theorem unused_notMem (h : DHeap α) : h.unused ∉ h := by
  intro hmem
  have hle : h.unused ≤ h.keys.max?.getD 0 := List.le_max?_getD_of_mem (AList.mem_keys.1 hmem)
  rw [unused] at hle
  omega

theorem malloc_notMem {room : Bool} {pick e : Nat} (he : h.malloc room pick = some e) : e ∉ h := by
  unfold malloc at he
  split_ifs at he with hroom hpick
  · rw [← Option.some_inj.1 he]
    exact unused_notMem h
  · rwa [← Option.some_inj.1 he]

theorem malloc_isSome (h : DHeap α) (room : Bool) (pick : Nat) :
    (h.malloc room pick).isSome = room := by
  cases room <;> rfl

end DHeap

/-! ## Segments -/

/-- The nodes at `p`, with their addresses: `prev` is where the first points back to, `last` is
the address of the last, and `next` is where it points on to. -/
def Seg (h : DHeap α) : Option Nat → Option Nat → List (Nat × α) → Option Nat → Option Nat → Prop
  | prev, p, [], last, next => p = next ∧ last = prev
  | prev, p, (a, x) :: nodes, last, next =>
    p = some a ∧ ∃ n, h.lookup a = some ⟨x, n, prev⟩ ∧ Seg h (some a) n nodes last next

section

variable {h h' : DHeap α} {prev p last next m q : Option Nat} {a b : Nat} {x : α}
  {nodes front back : List (Nat × α)}

theorem Seg.append_iff :
    Seg h prev p (front ++ back) last next ↔
      ∃ m q, Seg h prev p front m q ∧ Seg h m q back last next := by
  induction front generalizing prev p with
  | nil => simp [Seg]
  | cons node front ih =>
    simp only [List.cons_append, Seg, ih]
    constructor
    · rintro ⟨rfl, n, hlookup, m, q, hfront, hback⟩
      exact ⟨m, q, ⟨rfl, n, hlookup, hfront⟩, hback⟩
    · rintro ⟨m, q, ⟨rfl, n, hlookup, hfront⟩, hback⟩
      exact ⟨rfl, n, hlookup, m, q, hfront, hback⟩

theorem Seg.append (hfront : Seg h prev p front m q) (hback : Seg h m q back last next) :
    Seg h prev p (front ++ back) last next :=
  Seg.append_iff.2 ⟨m, q, hfront, hback⟩

theorem Seg.congr (hs : Seg h prev p nodes last next)
    (heq : ∀ b ∈ nodes.map Prod.fst, h'.lookup b = h.lookup b) : Seg h' prev p nodes last next := by
  induction nodes generalizing prev p with
  | nil => exact hs
  | cons node nodes ih =>
    obtain ⟨rfl, n, hlookup, hrest⟩ := hs
    refine ⟨rfl, n, ?_, ih hrest fun b hb => heq b (List.mem_cons_of_mem _ hb)⟩
    rw [heq _ List.mem_cons_self, hlookup]

theorem Seg.insert_of_notMem (hs : Seg h prev p nodes last next)
    (ha : a ∉ nodes.map Prod.fst) (node : DNode α) :
    Seg (h.insert a node) prev p nodes last next :=
  hs.congr fun _ hb => AList.lookup_insert_ne (ne_of_mem_of_not_mem hb ha)

theorem Seg.erase_of_notMem (hs : Seg h prev p nodes last next) (ha : a ∉ nodes.map Prod.fst) :
    Seg (h.erase a) prev p nodes last next :=
  hs.congr fun _ hb => AList.lookup_erase_ne (ne_of_mem_of_not_mem hb ha)

theorem Seg.mem (hs : Seg h prev p nodes last next) (ha : a ∈ nodes.map Prod.fst) : a ∈ h := by
  induction nodes generalizing prev p with
  | nil => exact absurd ha List.not_mem_nil
  | cons node nodes ih =>
    obtain ⟨rfl, n, hlookup, hrest⟩ := hs
    obtain rfl | ha := List.mem_cons.1 ha
    · exact AList.lookup_isSome.1 (by rw [hlookup]; rfl)
    · exact ih hrest ha

theorem Seg.last_eq (hs : Seg h prev p (nodes ++ [(a, x)]) last next) :
    last = some a ∧ ∃ m, Seg h prev p nodes m (some a) ∧ h.lookup a = some ⟨x, next, m⟩ := by
  obtain ⟨m, q, hnodes, rfl, n, hlookup, rfl, rfl⟩ := Seg.append_iff.1 hs
  exact ⟨rfl, m, hnodes, hlookup⟩

/-- Two heaps with the same addresses, and the same nodes at those that are not among some. -/
def Frame (nodes : List (Nat × α)) (h h' : DHeap α) : Prop :=
  ∀ c, (c ∈ h' ↔ c ∈ h) ∧ (c ∉ nodes.map Prod.fst → h'.lookup c = h.lookup c)

theorem Frame.refl (nodes : List (Nat × α)) (h : DHeap α) : Frame nodes h h :=
  fun _ => ⟨Iff.rfl, fun _ => rfl⟩

theorem Frame.insert (ha : a ∈ nodes.map Prod.fst) (hmem : a ∈ h) (node : DNode α) :
    Frame nodes h (h.insert a node) := by
  intro c
  rw [AList.mem_insert]
  refine ⟨⟨?_, .inr⟩, fun hc => AList.lookup_insert_ne (ne_of_mem_of_not_mem ha hc).symm⟩
  rintro (rfl | hc)
  · exact hmem
  · exact hc

theorem Seg.setNext (hs : Seg h none p nodes last next) (hnodup : (nodes.map Prod.fst).Nodup)
    (q : Option Nat) :
    ∃ h', DHeap.modifyIf h last ({ · with next := q }) = .ok h' ∧
      Seg h' none (if last = none then q else p) nodes last q ∧ Frame nodes h h' := by
  rcases List.eq_nil_or_concat' nodes with rfl | ⟨front, ⟨b, y⟩, rfl⟩
  · obtain ⟨rfl, rfl⟩ := hs
    exact ⟨h, rfl, ⟨rfl, rfl⟩, .refl _ _⟩
  · obtain ⟨rfl, m, hfront, hlookup⟩ := hs.last_eq
    have hmem : b ∈ h := AList.lookup_isSome.1 (by rw [hlookup]; rfl)
    rw [List.map_append, List.map_singleton, List.nodup_append] at hnodup
    have hb : b ∉ front.map Prod.fst := fun hb => hnodup.2.2 b hb b List.mem_cons_self rfl
    refine ⟨_, DHeap.modify_eq hlookup _, ?_, .insert (by simp) hmem _⟩
    exact (hfront.insert_of_notMem hb _).append ⟨rfl, q, AList.lookup_insert h, rfl, rfl⟩

theorem Seg.setPrev (hs : Seg h prev p nodes last none) (hnodup : (nodes.map Prod.fst).Nodup)
    (m : Option Nat) :
    ∃ h', DHeap.modifyIf h p ({ · with prev := m }) = .ok h' ∧
      Seg h' m p nodes (if p = none then m else last) none ∧ Frame nodes h h' := by
  cases nodes with
  | nil =>
    obtain ⟨rfl, rfl⟩ := hs
    exact ⟨h, rfl, ⟨rfl, rfl⟩, .refl _ _⟩
  | cons node nodes =>
    obtain ⟨b, y⟩ := node
    obtain ⟨rfl, n, hlookup, hrest⟩ := hs
    have hmem : b ∈ h := AList.lookup_isSome.1 (by rw [hlookup]; rfl)
    rw [List.map_cons, List.nodup_cons] at hnodup
    refine ⟨_, DHeap.modify_eq hlookup _, ?_, .insert List.mem_cons_self hmem _⟩
    exact ⟨rfl, n, AList.lookup_insert h, hrest.insert_of_notMem hnodup.1 _⟩

end

/-! ## Lists -/

/-- The list from `head` to `tail`, which is all there is on the heap. -/
structure DChain (h : DHeap α) (head tail : Option Nat) (nodes : List (Nat × α)) : Prop where
  seg : Seg h none head nodes tail none
  nodup : (nodes.map Prod.fst).Nodup
  mem : ∀ a ∈ h, a ∈ nodes.map Prod.fst

namespace DChain

variable {h : DHeap α} {head tail : Option Nat} {a e : Nat} {x : α}
  {nodes front back : List (Nat × α)}

theorem empty : DChain (∅ : DHeap α) none none [] :=
  ⟨⟨rfl, rfl⟩, List.nodup_nil, fun a ha => absurd ha (AList.notMem_empty a)⟩

theorem length_le (hc : DChain h head tail nodes) : nodes.length ≤ h.size := by
  rw [← List.length_map Prod.fst]
  exact (List.subperm_of_subset hc.nodup fun _ ha =>
    AList.mem_keys.1 (hc.seg.mem ha)).length_le

theorem head_eq_none_iff (hc : DChain h head tail nodes) : head = none ↔ nodes = [] := by
  cases nodes with
  | nil => exact iff_of_true hc.seg.1 rfl
  | cons node nodes => exact iff_of_false (by simp [hc.seg.1]) (by simp)

theorem tail_eq_none_iff (hc : DChain h head tail nodes) : tail = none ↔ nodes = [] := by
  rcases List.eq_nil_or_concat' nodes with rfl | ⟨front, ⟨b, y⟩, rfl⟩
  · exact iff_of_true hc.seg.2 rfl
  · exact iff_of_false (by simp [hc.seg.last_eq.1]) (by simp)

theorem push (hc : DChain h head tail nodes) (he : e ∉ h) (x : α) :
    ∃ h', DHeap.modifyIf (h.insert e ⟨x, head, none⟩) head ({ · with prev := some e }) = .ok h' ∧
      DChain h' (some e) (if head = none then some e else tail) ((e, x) :: nodes) := by
  have hnew : e ∉ nodes.map Prod.fst := fun hmem => he (hc.seg.mem hmem)
  obtain ⟨h', hmodify, hs, hframe⟩ :=
    (hc.seg.insert_of_notMem hnew ⟨x, head, none⟩).setPrev hc.nodup (some e)
  refine ⟨h', hmodify, ⟨rfl, head, ?_, hs⟩, List.nodup_cons.2 ⟨hnew, hc.nodup⟩, fun a ha => ?_⟩
  · rw [(hframe e).2 hnew, AList.lookup_insert]
  · obtain rfl | ha := (AList.mem_insert _).1 ((hframe a).1.1 ha)
    · exact List.mem_cons_self
    · exact List.mem_cons_of_mem _ (hc.mem a ha)

theorem unlink (hc : DChain h head tail (front ++ (a, x) :: back)) :
    ∃ n m h₁ h₂, h.lookup a = some ⟨x, n, m⟩ ∧ (back = [] → n = none) ∧
      DHeap.modifyIf h m ({ · with next := n }) = .ok h₁ ∧
      DHeap.modifyIf h₁ n ({ · with prev := m }) = .ok h₂ ∧ h₂.lookup a = some ⟨x, n, m⟩ ∧
      DChain (h₂.erase a) (if m = none then n else head) (if n = none then m else tail)
        (front ++ back) := by
  have hnodup := hc.nodup
  rw [List.map_append, List.map_cons, List.nodup_append] at hnodup
  obtain ⟨hnfront, hncons, hdisj⟩ := hnodup
  obtain ⟨haback, hnback⟩ := List.nodup_cons.1 hncons
  have hafront : a ∉ front.map Prod.fst := fun ha => hdisj a ha a List.mem_cons_self rfl
  have hback_front : ∀ c ∈ back.map Prod.fst, c ∉ front.map Prod.fst := fun c hc hfront =>
    hdisj c hfront c (List.mem_cons_of_mem _ hc) rfl
  obtain ⟨m, r, hfront, rfl, n, hlookup, hback⟩ := Seg.append_iff.1 hc.seg
  obtain ⟨h₁, hmodify₁, hfront, hframe₁⟩ := hfront.setNext hnfront n
  have hback₁ := hback.congr fun c hc => (hframe₁ c).2 (hback_front c hc)
  obtain ⟨h₂, hmodify₂, hback, hframe₂⟩ := hback₁.setPrev hnback m
  have hfront₂ := hfront.congr fun c hc => (hframe₂ c).2 fun hb => hback_front c hb hc
  refine ⟨n, m, h₁, h₂, hlookup, ?_, hmodify₁, hmodify₂, ?_, ?_, ?_, ?_⟩
  · rintro rfl
    exact hback₁.1
  · rw [(hframe₂ a).2 haback, (hframe₁ a).2 hafront, hlookup]
  · exact (hfront₂.erase_of_notMem hafront).append (hback.erase_of_notMem haback)
  · rw [List.map_append, List.nodup_append]
    exact ⟨hnfront, hnback, fun b hb c hc heq => hback_front c hc (heq ▸ hb)⟩
  · intro c hc'
    obtain ⟨hne, hc'⟩ := AList.mem_erase.1 hc'
    have hmem := hc.mem c ((hframe₁ c).1.1 ((hframe₂ c).1.1 hc'))
    rw [List.map_append, List.map_cons, List.mem_append, List.mem_cons] at hmem
    rw [List.map_append, List.mem_append]
    exact hmem.imp_right fun h => h.resolve_left hne

end DChain

end Axon7.Lib
