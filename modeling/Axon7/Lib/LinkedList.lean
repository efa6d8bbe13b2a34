import Mathlib

/-!
# Linked lists

Lists of cells on a heap, each with a pointer to the next. A cell that was never allocated or
has been freed cannot be read: the program that tries has a `Fault`. What a pointer leads to is
a path of cells up to another pointer, and a list is a path that ends in a null pointer. A path
is left alone by what is written elsewhere, and is cut and joined like the list of its cells.
-/

namespace Axon7.Lib

/-- A cell of a linked list. -/
structure Cell (α : Type) where
  val : α
  next : Option Nat

/-- The cells by their addresses. -/
abbrev Heap (α : Type) := AList fun _ : Nat => Cell α

/-- Why a walk over a list does not come to its end. -/
inductive Fault
  | freed
  | endless

variable {α : Type}

namespace Heap

/-- What a pointer points to. -/
def read (h : Heap α) (p : Nat) : Except Fault (Cell α) :=
  match h.lookup p with
  | some cell => .ok cell
  | none => .error .freed

/-- The number of the cells, which no walk over a list is longer than. -/
def size (h : Heap α) : Nat := h.keys.length

/-- `p->next = next`. -/
def setNext (h : Heap α) (p : Nat) (next : Option Nat) : Except Fault (Heap α) := do
  let cell ← read h p
  return h.insert p { cell with next }

theorem read_eq {h : Heap α} {p : Nat} {cell : Cell α} (hp : h.lookup p = some cell) :
    read h p = .ok cell := by
  rw [read, hp]

theorem setNext_eq {h : Heap α} {p : Nat} {cell : Cell α} (hp : h.lookup p = some cell)
    (next : Option Nat) : setNext h p next = .ok (h.insert p { cell with next }) := by
  rw [setNext, read_eq hp]
  rfl

theorem size_insert {h : Heap α} {p : Nat} (hp : h.lookup p = none) (cell : Cell α) :
    size (h.insert p cell) = size h + 1 := by
  have hkeys : p ∉ h.keys := fun hmem => AList.lookup_eq_none.1 hp (AList.mem_keys.2 hmem)
  rw [size, AList.keys_insert, List.erase_of_not_mem hkeys, List.length_cons, size]

end Heap

/-- The cells `cells`, with their addresses, are what leads from one pointer to another. -/
def Path (h : Heap α) : Option Nat → List (Nat × α) → Option Nat → Prop
  | p, [], q => p = q
  | p, (a, x) :: cells, q =>
    p = some a ∧ ∃ next, h.lookup a = some ⟨x, next⟩ ∧ Path h next cells q

/-- The list at a pointer. -/
structure Chain (h : Heap α) (p : Option Nat) (cells : List (Nat × α)) : Prop where
  path : Path h p cells none
  nodup : (cells.map Prod.fst).Nodup

section

variable {h h' : Heap α} {p q r : Option Nat} {a : Nat} {x : α} {cells cells' : List (Nat × α)}

theorem Path.append_iff :
    Path h p (cells ++ cells') q ↔ ∃ r, Path h p cells r ∧ Path h r cells' q := by
  induction cells generalizing p with
  | nil => simp [Path]
  | cons cell cells ih =>
    simp only [List.cons_append, Path, ih]
    constructor
    · intro hp
      obtain ⟨rfl, next, hlookup, r, hr, hq⟩ := hp
      exact ⟨r, ⟨rfl, next, hlookup, hr⟩, hq⟩
    · intro hp
      obtain ⟨r, ⟨rfl, next, hlookup, hr⟩, hq⟩ := hp
      exact ⟨rfl, next, hlookup, r, hr, hq⟩

theorem Path.append (hp : Path h p cells q) (hq : Path h q cells' r) :
    Path h p (cells ++ cells') r :=
  Path.append_iff.2 ⟨q, hp, hq⟩

theorem Path.congr (hp : Path h p cells q)
    (heq : ∀ b ∈ cells.map Prod.fst, h'.lookup b = h.lookup b) : Path h' p cells q := by
  induction cells generalizing p with
  | nil => exact hp
  | cons cell cells ih =>
    obtain ⟨rfl, next, hlookup, hrest⟩ := hp
    refine ⟨rfl, next, ?_, ih hrest fun b hb => heq b (List.mem_cons_of_mem _ hb)⟩
    rw [heq _ List.mem_cons_self, hlookup]

theorem Path.insert_of_notMem (hp : Path h p cells q) (ha : a ∉ cells.map Prod.fst)
    (cell : Cell α) : Path (h.insert a cell) p cells q :=
  hp.congr fun _ hb => AList.lookup_insert_ne (ne_of_mem_of_not_mem hb ha)

theorem Path.erase_of_notMem (hp : Path h p cells q) (ha : a ∉ cells.map Prod.fst) :
    Path (h.erase a) p cells q :=
  hp.congr fun _ hb => AList.lookup_erase_ne (ne_of_mem_of_not_mem hb ha)

theorem Path.relink (hp : Path h p (cells ++ [(a, x)]) q) (ha : a ∉ cells.map Prod.fst)
    (next : Option Nat) : Path (h.insert a ⟨x, next⟩) p (cells ++ [(a, x)]) next := by
  obtain ⟨r, hcells, rfl, -⟩ := Path.append_iff.1 hp
  exact (hcells.insert_of_notMem ha _).append ⟨rfl, next, AList.lookup_insert h, rfl⟩

theorem Path.lookup_last (hp : Path h p (cells ++ [(a, x)]) q) :
    h.lookup a = some ⟨x, q⟩ := by
  obtain ⟨r, -, -, next, hlookup, rfl⟩ := Path.append_iff.1 hp
  exact hlookup

theorem Path.mem_keys (hp : Path h p cells q) (ha : a ∈ cells.map Prod.fst) : a ∈ h.keys := by
  induction cells generalizing p with
  | nil => simp at ha
  | cons cell cells ih =>
    obtain ⟨rfl, next, hlookup, hrest⟩ := hp
    rcases List.mem_cons.1 ha with rfl | ha
    · exact AList.mem_keys.1 (AList.lookup_isSome.1 (by rw [hlookup]; rfl))
    · exact ih hrest ha

theorem Path.start (hp : Path h p cells none) : p = cells.head?.map Prod.fst := by
  cases cells with
  | nil => exact hp
  | cons cell cells => exact hp.1

theorem Chain.length_le (hc : Chain h p cells) : cells.length ≤ h.size := by
  rw [← List.length_map Prod.fst]
  exact (List.subperm_of_subset hc.nodup fun _ ha => hc.path.mem_keys ha).length_le

theorem Chain.notMem_of_fresh (hc : Chain h p cells) (ha : h.lookup a = none) :
    a ∉ cells.map Prod.fst := fun hmem =>
  AList.lookup_eq_none.1 ha (AList.mem_keys.2 (hc.path.mem_keys hmem))

end

end Axon7.Lib
