import Mathlib

/-!
# Element trees

An element tree as `libxml2` gives it: a node has a first child and a next
sibling. A reader goes through the elements in their order, and below those
that it takes for containers. Where an element is repeated, a reader keeps a
row for each in an array, and writes what it finds to the row that was begun
last. That is the row the finding belongs to if every finding is inside such an
element, and no such element is inside another.
-/

namespace Axon7.Lib

/-- A node, with its first child and its next sibling. -/
inductive XmlNode
  | nil
  | element (name : List Char) (children next : XmlNode)
  | text (content : List Char) (next : XmlNode)
  | other (next : XmlNode)

/-- The first text among siblings. -/
def XmlNode.firstText : XmlNode → Option (List Char)
  | nil => none
  | element _ _ next => next.firstText
  | text content _ => some content
  | other next => next.firstText

/-- What a reader is shown of an element: its tag and its text. -/
abbrev Visit (τ : Type) := τ × Option (List Char)

namespace XmlNode

variable {τ σ : Type} (tagOf : List Char → Option τ) (descends : τ → Bool)

/-- A reader goes through siblings and what is below them. -/
def walk (step : σ → Visit τ → σ) : XmlNode → σ → σ
  | nil, s => s
  | element name children next, s =>
    match tagOf name with
    | some t =>
      let s := step s (t, children.firstText)
      let s := if descends t then walk step children s else s
      walk step next s
    | none => walk step next s
  | text _ next, s => walk step next s
  | other next, s => walk step next s

/-- The elements a reader is shown, in their order. -/
def visits : XmlNode → List (Visit τ)
  | nil => []
  | element name children next =>
    (match tagOf name with
    | some t =>
      (t, children.firstText) :: if descends t then visits children else []
    | none => []) ++ visits next
  | text _ next => visits next
  | other next => visits next

theorem walk_eq_foldl (step : σ → Visit τ → σ) (node : XmlNode) (s : σ) :
    node.walk tagOf descends step s = (node.visits tagOf descends).foldl step s := by
  induction node generalizing s with
  | nil => rfl
  | element name children next ihc ihn =>
    rw [walk, visits]
    cases tagOf name with
    | none => exact ihn s
    | some t =>
      rw [List.foldl_append, List.foldl_cons, ← ihn]
      by_cases ht : descends t = true
      · simp only [if_pos ht, ihc]
      · simp only [if_neg ht, List.foldl_nil]
  | text content next ih => exact ih s
  | other next ih => exact ih s

/-! ## Repeated elements -/

variable (starts : τ → Bool) (states : Visit τ → Prop)

/-- What the elements that start a row have inside, in their order. -/
def records : XmlNode → List (List (Visit τ))
  | nil => []
  | element name children next =>
    (match tagOf name with
    | some t =>
      if starts t then visits tagOf descends children :: records children
      else if descends t then records children else []
    | none => []) ++ records next
  | text _ next => records next
  | other next => records next

/-- Whatever says something about a row is inside an element that starts one,
and no such element is inside another. -/
def Placed : Bool → XmlNode → Prop
  | _, nil => True
  | inside, element name children next =>
    (match tagOf name with
    | some t =>
      if starts t then inside = false ∧ Placed true children
      else (states (t, children.firstText) → inside = true) ∧
        (descends t = true → Placed inside children)
    | none => True) ∧ Placed inside next
  | inside, text _ next => Placed inside next
  | inside, other next => Placed inside next

instance decidablePlaced [DecidablePred states] : (inside : Bool) → (node : XmlNode) →
    Decidable (Placed tagOf descends starts states inside node)
  | _, nil => .isTrue trivial
  | inside, element name children next =>
    let _ := decidablePlaced true children
    let _ := decidablePlaced inside children
    let _ := decidablePlaced inside next
    @instDecidableAnd _ _
      (match tagOf name with
      | some t =>
        inferInstanceAs (Decidable (if starts t then inside = false ∧ _ else _ ∧ _))
      | none => .isTrue trivial) _
  | inside, text _ next => decidablePlaced inside next
  | inside, other next => decidablePlaced inside next

variable {tagOf descends starts states} {node : XmlNode}

theorem Placed.not_starts (h : node.Placed tagOf descends starts states true) :
    ∀ v ∈ node.visits tagOf descends, starts v.1 = false := by
  induction node with
  | nil => exact fun v hv => absurd hv List.not_mem_nil
  | element name children next ihc ihn =>
    rw [Placed] at h
    rw [visits]
    intro v hv
    rw [List.mem_append] at hv
    obtain hv | hv := hv
    · cases htag : tagOf name with
      | none =>
        rw [htag] at hv
        exact absurd hv List.not_mem_nil
      | some t =>
        rw [htag] at hv h
        simp only at hv h
        split at h
        · exact absurd h.1.1 (by decide)
        · rename_i ht
          rw [List.mem_cons] at hv
          obtain rfl | hv := hv
          · simpa using ht
          · split at hv
            · rename_i hdesc
              exact ihc (h.1.2 hdesc) v hv
            · exact absurd hv List.not_mem_nil
    · exact ihn h.2 v hv
  | text content next ih => exact ih h
  | other next ih => exact ih h

theorem Placed.records_eq_nil
    (h : node.Placed tagOf descends starts states true) :
    node.records tagOf descends starts = [] := by
  induction node with
  | nil => rfl
  | element name children next ihc ihn =>
    rw [Placed] at h
    rw [records, ihn h.2, List.append_nil]
    cases htag : tagOf name with
    | none => rfl
    | some t =>
      rw [htag] at h
      simp only at h ⊢
      split at h
      · exact absurd h.1.1 (by decide)
      · rename_i ht
        rw [if_neg ht]
        split
        · rename_i hd
          exact ihc (h.1.2 hd)
        · rfl
  | text content next ih => exact ih h
  | other next ih => exact ih h

end XmlNode

/-! ## Rows

The array has a capacity and the number of rows begun is a byte. To write
where there is no row is `none`, and so is whatever comes of it. -/

/-- A row is begun by some tags, and an element may say something about it. -/
structure Reader (τ ε : Type) where
  starts : τ → Bool
  upd : Visit τ → Option (ε → ε)

/-- The rows, and how many were begun. -/
structure Rows (cap : Nat) (ε : Type) where
  num : Nat
  rows : Fin cap → ε

namespace Rows

variable {cap : Nat} {ε : Type}

def blank (cap : Nat) (e : ε) : Rows cap ε := ⟨0, fun _ => e⟩

/-- One more row is begun. -/
def start (s : Rows cap ε) : Rows cap ε := { s with num := (s.num + 1) % 256 }

/-- The row begun last is written. -/
def write (f : ε → ε) (s : Rows cap ε) : Option (Rows cap ε) :=
  if h : 1 ≤ s.num ∧ s.num - 1 < cap then
    some { s with
      rows := Function.update s.rows ⟨s.num - 1, h.2⟩ (f (s.rows ⟨s.num - 1, h.2⟩)) }
  else none

end Rows

namespace Reader

variable {τ ε : Type} {cap : Nat} (r : Reader τ ε)

/-- What an element says about a row. -/
def apply (e : ε) (v : Visit τ) : ε :=
  match r.upd v with
  | some f => f e
  | none => e

/-- The element says something. -/
def States (v : Visit τ) : Prop := (r.upd v).isSome = true

instance (v : Visit τ) : Decidable (r.States v) := inferInstanceAs (Decidable (_ = true))

/-- One element of those a reader is shown. -/
def step (s : Option (Rows cap ε)) (v : Visit τ) : Option (Rows cap ε) :=
  if r.starts v.1 = true then s.map Rows.start
  else
    match r.upd v with
    | some f => s.bind (Rows.write f)
    | none => s

/-- A row is begun, and what is inside its element is written. -/
def record (s : Option (Rows cap ε)) (body : List (Visit τ)) : Option (Rows cap ε) :=
  body.foldl r.step (s.map Rows.start)

variable {r} {e : ε} {body : List (Visit τ)}

theorem foldl_step_none (body : List (Visit τ)) :
    body.foldl r.step (none : Option (Rows cap ε)) = none := by
  induction body with
  | nil => rfl
  | cons v body ih =>
    have hstep : r.step (none : Option (Rows cap ε)) v = none := by
      rw [step]
      split
      · rfl
      · split <;> rfl
    rw [List.foldl_cons, hstep, ih]

theorem step_of_not_states {v : Visit τ} (hstart : r.starts v.1 = false)
    (h : ¬ r.States v) (s : Option (Rows cap ε)) : r.step s v = s := by
  rw [step, if_neg (by simp [hstart])]
  split
  · rename_i f hf
    exact absurd (Option.isSome_iff_exists.mpr ⟨f, hf⟩) h
  · rfl

theorem foldl_step_in (hbody : ∀ v ∈ body, r.starts v.1 = false) {k : Nat} (hk : k < cap)
    (rows : Fin cap → ε) :
    body.foldl r.step (some ⟨k + 1, rows⟩) =
      some ⟨k + 1, Function.update rows ⟨k, hk⟩ (body.foldl r.apply (rows ⟨k, hk⟩))⟩ := by
  induction body generalizing rows with
  | nil => rw [List.foldl_nil, List.foldl_nil, Function.update_eq_self]
  | cons v body ih =>
    have hstep : r.step (some ⟨k + 1, rows⟩) v =
        some ⟨k + 1, Function.update rows ⟨k, hk⟩ (r.apply (rows ⟨k, hk⟩) v)⟩ := by
      have hrow : 1 ≤ k + 1 ∧ k + 1 - 1 < cap := ⟨by omega, by omega⟩
      rw [step, if_neg (by simp [hbody v (List.mem_cons_self ..)]), apply]
      split
      · rw [Option.bind_some, Rows.write, dif_pos hrow]
        rfl
      · rw [Function.update_eq_self]
    rw [List.foldl_cons, hstep, ih fun w hw => hbody w (List.mem_cons_of_mem _ hw),
      Function.update_self, Function.update_idem, List.foldl_cons]

theorem foldl_step_of_not_states (hbody : ∀ v ∈ body, r.starts v.1 = false)
    (h : ∀ v ∈ body, ¬ r.States v) (s : Option (Rows cap ε)) :
    body.foldl r.step s = s := by
  induction body with
  | nil => rfl
  | cons v body ih =>
    rw [List.foldl_cons, step_of_not_states (hbody v (List.mem_cons_self ..))
      (h v (List.mem_cons_self ..))]
    exact ih (fun w hw => hbody w (List.mem_cons_of_mem _ hw))
      fun w hw => h w (List.mem_cons_of_mem _ hw)

theorem foldl_step_out (hbody : ∀ v ∈ body, r.starts v.1 = false) {num : Nat}
    (hnum : cap < num) (rows : Fin cap → ε) {v : Visit τ} (hv : v ∈ body)
    (hs : r.States v) : body.foldl r.step (some ⟨num, rows⟩) = none := by
  induction body with
  | nil => exact absurd hv List.not_mem_nil
  | cons w body ih =>
    have hstart := hbody w (List.mem_cons_self ..)
    rw [List.foldl_cons]
    by_cases hw : r.States w
    · obtain ⟨f, hf⟩ := Option.isSome_iff_exists.mp hw
      have hstep : r.step (some ⟨num, rows⟩) w = none := by
        have hrow : ¬ (1 ≤ num ∧ num - 1 < cap) := by omega
        rw [step, if_neg (by simp [hstart]), hf]
        exact dif_neg hrow
      rw [hstep, foldl_step_none]
    · rw [step_of_not_states hstart hw]
      refine ih (fun w hw => hbody w (List.mem_cons_of_mem _ hw)) ?_
      obtain rfl | hv := List.mem_cons.mp hv
      · exact absurd hs hw
      · exact hv

/-! ## The rows of a tree -/

variable {tagOf : List Char → Option τ} {descends : τ → Bool} {node : XmlNode}

theorem foldl_visits (hdesc : ∀ t, r.starts t = true → descends t = true)
    (h : node.Placed tagOf descends r.starts r.States false)
    (s : Option (Rows cap ε)) :
    (node.visits tagOf descends).foldl r.step s =
      (node.records tagOf descends r.starts).foldl r.record s := by
  induction node generalizing s with
  | nil => rfl
  | element name children next ihc ihn =>
    rw [XmlNode.Placed] at h
    rw [XmlNode.visits, XmlNode.records, List.foldl_append, List.foldl_append, ihn h.2]
    congr 1
    cases htag : tagOf name with
    | none => rfl
    | some t =>
      rw [htag] at h
      simp only at h ⊢
      split at h
      · rename_i ht
        rw [if_pos ht, if_pos (hdesc t ht), h.1.2.records_eq_nil, List.foldl_cons,
          List.foldl_cons, List.foldl_nil, record, step, if_pos ht]
      · rename_i ht
        have hs : ¬ r.States (t, children.firstText) := fun hs =>
          absurd (h.1.1 hs) (by decide)
        rw [if_neg ht, List.foldl_cons, step_of_not_states (by simpa using ht) hs]
        split
        · rename_i hd
          exact ihc (h.1.2 hd) s
        · rfl
  | text content next ih => exact ih h s
  | other next ih => exact ih h s

theorem not_starts_of_mem_records
    (h : node.Placed tagOf descends r.starts r.States false) :
    ∀ body ∈ node.records tagOf descends r.starts, ∀ v ∈ body, r.starts v.1 = false := by
  induction node with
  | nil => exact fun body hbody => absurd hbody List.not_mem_nil
  | element name children next ihc ihn =>
    rw [XmlNode.Placed] at h
    rw [XmlNode.records]
    intro body hbody
    rw [List.mem_append] at hbody
    obtain hbody | hbody := hbody
    · cases htag : tagOf name with
      | none =>
        rw [htag] at hbody
        exact absurd hbody List.not_mem_nil
      | some t =>
        rw [htag] at hbody h
        simp only at hbody h
        split at h
        · rename_i ht
          rw [if_pos ht, h.1.2.records_eq_nil, List.mem_singleton] at hbody
          rw [hbody]
          exact h.1.2.not_starts
        · rename_i ht
          rw [if_neg ht] at hbody
          split at hbody
          · rename_i hd
            exact ihc (h.1.2 hd) body hbody
          · exact absurd hbody List.not_mem_nil
    · exact ihn h.2 body hbody
  | text content next ih => exact ih h
  | other next ih => exact ih h

/-- Nothing is said in the elements that the array has no row for. -/
def FitsIn (r : Reader τ ε) (cap : Nat) (bodies : List (List (Visit τ))) : Prop :=
  ∀ (k : Nat) (hk : k < bodies.length), cap ≤ k → ∀ v ∈ bodies[k], ¬ r.States v

/-- The rows are as the elements say. -/
def rowsOf (r : Reader τ ε) (cap : Nat) (e : ε) (bodies : List (List (Visit τ))) :
    Fin cap → ε :=
  fun i => match bodies[i.val]? with
    | some body => body.foldl r.apply e
    | none => e

instance (bodies : List (List (Visit τ))) : Decidable (r.FitsIn cap bodies) :=
  Nat.decidableBallLT _ _

theorem foldl_record {bodies : List (List (Visit τ))} (hcap : cap < 256)
    (hbodies : ∀ body ∈ bodies, ∀ v ∈ body, r.starts v.1 = false)
    (hfits : r.FitsIn cap bodies) :
    bodies.foldl r.record (some (Rows.blank cap e)) =
      some ⟨bodies.length % 256, r.rowsOf cap e bodies⟩ := by
  induction bodies using List.reverseRecOn with
  | nil => rfl
  | append_singleton bodies body ih =>
    have hfits' : r.FitsIn cap bodies := by
      intro k hk hle v hv
      refine hfits k (by simp; omega) hle v ?_
      rw [List.getElem_append_left hk]
      exact hv
    have hbody : ∀ v ∈ body, r.starts v.1 = false :=
      hbodies body (List.mem_append_right _ (List.mem_singleton_self _))
    rw [List.foldl_append, ih (fun b hb => hbodies b (List.mem_append_left _ hb)) hfits',
      List.foldl_cons, List.foldl_nil, record, Option.map_some, Rows.start,
      List.length_append, List.length_singleton]
    have hnum : (bodies.length % 256 + 1) % 256 = (bodies.length + 1) % 256 :=
      Nat.mod_add_mod ..
    simp only [hnum]
    by_cases hlen : bodies.length < cap
    · have hmod : (bodies.length + 1) % 256 = bodies.length + 1 :=
        Nat.mod_eq_of_lt (by omega)
      have hblank : r.rowsOf cap e bodies ⟨bodies.length, hlen⟩ = e := by
        simp [rowsOf]
      rw [hmod, foldl_step_in hbody hlen, hblank]
      refine congrArg some (congrArg (Rows.mk _) (funext fun i => ?_))
      by_cases hi : i = ⟨bodies.length, hlen⟩
      · subst hi
        simp [rowsOf]
      · have hne : i.val ≠ bodies.length := fun heq => hi (Fin.ext heq)
        rw [Function.update_of_ne hi, rowsOf, rowsOf]
        by_cases hlt : i.val < bodies.length
        · rw [List.getElem?_append_left hlt]
        · rw [List.getElem?_eq_none (by omega),
            List.getElem?_eq_none (by simp; omega)]
    · have hsilent : ∀ v ∈ body, ¬ r.States v := by
        intro v hv
        refine hfits bodies.length (by simp) (by omega) v ?_
        rw [List.getElem_concat_length]
        exact hv
        rfl
      rw [foldl_step_of_not_states hbody hsilent]
      refine congrArg some (congrArg (Rows.mk _) (funext fun i => ?_))
      rw [rowsOf, rowsOf]
      by_cases hlt : i.val < bodies.length
      · rw [List.getElem?_append_left hlt]
      · omega

theorem foldl_record_of_not_fits {bodies : List (List (Visit τ))} (hcap : cap < 256)
    (hbodies : ∀ body ∈ bodies, ∀ v ∈ body, r.starts v.1 = false)
    (hlen : bodies.length < 256) (hfits : ¬ r.FitsIn cap bodies) :
    bodies.foldl r.record (some (Rows.blank cap e)) = none := by
  induction bodies using List.reverseRecOn with
  | nil => exact absurd (fun k hk => absurd hk (Nat.not_lt_zero k)) hfits
  | append_singleton bodies body ih =>
    rw [List.length_append, List.length_singleton] at hlen
    have hfront : ∀ b ∈ bodies, ∀ v ∈ b, r.starts v.1 = false := fun b hb =>
      hbodies b (List.mem_append_left _ hb)
    have hbody : ∀ v ∈ body, r.starts v.1 = false :=
      hbodies body (List.mem_append_right _ (List.mem_singleton_self _))
    rw [List.foldl_append, List.foldl_cons, List.foldl_nil]
    by_cases hfits' : r.FitsIn cap bodies
    · -- it is in the last element
      obtain ⟨v, hv, hs, hge⟩ : ∃ v ∈ body, r.States v ∧ cap ≤ bodies.length := by
        by_contra hno
        refine hfits fun k hk hle v hv hs => ?_
        by_cases hlt : k < bodies.length
        · rw [List.getElem_append_left hlt] at hv
          exact hfits' k hlt hle v hv hs
        · obtain rfl : k = bodies.length := by
            simp only [List.length_append, List.length_singleton] at hk
            omega
          rw [List.getElem_concat_length rfl] at hv
          exact hno ⟨v, hv, hs, hle⟩
      rw [foldl_record hcap hfront hfits', record, Option.map_some, Rows.start]
      have hnum : (bodies.length % 256 + 1) % 256 = bodies.length + 1 := by omega
      simp only [hnum]
      exact foldl_step_out hbody (by omega) _ hv hs
    · rw [ih hfront (by omega) hfits', record]
      exact foldl_step_none body

section Tree

variable (hcap : cap < 256) (hdesc : ∀ t, r.starts t = true → descends t = true)
  (h : node.Placed tagOf descends r.starts r.States false)

include hcap hdesc h

theorem foldl_visits_eq (hfits : r.FitsIn cap (node.records tagOf descends r.starts)) :
    (node.visits tagOf descends).foldl r.step (some (Rows.blank cap e)) =
      some ⟨(node.records tagOf descends r.starts).length % 256,
        r.rowsOf cap e (node.records tagOf descends r.starts)⟩ := by
  rw [foldl_visits hdesc h]
  exact foldl_record hcap (not_starts_of_mem_records h) hfits

theorem foldl_visits_eq_none
    (hlen : (node.records tagOf descends r.starts).length < 256)
    (hfits : ¬ r.FitsIn cap (node.records tagOf descends r.starts)) :
    (node.visits tagOf descends).foldl r.step (some (Rows.blank cap e)) = none := by
  rw [foldl_visits hdesc h]
  exact foldl_record_of_not_fits hcap (not_starts_of_mem_records h) hlen hfits

end Tree

theorem rowsOf_congr {r' : Reader τ ε} {bodies : List (List (Visit τ))}
    (h : ∀ (i : Nat) (hi : i < bodies.length), i < cap →
      ∀ v ∈ bodies[i], r.upd v = r'.upd v) :
    r.rowsOf cap e bodies = r'.rowsOf cap e bodies := by
  funext i
  rw [rowsOf, rowsOf]
  by_cases hi : i.val < bodies.length
  · rw [List.getElem?_eq_getElem hi]
    refine List.foldl_ext _ _ _ fun e' v hv => ?_
    rw [apply, apply, h i hi i.isLt v hv]
  · rw [List.getElem?_eq_none (by omega)]

/-! ## One field of a row -/

section Said

variable {β : Type} [DecidableEq τ]

/-- What an element says that has the tag, and a text. -/
def said (t : τ) (value : List Char → Option β) (v : Visit τ) : Option β :=
  if v.1 = t then v.2.bind value else none

/-- A field of the row is what elements of the tag say, the last that says
something. -/
def Writes (r : Reader τ ε) (t : τ) (field : ε → Option β)
    (value : List Char → Option β) : Prop :=
  ∀ v e, field (r.apply e v) = (said t value v).or (field e)

/-- There is one element of the tag at most. -/
def SaidOnce (t : τ) (body : List (Visit τ)) : Prop :=
  body.Pairwise fun v w => ¬ (v.1 = t ∧ w.1 = t)

variable {t : τ} {field : ε → Option β} {value : List Char → Option β}

theorem Writes.foldl_other (h : Writes r t field value) (hbody : ∀ v ∈ body, v.1 ≠ t)
    (e : ε) : field (body.foldl r.apply e) = field e := by
  induction body generalizing e with
  | nil => rfl
  | cons v body ih =>
    rw [List.foldl_cons, ih fun w hw => hbody w (List.mem_cons_of_mem _ hw), h, said,
      if_neg (hbody v (List.mem_cons_self ..)), Option.none_or]

theorem Writes.foldl_eq (h : Writes r t field value) (honce : SaidOnce t body)
    {text : List Char} (hv : (t, some text) ∈ body) (he : field e = none) :
    field (body.foldl r.apply e) = value text := by
  obtain ⟨l₁, l₂, rfl⟩ := List.append_of_mem hv
  rw [SaidOnce, List.pairwise_append, List.pairwise_cons] at honce
  obtain ⟨-, ⟨hbehind, -⟩, hfront⟩ := honce
  have h₁ : ∀ v ∈ l₁, v.1 ≠ t := fun v hv' heq =>
    hfront v hv' _ (List.mem_cons_self ..) ⟨heq, rfl⟩
  have h₂ : ∀ v ∈ l₂, v.1 ≠ t := fun v hv' heq => hbehind v hv' ⟨rfl, heq⟩
  rw [List.foldl_append, List.foldl_cons, h.foldl_other h₂, h, h.foldl_other h₁, he,
    Option.or_none, said, if_pos rfl, Option.bind_some]

theorem Writes.value_eq {r' : Reader τ ε} {value' : List Char → Option β}
    (h : Writes r t field value) (h' : Writes r' t field value') (he : field e = none)
    {bodies : List (List (Visit τ))}
    (hrows : r.rowsOf cap e bodies = r'.rowsOf cap e bodies) {i : Nat}
    (hi : i < bodies.length) (hcap : i < cap) (honce : SaidOnce t bodies[i])
    {text : List Char} (hv : (t, some text) ∈ bodies[i]) : value text = value' text := by
  have hrow := congrFun hrows ⟨i, hcap⟩
  rw [rowsOf, rowsOf, List.getElem?_eq_getElem hi] at hrow
  rw [← h.foldl_eq honce hv he, ← h'.foldl_eq honce hv he]
  exact congrArg field hrow

end Said

/-! ## Fields that two tags act upon -/

/-- The text of the first element of some tags that has one. -/
def textOf (p : τ → Bool) (body : List (Visit τ)) : Option (List Char) :=
  body.findSome? fun v => if p v.1 = true then v.2 else none

/-- None of the tags of `q` is before one of `p`. -/
def Before (p q : τ → Bool) (body : List (Visit τ)) : Prop :=
  body.Pairwise fun v w => ¬ (q v.1 = true ∧ p w.1 = true)

instance (p q : τ → Bool) (body : List (Visit τ)) : Decidable (Before p q body) :=
  inferInstanceAs (Decidable (List.Pairwise _ body))

section Acts

variable {β : Type} {p q : τ → Bool}

theorem textOf_cons (p : τ → Bool) (v : Visit τ) (body : List (Visit τ)) :
    textOf p (v :: body) = (if p v.1 = true then v.2 else none).or (textOf p body) := by
  rw [textOf, List.findSome?_cons]
  cases if p v.1 = true then v.2 else none <;> rfl

theorem textOf_eq_none (h : ∀ v ∈ body, p v.1 = false) : textOf p body = none := by
  rw [textOf, List.findSome?_eq_none_iff]
  intro v hv
  rw [if_neg (by simp [h v hv])]

theorem textOf_isSome_iff :
    (textOf p body).isSome = true ↔ ∃ v ∈ body, p v.1 = true ∧ v.2.isSome = true := by
  induction body with
  | nil =>
    constructor
    · exact fun h => absurd h (by simp [textOf])
    · exact fun ⟨v, hv, _⟩ => absurd hv List.not_mem_nil
  | cons v body ih =>
    rw [textOf_cons, Option.isSome_or, Bool.or_eq_true, ih]
    constructor
    · intro h
      obtain h | ⟨w, hw, hpw⟩ := h
      · refine ⟨v, List.mem_cons_self .., ?_⟩
        by_cases hp : p v.1 = true
        · exact ⟨hp, by rwa [if_pos hp] at h⟩
        · rw [if_neg hp] at h
          exact absurd h (by decide)
      · exact ⟨w, List.mem_cons_of_mem _ hw, hpw⟩
    · intro ⟨w, hw, hp, hsome⟩
      obtain rfl | hw := List.mem_cons.mp hw
      · exact Or.inl (by rwa [if_pos hp])
      · exact Or.inr ⟨w, hw, hp, hsome⟩

theorem Before.not_behind {v : Visit τ} (h : Before p q (v :: body)) (hq : q v.1 = true) :
    ∀ w ∈ body, p w.1 = false := by
  intro w hw
  have hno := (List.pairwise_cons.mp h).1 w hw
  simpa [hq] using hno

theorem textOf_eq_of_mem (honce : Before p p body) {v : Visit τ} (hv : v ∈ body)
    (hp : p v.1 = true) : textOf p body = v.2 := by
  induction body with
  | nil => exact absurd hv List.not_mem_nil
  | cons w body ih =>
    rw [textOf_cons]
    obtain rfl | hv := List.mem_cons.mp hv
    · rw [if_pos hp, textOf_eq_none (honce.not_behind hp), Option.or_none]
    · have hw : ¬ p w.1 = true := fun hw => by
        have hno := honce.not_behind hw v hv
        rw [hp] at hno
        exact absurd hno (by decide)
      rw [if_neg hw, Option.none_or, ih (List.pairwise_cons.mp honce).2 hv]

theorem before_or_before (hp : Before p p body) (hq : Before q q body)
    (hdisj : ∀ t, ¬ (p t = true ∧ q t = true)) : Before p q body ∨ Before q p body := by
  induction body with
  | nil => exact Or.inl List.Pairwise.nil
  | cons v body ih =>
    have hcons {p q : τ → Bool} (hv : q v.1 = false) (h : Before p q body) :
        Before p q (v :: body) :=
      List.pairwise_cons.mpr ⟨fun w _ => by simp [hv], h⟩
    have hfree {p q : τ → Bool} (h : ∀ w ∈ body, p w.1 = false) : Before p q body :=
      List.pairwise_of_forall_mem_list fun a _ b hb => by simp [h b hb]
    by_cases hpv : p v.1 = true
    · have hqv : q v.1 = false := by
        have hno := hdisj v.1
        simpa [hpv] using hno
      exact Or.inl (hcons hqv (hfree (hp.not_behind hpv)))
    · by_cases hqv : q v.1 = true
      · exact Or.inr (hcons (by simpa using hpv) (hfree (hq.not_behind hqv)))
      · obtain h | h := ih (List.pairwise_cons.mp hp).2 (List.pairwise_cons.mp hq).2
        · exact Or.inl (hcons (by simpa using hqv) h)
        · exact Or.inr (hcons (by simpa using hpv) h)

/-- Elements of the tags of `p` and of `q` act upon a field by their texts, and no
others do. -/
structure Acts (r : Reader τ ε) (proj : ε → β) (p : τ → Bool) (act : List Char → β → β)
    (q : τ → Bool) (act' : List Char → β → β) : Prop where
  disjoint : ∀ t, ¬ (p t = true ∧ q t = true)
  first : ∀ v e, p v.1 = true → proj (r.apply e v) = v.2.elim id act (proj e)
  second : ∀ v e, q v.1 = true → proj (r.apply e v) = v.2.elim id act' (proj e)
  neither : ∀ v e, p v.1 = false → q v.1 = false → proj (r.apply e v) = proj e

variable {proj : ε → β} {act act' : List Char → β → β}

theorem Acts.swap (h : Acts r proj p act q act') : Acts r proj q act' p act :=
  ⟨fun t ht => h.disjoint t ht.symm, h.second, h.first, fun v e hq hp => h.neither v e hp hq⟩

theorem Acts.foldl_eq (h : Acts r proj p act q act') (hp : Before p p body)
    (hq : Before q q body) (hpq : Before p q body) (e : ε) :
    proj (body.foldl r.apply e) =
      (textOf q body).elim id act' ((textOf p body).elim id act (proj e)) := by
  induction body generalizing e with
  | nil => rfl
  | cons v body ih =>
    rw [List.foldl_cons, ih (List.pairwise_cons.mp hp).2 (List.pairwise_cons.mp hq).2
      (List.pairwise_cons.mp hpq).2, textOf_cons, textOf_cons]
    by_cases hqv : q v.1 = true
    · have hpv : ¬ p v.1 = true := fun hpv => h.disjoint v.1 ⟨hpv, hqv⟩
      rw [if_pos hqv, if_neg hpv, textOf_eq_none (hpq.not_behind hqv),
        textOf_eq_none (hq.not_behind hqv), Option.or_none, Option.or_none,
        h.second v e hqv]
      rfl
    · by_cases hpv : p v.1 = true
      · rw [if_neg hqv, if_pos hpv, textOf_eq_none (hp.not_behind hpv), Option.none_or,
          Option.or_none, h.first v e hpv]
        rfl
      · rw [if_neg hqv, if_neg hpv, Option.none_or, Option.none_or,
          h.neither v e (by simpa using hpv) (by simpa using hqv)]

/-- Elements of some tags act upon a field, and no others do. -/
def ActsAlone (r : Reader τ ε) (proj : ε → β) (p : τ → Bool) (act : List Char → β → β) :
    Prop :=
  ∀ v e, proj (r.apply e v) = if p v.1 = true then v.2.elim id act (proj e) else proj e

theorem ActsAlone.foldl_eq (h : ActsAlone r proj p act) (hp : Before p p body) (e : ε) :
    proj (body.foldl r.apply e) = (textOf p body).elim id act (proj e) := by
  have hacts : Acts r proj p act (fun _ => false) (fun _ => id) := by
    refine ⟨fun t ht => absurd ht.2 (by decide), fun v e hpv => ?_,
      fun v e hq => absurd hq (by decide), fun v e hpv _ => ?_⟩
    · rw [h, if_pos hpv]
    · rw [h, if_neg (by simp [hpv])]
  have hnever {p : τ → Bool} : Before p (fun _ => false) body :=
    List.pairwise_of_forall_mem_list fun a _ b _ => by simp
  rw [hacts.foldl_eq hp hnever hnever, textOf_eq_none fun _ _ => rfl]
  rfl

end Acts

end Reader

end Axon7.Lib
