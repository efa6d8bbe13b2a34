import Axon7.Lib.CloseGap
import Axon7.Lib.Run

/-!
# The interfaces for NAT

`pNatIfaces` of `IPACM_Config`: an array of as many rows as the configuration names
interfaces, of which the first `ipa_nat_iface_entries` are in use. A row has the name of
an interface, and for which families it is up.

To read a row that the array does not have is `none`, and so is whatever comes of it.
-/

namespace Axon7.Config

open Axon7.Lib

/-- `ipa_ip_type`. -/
inductive IpaIpType
  | v4
  | v6
  | max
deriving DecidableEq

/-- A row, `NatIfaces`. -/
structure NatIface where
  ifaceName : String
  v4Up : Bool
  v6Up : Bool

namespace NatIface

/-- A row that was cleared. -/
def blank : NatIface := ⟨"", false, false⟩

/-- The interface is up for a family. `IPA_IP_MAX` is none. -/
def bringUp (row : NatIface) : IpaIpType → NatIface
  | .v4 => { row with v4Up := true }
  | .v6 => { row with v6Up := true }
  | .max => row

/-- Is it up for the family? -/
def isUp (row : NatIface) : IpaIpType → Bool
  | .v4 => row.v4Up
  | .v6 => row.v6Up
  | .max => false

@[simp] theorem bringUp_ifaceName (row : NatIface) (ipType : IpaIpType) :
    (row.bringUp ipType).ifaceName = row.ifaceName := by
  cases ipType <;> rfl

theorem bringUp_isUp (row : NatIface) (ipType t : IpaIpType) :
    (row.bringUp ipType).isUp t = true ↔ row.isUp t = true ∨ (ipType = t ∧ t ≠ .max) := by
  cases ipType <;> cases t <;> simp [bringUp, isUp]

end NatIface

/-- `IPACM_Config`, as far as it is about these interfaces. -/
structure NatTable where
  pNatIfaces : List NatIface
  ipaNumIpaInterfaces : Nat
  ipaNatIfaceEntries : Nat

namespace NatTable

/-- `Init`, for so many interfaces: the array comes from `calloc`. -/
def init (ipaNumIpaInterfaces : Nat) : NatTable where
  pNatIfaces := List.replicate ipaNumIpaInterfaces .blank
  ipaNumIpaInterfaces := ipaNumIpaInterfaces
  ipaNatIfaceEntries := 0

/-- The loop that all calls start with: the place of the first row of that name, among
so many from the one given. -/
def search (rows : List NatIface) (devName : String) : Nat → Nat → Option (Option Nat)
  | _, 0 => some none
  | i, k + 1 =>
    rows[i]?.bind fun row =>
      if row.ifaceName = devName then some (some i) else search rows devName (i + 1) k

def find (s : NatTable) (devName : String) : Option (Option Nat) :=
  search s.pNatIfaces devName 0 s.ipaNatIfaceEntries

/-- `AddNatIfaces`. The number of rows in use is counted up before it is compared. -/
def addNatIfaces (devName : String) (ipType : IpaIpType) (s : NatTable) :
    Option NatTable :=
  (s.find devName).map fun
    | some i => { s with pNatIfaces := s.pNatIfaces.modify i (·.bringUp ipType) }
    | none =>
      let entries := s.ipaNatIfaceEntries + 1
      { s with
        ipaNatIfaceEntries := entries
        pNatIfaces :=
          if entries < s.ipaNumIpaInterfaces then
            s.pNatIfaces.modify (entries - 1) fun row =>
              { row with ifaceName := devName }.bringUp ipType
          else s.pNatIfaces }

/-- `DelNatIfaces`. The row is cleared, and with the rows behind it the gap is moved to
the end. -/
def delNatIfaces (devName : String) (s : NatTable) : Option NatTable :=
  (s.find devName).bind fun
    | some i =>
      if s.ipaNatIfaceEntries ≤ s.pNatIfaces.length then
        some { s with
          pNatIfaces := closeGap (fun _ next => (next, .blank)) i s.ipaNatIfaceEntries
            (s.pNatIfaces.set i .blank)
          ipaNatIfaceEntries := s.ipaNatIfaceEntries - 1 }
      else none
    | none => some s

/-- `CheckNatIfaces`. -/
def checkNatIfaces (devName : String) (ipType : IpaIpType) (s : NatTable) : Option Int :=
  (s.find devName).bind fun
    | some i => s.pNatIfaces[i]?.map fun row => if row.isUp ipType then 0 else -1
    | none => some (-1)

/-- The names in so many rows from the one given. -/
def copyNames (rows : List NatIface) : Nat → Nat → Option (List String)
  | _, 0 => some []
  | i, k + 1 =>
    rows[i]?.bind fun row => (copyNames rows (i + 1) k).map (row.ifaceName :: ·)

/-- `GetNatIfaces`, and whether it returns 0. -/
def getNatIfaces (nIfaces : Int) (s : NatTable) : Option (Option (List String)) :=
  if nIfaces ≤ 0 then some none
  else (copyNames s.pNatIfaces 0 nIfaces.toNat).map some

end NatTable

/-- The calls that change something. -/
inductive NatIfaceOp
  | add (devName : String) (ipType : IpaIpType)
  | del (devName : String)

namespace NatTable

def step (s : NatTable) : NatIfaceOp → Option NatTable
  | .add devName ipType => s.addNatIfaces devName ipType
  | .del devName => s.delNatIfaces devName

/-- A run, as long as no row is read that the array does not have. -/
def run (n : Nat) (ops : List NatIfaceOp) : Option NatTable :=
  ops.foldl (fun s op => s.bind (·.step op)) (some (init n))

theorem run_concat (n : Nat) (ops : List NatIfaceOp) (op : NatIfaceOp) :
    run n (ops ++ [op]) = (run n ops).bind (·.step op) :=
  List.foldl_concat ..

end NatTable

/-! ## What the table is for -/

/-- The interface was added for the type, and has not been deleted since. -/
def AddedSince (ops : List NatIfaceOp) (devName : String) (ipType : IpaIpType) : Prop :=
  ∃ pre post, ops = pre ++ .add devName ipType :: post ∧ NatIfaceOp.del devName ∉ post

/-- The table tells of every interface for which families it was added, and which
interfaces were. -/
structure Registers (s : NatTable) (ops : List NatIfaceOp) : Prop where
  bounded : s.ipaNatIfaceEntries ≤ s.ipaNumIpaInterfaces
  check : ∀ devName ipType, ∃ ret, s.checkNatIfaces devName ipType = some ret ∧
    (ret = 0 ↔ ipType ≠ .max ∧ AddedSince ops devName ipType)
  get : ∃ names, s.getNatIfaces s.ipaNatIfaceEntries = some names ∧
    (names.getD []).Nodup ∧
      ∀ devName, devName ∈ names.getD [] ↔ ∃ ipType, AddedSince ops devName ipType

/-- The interfaces that are registered, and for which families: each in the place where
it was added first. -/
def registry (rows : List NatIface) : NatIfaceOp → List NatIface
  | .add devName ipType =>
    if ∃ row ∈ rows, row.ifaceName = devName then
      rows.map fun row =>
        if row.ifaceName = devName then row.bringUp ipType else row
    else rows ++ [({ NatIface.blank with ifaceName := devName }).bringUp ipType]
  | .del devName => rows.eraseP (·.ifaceName = devName)

/-- There is a row for an interface that comes, before the last one, or it is what the
last row holds anyway: no name, and up for no family. -/
def HasRow (n : Nat) (rows : List NatIface) : NatIfaceOp → Prop
  | .add devName ipType =>
    (∃ row ∈ rows, row.ifaceName = devName) ∨ rows.length + 1 < n ∨
      rows.length + 1 = n ∧ ({ NatIface.blank with ifaceName := devName }).bringUp ipType =
        NatIface.blank
  | .del _ => True

/-! ## The history -/

variable {ops : List NatIfaceOp} {rows : List NatIface} {devName : String}
  {ipType : IpaIpType}

theorem addedSince_iff : AddedSince ops devName ipType ↔
    Since (· = .add devName ipType) (· = .del devName) ops := by
  constructor
  · intro ⟨pre, post, hops, hpost⟩
    exact ⟨pre, _, post, hops, rfl, fun op hop hdel => hpost (hdel ▸ hop)⟩
  · intro ⟨pre, op, post, hops, hadd, hpost⟩
    exact ⟨pre, post, hadd ▸ hops, fun hmem => hpost _ hmem rfl⟩

theorem not_addedSince_nil : ¬ AddedSince [] devName ipType := by
  rw [addedSince_iff]
  exact not_since_nil

theorem addedSince_concat (op : NatIfaceOp) :
    AddedSince (ops ++ [op]) devName ipType ↔
      op = .add devName ipType ∨ AddedSince ops devName ipType ∧ op ≠ .del devName := by
  rw [addedSince_iff, since_concat, addedSince_iff]

/-- The rows are what the history says: one for each interface that is registered, up
for the families it was added for. -/
structure Recorded (rows : List NatIface) (ops : List NatIfaceOp) : Prop where
  nodup : (rows.map (·.ifaceName)).Nodup
  named : ∀ devName, devName ∈ rows.map (·.ifaceName) ↔
    ∃ ipType, AddedSince ops devName ipType
  up : ∀ row ∈ rows, ∀ ipType, row.isUp ipType = true ↔
    ipType ≠ .max ∧ AddedSince ops row.ifaceName ipType

theorem addedSince_concat_of_ne {op : NatIfaceOp} (hadd : ∀ t, op ≠ .add devName t)
    (hdel : op ≠ .del devName) :
    AddedSince (ops ++ [op]) devName ipType ↔ AddedSince ops devName ipType := by
  rw [addedSince_concat, or_iff_right (hadd ipType), and_iff_left hdel]

theorem Recorded.registry (h : Recorded rows ops) (op : NatIfaceOp) :
    Recorded (registry rows op) (ops ++ [op]) := by
  cases op with
  | add m u =>
    have hname : ∀ row : NatIface,
        (if row.ifaceName = m then row.bringUp u else row).ifaceName = row.ifaceName := by
      intro row
      split
      · exact row.bringUp_ifaceName u
      · rfl
    have hnamed : ∀ n, (∃ t, AddedSince (ops ++ [.add m u]) n t) ↔
        m = n ∨ ∃ t, AddedSince ops n t := by
      intro n
      simp [addedSince_concat, exists_or]
    rw [Config.registry]
    split
    · rename_i hin
      have hnames : (rows.map fun row =>
          if row.ifaceName = m then row.bringUp u else row).map (·.ifaceName) =
            rows.map (·.ifaceName) := by
        rw [List.map_map]
        exact List.map_congr_left fun row _ => hname row
      refine ⟨hnames ▸ h.nodup, fun n => ?_, ?_⟩
      · rw [hnames, h.named, hnamed, or_iff_right_of_imp]
        rintro rfl
        exact (h.named m).mp (List.mem_map.mpr hin)
      · intro row' hrow' t
        obtain ⟨row, hrow, rfl⟩ := List.mem_map.mp hrow'
        rw [hname, addedSince_concat]
        split
        · rename_i hm
          rw [row.bringUp_isUp, h.up row hrow]
          simp only [NatIfaceOp.add.injEq, hm, true_and, ne_eq, reduceCtorEq, not_false_eq_true,
            and_true]
          tauto
        · rename_i hm
          rw [h.up row hrow]
          simp [Ne.symm hm]
    · rename_i hout
      have hnew : ∀ t, ¬ AddedSince ops m t := fun t hadded =>
        hout (List.mem_map.mp ((h.named m).mpr ⟨t, hadded⟩))
      have hnames : (rows ++ [({ NatIface.blank with ifaceName := m }).bringUp u]).map
          NatIface.ifaceName = rows.map (·.ifaceName) ++ [m] := by
        rw [List.map_append, List.map_singleton, NatIface.bringUp_ifaceName]
      refine ⟨?_, fun n => ?_, ?_⟩
      · rw [hnames, List.nodup_append]
        refine ⟨h.nodup, List.nodup_singleton m, ?_⟩
        rintro n hn _ hm rfl
        exact hout (List.mem_map.mp (List.mem_singleton.mp hm ▸ hn))
      · rw [hnames, hnamed, List.mem_append, h.named, List.mem_singleton, eq_comm, or_comm]
      · intro row hrow t
        obtain hrow | hrow := List.mem_append.mp hrow
        · have hne : m ≠ row.ifaceName := fun heq => hout ⟨row, hrow, heq.symm⟩
          rw [h.up row hrow, addedSince_concat_of_ne (by simp [hne]) (by simp)]
        · rw [List.mem_singleton.mp hrow, NatIface.bringUp_ifaceName, NatIface.bringUp_isUp,
            addedSince_concat]
          have hblank : ({ NatIface.blank with ifaceName := m }).isUp t = false := by
            cases t <;> rfl
          simp [hblank, hnew t, and_comm]
  | del m =>
    have hrest : ∀ n, (∃ t, AddedSince (ops ++ [.del m]) n t) ↔
        (∃ t, AddedSince ops n t) ∧ m ≠ n := by
      intro n
      simp [addedSince_concat]
    have herase : (rows.eraseP fun row => row.ifaceName = m).map (·.ifaceName) =
        (rows.map (·.ifaceName)).erase m := by
      rw [List.erase_eq_eraseP', List.eraseP_map]
      rfl
    refine ⟨?_, fun n => ?_, fun row hrow t => ?_⟩
    · rw [Config.registry, herase]
      exact h.nodup.erase m
    · rw [Config.registry, herase, h.nodup.mem_erase_iff, h.named, hrest, and_comm, ne_comm]
    · have hne : m ≠ row.ifaceName := by
        rintro rfl
        have hmem : row.ifaceName ∈ (rows.map (·.ifaceName)).erase row.ifaceName := by
          rw [← herase]
          exact List.mem_map_of_mem hrow
        exact (h.nodup.mem_erase_iff.mp hmem).1 rfl
      rw [h.up row (List.mem_of_mem_eraseP hrow),
        addedSince_concat_of_ne (by simp) (by simp [hne])]

theorem registry_recorded (ops : List NatIfaceOp) : Recorded (ops.foldl registry []) ops := by
  induction ops using List.reverseRecOn with
  | nil =>
    refine ⟨List.nodup_nil, fun n => ?_, fun row hrow => absurd hrow List.not_mem_nil⟩
    exact iff_of_false List.not_mem_nil fun ⟨t, h⟩ => not_addedSince_nil h
  | append_singleton ops op ih =>
    rw [List.foldl_concat]
    exact ih.registry op

/-! ## The array -/

namespace NatTable

theorem search_window (before rows after : List NatIface) (devName : String) :
    search (before ++ rows ++ after) devName before.length rows.length =
      some ((rows.findIdx? (·.ifaceName = devName)).map (· + before.length)) := by
  induction rows generalizing before with
  | nil => rfl
  | cons row rows ih =>
    have hrow : (before ++ row :: rows ++ after)[before.length]? = some row := by simp
    have hnext := ih (before ++ [row])
    rw [List.append_assoc before, List.singleton_append, List.length_append,
      List.length_singleton] at hnext
    rw [List.length_cons, search, hrow, Option.bind_some, List.findIdx?_cons, hnext]
    by_cases hname : row.ifaceName = devName
    · simp [hname]
    · simp only [hname, if_false, decide_false, Bool.false_eq_true, Option.map_map]
      congr 2
      funext i
      simp only [Function.comp_apply]
      omega

theorem copyNames_window (before rows after : List NatIface) :
    copyNames (before ++ rows ++ after) before.length rows.length =
      some (rows.map (·.ifaceName)) := by
  induction rows generalizing before with
  | nil => rfl
  | cons row rows ih =>
    have hrow : (before ++ row :: rows ++ after)[before.length]? = some row := by simp
    have hnext := ih (before ++ [row])
    rw [List.append_assoc before, List.singleton_append, List.length_append,
      List.length_singleton] at hnext
    rw [List.length_cons, copyNames, hrow, Option.bind_some, hnext]
    rfl

/-- The array has these rows, and the rest of it is blank. -/
structure Holds (s : NatTable) (n : Nat) (rows : List NatIface) : Prop where
  size : s.ipaNumIpaInterfaces = n
  entries : s.ipaNatIfaceEntries = rows.length
  fits : rows.length ≤ n
  table : s.pNatIfaces = rows ++ List.replicate (n - rows.length) .blank

variable {s : NatTable} {n : Nat}

theorem init_holds : (init n).Holds n [] :=
  ⟨rfl, rfl, Nat.zero_le n, rfl⟩

theorem Holds.find (h : s.Holds n rows) (devName : String) :
    s.find devName = some (rows.findIdx? (·.ifaceName = devName)) := by
  have hwindow := search_window [] rows (List.replicate (n - rows.length) .blank) devName
  rw [NatTable.find, h.table, h.entries]
  simpa using hwindow

theorem Holds.find_none (h : s.Holds n rows) (hout : devName ∉ rows.map (·.ifaceName)) :
    s.find devName = some none := by
  rw [h.find, List.findIdx?_eq_none_iff.mpr]
  exact fun row hrow => decide_eq_false fun hname => hout (hname ▸ List.mem_map_of_mem hrow)

theorem Holds.find_some (h : s.Holds n rows) (hin : devName ∈ rows.map (·.ifaceName)) :
    ∃ pre row post, rows = pre ++ row :: post ∧ row.ifaceName = devName ∧
      (∀ q ∈ pre, q.ifaceName ≠ devName) ∧ s.find devName = some (some pre.length) := by
  obtain ⟨z, hz, hname⟩ := List.mem_map.mp hin
  obtain ⟨pre, row, post, rfl, hrow, hpre⟩ :=
    exists_first (p := fun row : NatIface => decide (row.ifaceName = devName))
      ⟨z, hz, decide_eq_true hname⟩
  exact ⟨pre, row, post, rfl, of_decide_eq_true hrow,
    fun q hq => of_decide_eq_false (hpre q hq), by rw [h.find, findIdx?_first hpre hrow]⟩

theorem Holds.check (h : s.Holds n rows) (hrec : Recorded rows ops) (devName : String)
    (ipType : IpaIpType) : ∃ ret, s.checkNatIfaces devName ipType = some ret ∧
      (ret = 0 ↔ ipType ≠ .max ∧ AddedSince ops devName ipType) := by
  rw [checkNatIfaces]
  by_cases hin : devName ∈ rows.map (·.ifaceName)
  · obtain ⟨pre, row, post, hrows, rfl, -, hfind⟩ := h.find_some hin
    have hget : s.pNatIfaces[pre.length]? = some row := by
      rw [h.table, hrows]
      simp
    refine ⟨if row.isUp ipType then 0 else -1, by simp [hfind, hget], ?_⟩
    rw [← hrec.up row (hrows ▸ by simp)]
    split <;> simp_all
  · refine ⟨-1, by simp [h.find_none hin], iff_of_false (by decide) fun hadded => ?_⟩
    exact hin ((hrec.named devName).mpr ⟨ipType, hadded.2⟩)

theorem Holds.get (h : s.Holds n rows) : ∃ names,
    s.getNatIfaces s.ipaNatIfaceEntries = some names ∧
      names.getD [] = rows.map (·.ifaceName) := by
  rw [getNatIfaces, h.entries]
  split
  · rename_i hnone
    have hrows : rows = [] := List.length_eq_zero_iff.mp (by omega)
    exact ⟨none, rfl, hrows ▸ rfl⟩
  · have hwindow := copyNames_window [] rows (List.replicate (n - rows.length) .blank)
    refine ⟨some (rows.map (·.ifaceName)), ?_, rfl⟩
    rw [h.table, Int.toNat_natCast]
    simpa using hwindow

theorem Holds.registers (h : s.Holds n rows) (hrec : Recorded rows ops) :
    Registers s ops := by
  refine ⟨h.size ▸ h.entries ▸ h.fits, h.check hrec, ?_⟩
  obtain ⟨names, hget, hnames⟩ := h.get
  exact ⟨names, hget, hnames ▸ hrec.nodup, hnames ▸ hrec.named⟩

/-! ## One call -/

theorem modify_first {α : Type*} (pre : List α) (x : α) (post : List α) (f : α → α) :
    (pre ++ x :: post).modify pre.length f = pre ++ f x :: post := by
  induction pre with
  | nil => rfl
  | cons y pre ih => exact congrArg (y :: ·) ih

theorem Holds.addNatIfaces_in (h : s.Holds n rows)
    (hnodup : (rows.map (·.ifaceName)).Nodup) (hin : devName ∈ rows.map (·.ifaceName)) :
    ∃ s', s.addNatIfaces devName ipType = some s' ∧
      s'.Holds n (registry rows (.add devName ipType)) := by
  obtain ⟨pre, row, post, rfl, rfl, hpre, hfind⟩ := h.find_some hin
  have hpost : ∀ q ∈ post, q.ifaceName ≠ row.ifaceName := by
    intro q hq heq
    rw [List.map_append, List.map_cons, List.nodup_append, List.nodup_cons] at hnodup
    exact hnodup.2.1.1 (heq ▸ List.mem_map_of_mem hq)
  have hothers : ∀ l : List NatIface, (∀ q ∈ l, q.ifaceName ≠ row.ifaceName) →
      l.map (fun q => if q.ifaceName = row.ifaceName then q.bringUp ipType else q) = l := by
    intro l hl
    rw [List.map_congr_left fun q hq => if_neg (hl q hq), List.map_id']
  have hreg : registry (pre ++ row :: post) (.add row.ifaceName ipType) =
      pre ++ row.bringUp ipType :: post := by
    rw [registry, if_pos ⟨row, by simp, rfl⟩, List.map_append, List.map_cons, if_pos rfl,
      hothers pre hpre, hothers post hpost]
  refine ⟨_, by rw [addNatIfaces, hfind]; rfl, ?_⟩
  rw [hreg]
  have hlen : (pre ++ row.bringUp ipType :: post).length = (pre ++ row :: post).length := by
    simp
  refine ⟨h.size, h.entries.trans hlen.symm, hlen ▸ h.fits, ?_⟩
  rw [hlen]
  show s.pNatIfaces.modify _ _ = _
  rw [h.table, List.append_assoc, List.cons_append, modify_first, List.append_assoc,
    List.cons_append]

theorem Holds.addNatIfaces_out (h : s.Holds n rows)
    (hout : devName ∉ rows.map (·.ifaceName)) (ipType : IpaIpType) : ∃ s',
      s.addNatIfaces devName ipType = some s' ∧ s'.ipaNumIpaInterfaces = n ∧
        s'.ipaNatIfaceEntries = rows.length + 1 ∧
        (rows.length + 1 < n → s'.Holds n (registry rows (.add devName ipType))) ∧
        (rows.length + 1 = n → s'.Holds n (rows ++ [.blank])) := by
  have hreg : registry rows (.add devName ipType) =
      rows ++ [({ NatIface.blank with ifaceName := devName }).bringUp ipType] := by
    rw [registry, if_neg fun hin => hout (List.mem_map.mpr hin)]
  refine ⟨_, by rw [addNatIfaces, h.find_none hout]; rfl, ?_⟩
  refine ⟨h.size, congrArg (· + 1) h.entries, fun hroom => ?_, fun hlast => ?_⟩
  · rw [hreg]
    refine ⟨h.size, ?_, ?_, ?_⟩
    · show s.ipaNatIfaceEntries + 1 = _
      rw [h.entries, List.length_append, List.length_singleton]
    · rw [List.length_append, List.length_singleton]
      exact hroom.le
    · obtain ⟨k, hk⟩ : ∃ k, n - rows.length = k + 1 := ⟨n - rows.length - 1, by omega⟩
      show (if s.ipaNatIfaceEntries + 1 < s.ipaNumIpaInterfaces then _ else _) = _
      rw [h.entries, h.size, if_pos hroom, h.table, hk, List.replicate_succ,
        Nat.add_sub_cancel, modify_first, List.append_assoc, List.length_append,
        List.length_singleton, Nat.sub_add_eq, hk, Nat.add_sub_cancel]
      rfl
  · refine ⟨h.size, ?_, ?_, ?_⟩
    · show s.ipaNatIfaceEntries + 1 = _
      rw [h.entries, List.length_append, List.length_singleton]
    · rw [List.length_append, List.length_singleton]
      exact hlast.le
    · show (if s.ipaNatIfaceEntries + 1 < s.ipaNumIpaInterfaces then _ else _) = _
      have hone : n - rows.length = 1 := by omega
      have hnone : n - (rows ++ [NatIface.blank]).length = 0 := by
        rw [List.length_append, List.length_singleton]
        omega
      rw [h.entries, h.size, if_neg (by omega), h.table, hone, hnone]
      simp

theorem Holds.delNatIfaces (h : s.Holds n rows) (devName : String) :
    ∃ s', s.delNatIfaces devName = some s' ∧ s'.Holds n (registry rows (.del devName)) := by
  by_cases hin : devName ∈ rows.map (·.ifaceName)
  · obtain ⟨pre, row, post, rfl, rfl, hpre, hfind⟩ := h.find_some hin
    have hlen : s.pNatIfaces.length = n := by
      have hfits := h.fits
      rw [h.table, List.length_append, List.length_replicate]
      omega
    have hreg : registry (pre ++ row :: post) (.del row.ifaceName) = pre ++ post :=
      eraseP_first (fun q hq => decide_eq_false (hpre q hq)) (decide_eq_true rfl)
    have hfits : s.ipaNatIfaceEntries ≤ s.pNatIfaces.length := by
      rw [h.entries, hlen]
      exact h.fits
    have hcount : (pre ++ row :: post).length = (pre ++ post).length + 1 := by
      simp
      omega
    have hplace : pre.length < s.ipaNatIfaceEntries := by
      rw [h.entries, List.length_append, List.length_cons]
      omega
    refine ⟨_, by rw [NatTable.delNatIfaces, hfind]; exact if_pos hfits, ?_⟩
    rw [hreg]
    refine ⟨h.size, ?_, ?_, ?_⟩
    · show s.ipaNatIfaceEntries - 1 = _
      rw [h.entries, hcount, Nat.add_sub_cancel]
    · have hle := h.fits
      omega
    · show closeGap _ _ _ _ = _
      have hle := h.fits
      have hgap : n - (pre ++ post).length = n - (pre ++ row :: post).length + 1 := by
        omega
      rw [closeGap_blank hplace hfits, h.table, h.entries, List.take_left, List.drop_left,
        List.eraseIdx_append_of_length_le (Nat.le_refl _), Nat.sub_self,
        List.eraseIdx_cons_zero, hgap, List.replicate_succ]
  · refine ⟨s, by rw [NatTable.delNatIfaces, h.find_none hin, Option.bind_some], ?_⟩
    rw [registry, List.eraseP_of_forall_not]
    · exact h
    · exact fun row hrow hname =>
        hin (of_decide_eq_true hname ▸ List.mem_map_of_mem hrow)

theorem Holds.step (h : s.Holds n rows) (hnodup : (rows.map (·.ifaceName)).Nodup)
    {op : NatIfaceOp} (hrow : HasRow n rows op) :
    ∃ s', s.step op = some s' ∧ s'.Holds n (registry rows op) := by
  cases op with
  | add devName ipType =>
    by_cases hin : devName ∈ rows.map (·.ifaceName)
    · exact h.addNatIfaces_in hnodup hin
    · obtain ⟨s', hs', -, -, hroom, hlast⟩ := h.addNatIfaces_out hin ipType
      refine ⟨s', hs', ?_⟩
      obtain hin' | hlt | ⟨heq, hblank⟩ := hrow
      · exact absurd (List.mem_map.mpr hin') hin
      · exact hroom hlt
      · have hheld := hlast heq
        rw [← hblank] at hheld
        rwa [registry, if_neg fun hin' => hin (List.mem_map.mpr hin')]
  | del devName => exact h.delNatIfaces devName

theorem Holds.hasRow (h : s.Holds n rows) {op : NatIfaceOp} {s' : NatTable}
    (hs' : s.step op = some s') (hright : Registers s' (ops ++ [op])) :
    HasRow n rows op := by
  cases op with
  | del devName => trivial
  | add devName ipType =>
    by_cases hin : devName ∈ rows.map (·.ifaceName)
    · exact .inl (List.mem_map.mp hin)
    obtain ⟨t, ht, hsize, hentries, -, hlast⟩ := h.addNatIfaces_out hin ipType
    obtain rfl : s' = t := Option.some.inj (hs'.symm.trans ht)
    have hadded : AddedSince (ops ++ [.add devName ipType]) devName ipType :=
      (addedSince_concat _).mpr (.inl rfl)
    have hbound := hright.bounded
    rw [hentries, hsize] at hbound
    obtain hlt | heq := hbound.lt_or_eq
    · exact .inr (.inl hlt)
    · have hheld := hlast heq
      -- the names that are read are those of the rows and of the blank one
      obtain ⟨names, hget, -, hnamed⟩ := hright.get
      obtain ⟨names', hget', hread⟩ := hheld.get
      obtain rfl : names = names' := Option.some.inj (hget.symm.trans hget')
      have hmem := (hnamed devName).mpr ⟨ipType, hadded⟩
      rw [hread] at hmem
      obtain ⟨pre, row, post, hrows, hname, -, hfind⟩ := hheld.find_some hmem
      have hrow : row = .blank := by
        have hmem : row ∈ rows ++ [.blank] := hrows ▸ by simp
        obtain hmem | hmem := List.mem_append.mp hmem
        · exact absurd (hname ▸ List.mem_map_of_mem hmem) hin
        · exact List.mem_singleton.mp hmem
      obtain ⟨ret, hret, hzero⟩ := hright.check devName ipType
      have hcheck : s'.checkNatIfaces devName ipType = some (-1) := by
        have hat : s'.pNatIfaces[pre.length]? = some row := by
          rw [hheld.table, hrows]
          simp
        have hdown : NatIface.blank.isUp ipType = false := by cases ipType <;> rfl
        simp [checkNatIfaces, hfind, hat, hrow, hdown]
      obtain rfl : ret = -1 := Option.some.inj (hret.symm.trans hcheck)
      have hmax : ipType = .max := by
        by_contra hne
        exact absurd (hzero.mpr ⟨hne, hadded⟩) (by decide)
      subst hrow hmax hname
      exact .inr (.inr ⟨heq, rfl⟩)

/-! ## Runs -/

/-- All along a run the table tells what is registered, and no row is read that is not
there, just if every interface that comes has its row. -/
theorem run_registers_iff (n : Nat) (ops : List NatIfaceOp) :
    (∀ pre, pre <+: ops → ∃ s, run n pre = some s ∧ Registers s pre) ↔
      ∀ pre op, pre ++ [op] <+: ops → HasRow n (pre.foldl registry []) op := by
  refine forall_prefix_iff_of_invariant
    (I := fun pre => ∃ s, run n pre = some s ∧ s.Holds n (pre.foldl registry []))
    ⟨init n, rfl, init_holds⟩ ?_ ?_ ?_
  · rintro pre ⟨s, hs, h⟩
    exact ⟨s, hs, h.registers (registry_recorded pre)⟩
  · rintro pre op - ⟨s, hs, h⟩ hrow
    rw [run_concat, hs, List.foldl_concat]
    exact h.step (registry_recorded pre).nodup hrow
  · rintro pre op - ⟨s, hs, h⟩ ⟨s', hs', hright⟩
    rw [run_concat, hs] at hs'
    exact h.hasRow hs' hright

/-- With two rows a second interface is counted and not there. -/
theorem second_not_registered : ¬ ∃ s,
    run 2 [.add "wlan0" .v4, .add "rndis0" .v4] = some s ∧
      Registers s [.add "wlan0" .v4, .add "rndis0" .v4] := by
  rintro ⟨s, hs, hright⟩
  obtain ⟨ret, hret, hzero⟩ := hright.check "rndis0" .v4
  have hzero := hzero.mpr ⟨by decide, [.add "wlan0" .v4], [], rfl, List.not_mem_nil⟩
  have hcheck : (run 2 [.add "wlan0" .v4, .add "rndis0" .v4]).bind
      (checkNatIfaces "rndis0" .v4) = some (-1) := by decide
  rw [hs, Option.bind_some, hret, hzero] at hcheck
  exact absurd hcheck (by decide)

end NatTable

end Axon7.Config
