import Axon7.Lib.Pool
import Axon7.Lib.Run

/-!
# Resource manager dependencies

`IPACM_Config` has the resource manager of the kernel keep endpoints powered
together. Its table pairs a producer with a consumer, both ways: once both are
up, a row makes the producer depend on the consumer and the other producer on
the other consumer. A WLAN producer without Rx properties bypasses the first of
the two.

The kernel grants every request.
-/

namespace Axon7.RmDepend

open Axon7.Lib

/-- `ipa_rm_resource_name`, as far as the table names it. -/
inductive RmResource
  | q6Prod
  | usbProd
  | wlanProd
  | oduAdaptProd
  | q6Cons
  | usbCons
  | wlanCons
  | oduAdaptCons
  | other (name : Nat)
deriving DecidableEq

/-- `ipa_ioc_rm_dependency`: the resource and the one it depends on. -/
abbrev Dependency := RmResource × RmResource

/-- `ipa_rm_client`: a row of the table. -/
structure RmClient where
  producerRm1 : RmResource
  consumerRm1 : RmResource
  producerRm2 : RmResource
  consumerRm2 : RmResource
  producer1Up : Bool
  consumer1Up : Bool
  rmSet : Bool
  rxBypassIpa : Bool
deriving DecidableEq

namespace RmClient

def dep1 (row : RmClient) : Dependency := (row.producerRm1, row.consumerRm1)

def dep2 (row : RmClient) : Dependency := (row.producerRm2, row.consumerRm2)

/-- The two dependencies of a row added, or only the second. -/
def addBiDirection (row : RmClient) (deps : Finset Dependency) :
    Finset Dependency :=
  insert row.dep2 (if row.rxBypassIpa then deps else insert row.dep1 deps)

/-- The two dependencies of a row deleted, or only the second. -/
def delBiDirection (row : RmClient) (deps : Finset Dependency) :
    Finset Dependency :=
  (if row.rxBypassIpa then deps else deps.erase row.dep1).erase row.dep2

/-- What `AddRmDepend` does for the resource in a row: as the producer, then as
the consumer. -/
def add (rm1 : RmResource) (rxBypassIpa : Bool) (row : RmClient)
    (deps : Finset Dependency) : RmClient × Finset Dependency :=
  let (row, deps) :=
    if rm1 = row.producerRm1 then
      let row := { row with producer1Up := true, rxBypassIpa := rxBypassIpa }
      if row.consumer1Up = true ∧ row.rmSet = false then
        ({ row with rmSet := true }, row.addBiDirection deps)
      else (row, deps)
    else (row, deps)
  if rm1 = row.consumerRm1 then
    let row := { row with consumer1Up := true }
    if row.producer1Up = true ∧ row.rmSet = false then
      ({ row with rmSet := true }, row.addBiDirection deps)
    else (row, deps)
  else (row, deps)

/-- What `DelRmDepend` does for the resource in a row. A row of the Q6 consumer
stays while the counter of its default routes, already lowered, is 1. -/
def del (rm1 : RmResource) (ipaRmA2Check : Int) (row : RmClient)
    (deps : Finset Dependency) : RmClient × Finset Dependency :=
  let (row, deps) :=
    if rm1 = row.producerRm1 then
      let (row, deps) :=
        if row.rmSet = true then
          ({ row with rmSet := false }, row.delBiDirection deps)
        else (row, deps)
      ({ row with producer1Up := false, rxBypassIpa := false }, deps)
    else (row, deps)
  if rm1 = row.consumerRm1 then
    if row.consumerRm1 = .q6Cons ∧ ipaRmA2Check = 1 then (row, deps)
    else
      let (row, deps) :=
        if row.rmSet = true then
          ({ row with rmSet := false }, row.delBiDirection deps)
        else (row, deps)
      ({ row with consumer1Up := false }, deps)
  else (row, deps)

end RmClient

/-- `IPACM_Config`, with the dependencies the kernel has been given. -/
structure Config where
  ipaRmTbl : List RmClient
  ipaRmA2Check : Int
  deps : Finset Dependency

/-- A row that `Init` makes: nothing is up. -/
def newRow (producerRm1 consumerRm1 producerRm2 consumerRm2 : RmResource) :
    RmClient where
  producerRm1 := producerRm1
  consumerRm1 := consumerRm1
  producerRm2 := producerRm2
  consumerRm2 := consumerRm2
  producer1Up := false
  consumer1Up := false
  rmSet := false
  rxBypassIpa := false

/-- The table of `Init`. -/
def initTbl : List RmClient :=
  [newRow .wlanProd .q6Cons .q6Prod .wlanCons,
    newRow .usbProd .q6Cons .q6Prod .usbCons,
    newRow .wlanProd .usbCons .usbProd .wlanCons,
    newRow .oduAdaptProd .q6Cons .q6Prod .oduAdaptCons,
    newRow .wlanProd .oduAdaptCons .oduAdaptProd .wlanCons,
    newRow .oduAdaptProd .usbCons .usbProd .oduAdaptCons]

namespace Config

/-- After `Init`. -/
def init : Config := ⟨initTbl, 0, ∅⟩

/-- `AddRmDepend`. -/
def addRmDepend (c : Config) (rm1 : RmResource) (rxBypassIpa : Bool) :
    Config :=
  let check := if rm1 = .q6Cons then c.ipaRmA2Check + 1 else c.ipaRmA2Check
  let (tbl, deps) := mapThread (RmClient.add rm1 rxBypassIpa) c.ipaRmTbl c.deps
  ⟨tbl, check, deps⟩

/-- `DelRmDepend`. -/
def delRmDepend (c : Config) (rm1 : RmResource) : Config :=
  let check := if rm1 = .q6Cons then c.ipaRmA2Check - 1 else c.ipaRmA2Check
  let (tbl, deps) := mapThread (RmClient.del rm1 check) c.ipaRmTbl c.deps
  ⟨tbl, check, deps⟩

/-- The calls there are. -/
inductive Call
  | add (rm1 : RmResource) (rxBypassIpa : Bool)
  | del (rm1 : RmResource)
deriving DecidableEq

def step (c : Config) : Call → Config
  | .add rm1 rxBypassIpa => c.addRmDepend rm1 rxBypassIpa
  | .del rm1 => c.delRmDepend rm1

/-- The configuration after the calls. -/
def run (calls : List Call) : Config := calls.foldl step init

end Config

end Axon7.RmDepend

/-!
# What the kernel has been given

A row is set just while its producer and its consumer are up, and then needs
its dependencies. The kernel has what the rows need as long as no row that is
set is told another bypass: the flag is taken over at once, but the dependency
it is about is neither added nor deleted then, and the deletion of the row goes
by the new flag.
-/

namespace Axon7.RmDepend

open Axon7.Lib

namespace RmClient

/-- The dependencies the row needs. -/
def Needs (row : RmClient) (d : Dependency) : Prop :=
  row.rmSet = true ∧ (d = row.dep2 ∨ d = row.dep1 ∧ row.rxBypassIpa = false)

/-- The names of a row. -/
def deps (row : RmClient) : List Dependency := [row.dep1, row.dep2]

theorem Needs.mem {row : RmClient} {d : Dependency} (h : row.Needs d) :
    d ∈ row.deps := by
  obtain ⟨-, rfl | ⟨rfl, -⟩⟩ := h <;> simp [deps]

/-- The row pairs two resources, and is set when both are up. -/
structure Paired (row : RmClient) : Prop where
  ne : row.producerRm1 ≠ row.consumerRm1
  set : row.rmSet = (row.producer1Up && row.consumer1Up)

instance (row : RmClient) : Decidable row.Paired :=
  decidable_of_iff (row.producerRm1 ≠ row.consumerRm1 ∧
      row.rmSet = (row.producer1Up && row.consumer1Up))
    ⟨fun h => ⟨h.1, h.2⟩, fun h => ⟨h.ne, h.set⟩⟩

/-! ## One row -/

/-- The row after `AddRmDepend`. -/
def added (rm1 : RmResource) (rxBypassIpa : Bool) (row : RmClient) : RmClient :=
  { row with
    producer1Up := row.producer1Up || rm1 = row.producerRm1
    consumer1Up := row.consumer1Up || rm1 = row.consumerRm1
    rmSet := (row.producer1Up || rm1 = row.producerRm1) &&
      (row.consumer1Up || rm1 = row.consumerRm1)
    rxBypassIpa := if rm1 = row.producerRm1 then rxBypassIpa
      else row.rxBypassIpa }

/-- The row is left alone by `DelRmDepend` of its consumer. -/
def stays (ipaRmA2Check : Int) (row : RmClient) : Bool :=
  row.consumerRm1 = .q6Cons ∧ ipaRmA2Check = 1

/-- The row after `DelRmDepend`. -/
def deleted (rm1 : RmResource) (ipaRmA2Check : Int) (row : RmClient) :
    RmClient :=
  let down := rm1 = row.consumerRm1 ∧ row.stays ipaRmA2Check = false
  { row with
    producer1Up := row.producer1Up && ¬rm1 = row.producerRm1
    consumer1Up := row.consumer1Up && ¬down
    rmSet := row.rmSet && ¬rm1 = row.producerRm1 && ¬down
    rxBypassIpa := if rm1 = row.producerRm1 then false else row.rxBypassIpa }

variable {row : RmClient} {rm1 : RmResource} {rxBypassIpa : Bool}
  {check : Int} {deps : Finset Dependency} {d : Dependency}

theorem mem_addBiDirection : d ∈ row.addBiDirection deps ↔
    d ∈ deps ∨ d = row.dep2 ∨ d = row.dep1 ∧ row.rxBypassIpa = false := by
  rw [addBiDirection]
  cases row.rxBypassIpa <;> simp <;> tauto

theorem mem_delBiDirection : d ∈ row.delBiDirection deps ↔
    d ∈ deps ∧ ¬(d = row.dep2 ∨ d = row.dep1 ∧ row.rxBypassIpa = false) := by
  rw [delBiDirection]
  cases row.rxBypassIpa <;> simp <;> tauto

theorem add_eq (h : row.Paired) : row.add rm1 rxBypassIpa deps =
    (row.added rm1 rxBypassIpa,
      if row.rmSet = false ∧ (row.added rm1 rxBypassIpa).rmSet = true then
        (row.added rm1 rxBypassIpa).addBiDirection deps
      else deps) := by
  obtain ⟨p, c, p', c', pUp, cUp, set, bypass⟩ := row
  obtain ⟨hne, hset⟩ := h
  dsimp only at hne hset
  subst hset
  unfold add added
  by_cases hp : rm1 = p
  · subst hp
    cases pUp <;> cases cUp <;> simp [hne, addBiDirection, dep1, dep2]
  · by_cases hc : rm1 = c
    · subst hc
      cases pUp <;> cases cUp <;> simp [hp, addBiDirection, dep1, dep2]
    · cases pUp <;> cases cUp <;> simp [hp, hc]

theorem del_eq (h : row.Paired) : row.del rm1 check deps =
    (row.deleted rm1 check,
      if row.rmSet = true ∧ (row.deleted rm1 check).rmSet = false then
        row.delBiDirection deps
      else deps) := by
  obtain ⟨p, c, p', c', pUp, cUp, set, bypass⟩ := row
  obtain ⟨hne, hset⟩ := h
  dsimp only at hne hset
  subst hset
  unfold del deleted stays
  by_cases hp : rm1 = p
  · subst hp
    cases pUp <;> cases cUp <;> simp [hne]
  · by_cases hc : rm1 = c
    · subst hc
      by_cases hq : rm1 = .q6Cons ∧ check = 1
      · obtain ⟨rfl, rfl⟩ := hq
        cases pUp <;> cases cUp <;> simp [hp]
      · cases pUp <;> cases cUp <;> simp [hp, hq]
    · cases pUp <;> cases cUp <;> simp [hp, hc]

theorem Paired.added (h : row.Paired) (rm1 : RmResource) (rxBypassIpa : Bool) :
    (row.added rm1 rxBypassIpa).Paired := ⟨h.ne, rfl⟩

theorem Paired.deleted (h : row.Paired) (rm1 : RmResource) (check : Int) :
    (row.deleted rm1 check).Paired where
  ne := h.ne
  set := by
    rw [RmClient.deleted, h.set]
    cases row.producer1Up <;> cases row.consumer1Up <;> simp

theorem mem_add (h : row.Paired) :
    d ∈ (row.add rm1 rxBypassIpa deps).2 ↔ d ∈ deps ∨
      row.rmSet = false ∧ (row.added rm1 rxBypassIpa).Needs d := by
  rw [add_eq h]
  dsimp only
  split
  · next hnew =>
      rw [mem_addBiDirection, Needs]
      simp [hnew]
  · next hnew =>
      have hno : ¬(row.rmSet = false ∧ (row.added rm1 rxBypassIpa).Needs d) :=
        fun hneeds => hnew ⟨hneeds.1, hneeds.2.1⟩
      simp [hno]

theorem mem_del (h : row.Paired) :
    d ∈ (row.del rm1 check deps).2 ↔ d ∈ deps ∧
      ¬((row.deleted rm1 check).rmSet = false ∧ row.Needs d) := by
  rw [del_eq h]
  dsimp only
  split
  · next hold =>
      rw [mem_delBiDirection, Needs]
      simp [hold]
  · next hold =>
      have hno : ¬((row.deleted rm1 check).rmSet = false ∧ row.Needs d) :=
        fun hneeds => hold ⟨hneeds.2.1, hneeds.1⟩
      simp [hno]

end RmClient

/-! ## The table -/

namespace Config

open RmClient

/-- The rows pair resources, and no dependency is named twice. -/
structure Tabled (c : Config) : Prop where
  paired : ∀ row ∈ c.ipaRmTbl, row.Paired
  distinct : (c.ipaRmTbl.flatMap RmClient.deps).Nodup

/-- The kernel has what the rows need. -/
def Agrees (c : Config) : Prop :=
  ∀ d, d ∈ c.deps ↔ ∃ row ∈ c.ipaRmTbl, row.Needs d

variable {c : Config} {rm1 : RmResource} {rxBypassIpa : Bool}
  {row row' : RmClient} {d : Dependency}

theorem Tabled.eq_of_mem (h : c.Tabled) (hrow : row ∈ c.ipaRmTbl)
    (hrow' : row' ∈ c.ipaRmTbl) (hd : d ∈ row.deps) (hd' : d ∈ row'.deps) :
    row = row' := by
  by_contra hne
  obtain ⟨-, hpair⟩ := List.nodup_flatMap.mp h.distinct
  have hsymm : Std.Symm (Function.onFun List.Disjoint RmClient.deps) :=
    ⟨fun _ _ hxy => List.Disjoint.symm hxy⟩
  exact hpair.forall hrow hrow' hne hd hd'

theorem Tabled.dep_ne (h : c.Tabled) (hrow : row ∈ c.ipaRmTbl) :
    row.dep1 ≠ row.dep2 := by
  obtain ⟨hnodup, -⟩ := List.nodup_flatMap.mp h.distinct
  have hrow := hnodup row hrow
  simpa [RmClient.deps] using hrow

/-! ### One call -/

theorem addRmDepend_tbl (h : c.Tabled) : (c.addRmDepend rm1 rxBypassIpa).ipaRmTbl =
    c.ipaRmTbl.map (added rm1 rxBypassIpa) := by
  have hmap : (mapThread (RmClient.add rm1 rxBypassIpa) c.ipaRmTbl c.deps).1.map
      id = c.ipaRmTbl.map (added rm1 rxBypassIpa) :=
    mapThread_map (fun row hrow deps => by rw [id, add_eq (h.paired row hrow)]) _
  rw [List.map_id] at hmap
  exact hmap

theorem delRmDepend_tbl (h : c.Tabled) : (c.delRmDepend rm1).ipaRmTbl =
    c.ipaRmTbl.map (deleted rm1 (c.delRmDepend rm1).ipaRmA2Check) := by
  have hmap : ∀ check, (mapThread (RmClient.del rm1 check) c.ipaRmTbl c.deps).1.map
      id = c.ipaRmTbl.map (deleted rm1 check) := fun check =>
    mapThread_map (fun row hrow deps => by rw [id, del_eq (h.paired row hrow)]) _
  have htbl := hmap (c.delRmDepend rm1).ipaRmA2Check
  rw [List.map_id] at htbl
  exact htbl

theorem mem_addRmDepend (h : c.Tabled) :
    d ∈ (c.addRmDepend rm1 rxBypassIpa).deps ↔ d ∈ c.deps ∨
      ∃ row ∈ c.ipaRmTbl, row.rmSet = false ∧
        (row.added rm1 rxBypassIpa).Needs d := by
  have hpass : ∀ (tbl : List RmClient) (deps : Finset Dependency),
      (∀ row ∈ tbl, row.Paired) →
      (d ∈ (mapThread (RmClient.add rm1 rxBypassIpa) tbl deps).2 ↔ d ∈ deps ∨
        ∃ row ∈ tbl, row.rmSet = false ∧
          (row.added rm1 rxBypassIpa).Needs d) := by
    intro tbl
    induction tbl with
    | nil => simp
    | cons row tbl ih =>
      intro deps hpaired
      obtain ⟨hrow, htbl⟩ := List.forall_mem_cons.mp hpaired
      rw [mapThread_cons, ih _ htbl, mem_add hrow, List.exists_mem_cons_iff,
        or_assoc]
  exact hpass _ _ h.paired

theorem mem_delRmDepend (h : c.Tabled) :
    d ∈ (c.delRmDepend rm1).deps ↔ d ∈ c.deps ∧
      ¬∃ row ∈ c.ipaRmTbl,
        (row.deleted rm1 (c.delRmDepend rm1).ipaRmA2Check).rmSet = false ∧
          row.Needs d := by
  have hpass : ∀ (check : Int) (tbl : List RmClient) (deps : Finset Dependency),
      (∀ row ∈ tbl, row.Paired) →
      (d ∈ (mapThread (RmClient.del rm1 check) tbl deps).2 ↔ d ∈ deps ∧
        ¬∃ row ∈ tbl, (row.deleted rm1 check).rmSet = false ∧
          row.Needs d) := by
    intro check tbl
    induction tbl with
    | nil => simp
    | cons row tbl ih =>
      intro deps hpaired
      obtain ⟨hrow, htbl⟩ := List.forall_mem_cons.mp hpaired
      rw [mapThread_cons, ih _ htbl, mem_del hrow, List.exists_mem_cons_iff,
        not_or, and_assoc]
  exact hpass _ _ _ h.paired

theorem Tabled.map (h : c.Tabled) {f : RmClient → RmClient} (check : Int)
    (deps : Finset Dependency) (hpaired : ∀ row, row.Paired → (f row).Paired)
    (hdeps : ∀ row, (f row).deps = row.deps) :
    Tabled ⟨c.ipaRmTbl.map f, check, deps⟩ where
  paired := by
    intro x hx
    obtain ⟨row, hrow, rfl⟩ := List.mem_map.mp hx
    exact hpaired row (h.paired row hrow)
  distinct := by
    rw [List.flatMap_map, funext hdeps]
    exact h.distinct

theorem Tabled.step (h : c.Tabled) (call : Call) : (c.step call).Tabled := by
  cases call with
  | add rm1 rxBypassIpa =>
    have hmap := h.map (c.addRmDepend rm1 rxBypassIpa).ipaRmA2Check
      (c.addRmDepend rm1 rxBypassIpa).deps
      (fun row hrow => hrow.added rm1 rxBypassIpa) fun _ => rfl
    rw [← addRmDepend_tbl h] at hmap
    exact hmap
  | del rm1 =>
    have hmap := h.map (c.delRmDepend rm1).ipaRmA2Check (c.delRmDepend rm1).deps
      (fun row hrow => hrow.deleted rm1 (c.delRmDepend rm1).ipaRmA2Check)
      fun _ => rfl
    rw [← delRmDepend_tbl h] at hmap
    exact hmap

theorem tabled_init : init.Tabled where
  paired := by decide
  distinct := by decide

/-! ### Agreement -/

/-- The call tells no row that is set another bypass. -/
def KeepsBypass (c : Config) : Call → Prop
  | .add rm1 rxBypassIpa => ∀ row ∈ c.ipaRmTbl, rm1 = row.producerRm1 →
      row.rmSet = true → row.rxBypassIpa = rxBypassIpa
  | .del _ => True

theorem added_needs (hpaired : row.Paired) (hset : row.rmSet = true) :
    (row.added rm1 rxBypassIpa).Needs d ↔ d = row.dep2 ∨ d = row.dep1 ∧
      (if rm1 = row.producerRm1 then rxBypassIpa else row.rxBypassIpa) =
        false := by
  have hup : (row.added rm1 rxBypassIpa).rmSet = true := by
    have hup := hpaired.set
    rw [hset, eq_comm, Bool.and_eq_true] at hup
    simp [added, hup]
  exact and_iff_right hup

theorem agrees_add_iff (h : c.Tabled) (hagrees : c.Agrees) :
    (c.addRmDepend rm1 rxBypassIpa).Agrees ↔
      c.KeepsBypass (.add rm1 rxBypassIpa) := by
  have hmem : ∀ d, (∃ row ∈ (c.addRmDepend rm1 rxBypassIpa).ipaRmTbl,
      row.Needs d) ↔
      ∃ row ∈ c.ipaRmTbl, (row.added rm1 rxBypassIpa).Needs d := by
    intro d
    rw [addRmDepend_tbl h]
    simp
  constructor
  · intro hagrees' row hrow hrm hset
    by_contra hne
    -- only this row could need its first dependency
    have honly : ∀ x ∈ c.ipaRmTbl, ∀ y : RmClient, y.deps = x.deps →
        y.Needs row.dep1 → x = row ∧ y.rxBypassIpa = false := by
      intro x hx y hdeps hneeds
      obtain rfl : x = row := h.eq_of_mem hx hrow (hdeps ▸ hneeds.mem)
        (by simp [RmClient.deps])
      obtain ⟨hdep1, hdep2⟩ : y.dep1 = x.dep1 ∧ y.dep2 = x.dep2 := by
        simpa [RmClient.deps] using hdeps
      obtain ⟨-, hdep | ⟨-, hbypass⟩⟩ := hneeds
      · exact absurd (hdep.trans hdep2) (h.dep_ne hx)
      · exact ⟨rfl, hbypass⟩
    have hd := hagrees' row.dep1
    rw [hmem, mem_addRmDepend h, hagrees] at hd
    cases hold : row.rxBypassIpa with
    | false =>
      -- it was needed, and is not under the new flag
      obtain ⟨x, hx, hneeds⟩ := hd.mp (.inl ⟨row, hrow, hset, .inr ⟨rfl, hold⟩⟩)
      obtain ⟨rfl, hbypass⟩ := honly x hx (added rm1 rxBypassIpa x) rfl hneeds
      rw [added, if_pos hrm] at hbypass
      exact hne (hold.trans hbypass.symm)
    | true =>
      have hflag : rxBypassIpa = false := by
        cases rxBypassIpa with
        | false => rfl
        | true => exact absurd hold hne
      have hneeds : (row.added rm1 rxBypassIpa).Needs row.dep1 := by
        rw [added_needs (h.paired row hrow) hset, if_pos hrm]
        exact .inr ⟨rfl, hflag⟩
      -- it is needed now, but nothing has given it
      obtain ⟨x, hx, hneeds⟩ | ⟨x, hx, hnew, hneeds⟩ :=
        hd.mpr ⟨row, hrow, hneeds⟩
      · obtain ⟨rfl, hbypass⟩ := honly x hx x rfl hneeds
        exact absurd (hold.symm.trans hbypass) nofun
      · obtain ⟨rfl, -⟩ := honly x hx (added rm1 rxBypassIpa x) rfl hneeds
        exact absurd (hset.symm.trans hnew) nofun
  · intro hkeeps d
    rw [hmem, mem_addRmDepend h, hagrees]
    constructor
    · rintro (⟨row, hrow, hneeds⟩ | ⟨row, hrow, -, hneeds⟩)
      · refine ⟨row, hrow, (added_needs (h.paired row hrow) hneeds.1).mpr ?_⟩
        obtain ⟨hset, hdep⟩ := hneeds
        split
        · next hrm => rwa [← hkeeps row hrow hrm hset]
        · exact hdep
      · exact ⟨row, hrow, hneeds⟩
    · rintro ⟨row, hrow, hneeds⟩
      cases hset : row.rmSet with
      | false => exact .inr ⟨row, hrow, hset, hneeds⟩
      | true =>
        refine .inl ⟨row, hrow, hset, ?_⟩
        rw [added_needs (h.paired row hrow) hset] at hneeds
        split at hneeds
        · next hrm => rwa [hkeeps row hrow hrm hset]
        · exact hneeds

theorem deleted_needs {check : Int} (hset : (row.deleted rm1 check).rmSet = true) :
    (row.deleted rm1 check).Needs d ↔ row.Needs d := by
  have hold : row.rmSet = true ∧ rm1 ≠ row.producerRm1 := by
    simp [deleted] at hset
    exact hset.1
  rw [Needs, Needs, and_iff_right hset, and_iff_right hold.1]
  simp [deleted, hold.2, dep1, dep2]

theorem agrees_del (h : c.Tabled) (hagrees : c.Agrees) (rm1 : RmResource) :
    (c.delRmDepend rm1).Agrees := by
  intro d
  rw [mem_delRmDepend h, hagrees, delRmDepend_tbl h]
  generalize (c.delRmDepend rm1).ipaRmA2Check = check
  constructor
  · rintro ⟨⟨row, hrow, hneeds⟩, hkept⟩
    refine ⟨_, List.mem_map_of_mem hrow, (deleted_needs ?_).mpr hneeds⟩
    by_contra hdown
    exact hkept ⟨row, hrow, by simpa using hdown, hneeds⟩
  · rintro ⟨x, hx, hneeds⟩
    obtain ⟨row, hrow, rfl⟩ := List.mem_map.mp hx
    have hold := (deleted_needs hneeds.1).mp hneeds
    refine ⟨⟨row, hrow, hold⟩, ?_⟩
    rintro ⟨row', hrow', hdown, hneeds'⟩
    obtain rfl := h.eq_of_mem hrow hrow' hold.mem hneeds'.mem
    exact absurd (hneeds.1.symm.trans hdown) nofun

theorem agrees_step_iff (h : c.Tabled) (hagrees : c.Agrees) (call : Call) :
    (c.step call).Agrees ↔ c.KeepsBypass call := by
  cases call with
  | add rm1 rxBypassIpa => exact agrees_add_iff h hagrees
  | del rm1 => exact iff_of_true (agrees_del h hagrees rm1) trivial

end Config

end Axon7.RmDepend
