import Axon7.Conntrack.CtSound

/-!
# Closed connections

What `IPACM_ConntrackListener` leaves of a connection once it is over. The entry
is found by the five fields that the listener reads then, from what it knows
then, and these need not be the five that the entry has.
-/

namespace Axon7.Conntrack

open Axon7.Lib

/-! ## Places -/

namespace NatInst

open NatCache

variable {n : NatInst} {c : NatCache} {conn : Option Conn} {ct : Conn}
  {cnt : Nat}

section Mark

variable {before after : Nat → Bool} {conns : Nat → Option Conn}

end Mark

theorem cached_iff {cache : List NatTableEntry} : cached cache cnt = true ↔
    ∃ entry, cache[cnt]? = some entry ∧ entry.isFree = false := by
  rw [cached, Option.any_eq_true]
  simp only [Bool.not_eq_true']

theorem cached_set {cache : List NatTableEntry} {i : Nat}
    {entry entry' : NatTableEntry} (hentry : cache[i]? = some entry)
    (hfree : entry.isFree = true) (h : cached cache cnt = true) :
    cached (cache.set i entry') cnt = true := by
  obtain ⟨e, he, hused⟩ := cached_iff.mp h
  refine cached_iff.mpr ⟨e, ?_, hused⟩
  rw [List.getElem?_set_ne]
  · exact he
  · rintro rfl
    obtain rfl : entry = e := Option.some.inj (hentry.symm.trans he)
    exact absurd (hused.symm.trans hfree) nofun

/-- The entries that a call for a connection adds are put where none was. -/
structure Keeps (c c' : NatCache) : Prop where
  cache : ∀ cnt, cached c.cache cnt = true → cached c'.cache cnt = true
  temp : ∀ cnt, kept c.temp cnt = true → kept c'.temp cnt = true

theorem Keeps.refl (c : NatCache) : Keeps c c := ⟨fun _ => id, fun _ => id⟩

theorem Keeps.write {i : Nat} {entry' : NatTableEntry} {curCnt : Int}
    {rules : NatRules}
    (hfind : c.cache.findIdx? NatTableEntry.isFree = some i) :
    Keeps c (c.write i entry' curCnt rules) := by
  obtain ⟨entry, hentry, hfree⟩ := getElem_of_findIdx hfind
  exact ⟨fun _ => cached_set hentry hfree, fun _ => id⟩

theorem deleteTempEntry_cache (rule : NatTableEntry) :
    (c.deleteTempEntry rule).cache = c.cache := by
  rw [deleteTempEntry]
  split <;> rfl

end NatInst

/-! ## How a connection is read -/

namespace TempEntry

variable {rule : TempEntry}

end TempEntry

namespace CtListener

open NatInst

variable {s : CtListener} {ct : Conn} {rule : TempEntry}

/-- There is an entry of the connection, in the cache or a temporary one. -/
def Has (s : CtListener) (ct : Conn) : Prop :=
  (∃ cnt, s.natInst.cacheConn cnt = some ct) ∨
    ∃ cnt, s.natInst.tempConn cnt = some ct

/-- There is no entry of the connection, and every rule of the driver is that of
an entry, so of another one. -/
structure Gone (s : CtListener) (ct : Conn) : Prop where
  cache : ∀ cnt, s.natInst.cacheConn cnt ≠ some ct
  temp : ∀ cnt, s.natInst.tempConn cnt ≠ some ct
  rules : ∀ hdl r, s.natInst.rules hdl = some r →
    ∃ (cnt : Nat) (entry : NatTableEntry), s.natInst.cache[cnt]? = some entry ∧
      entry.enabled = true ∧ entry.ruleHdl = hdl ∧ entry.natRule = r ∧
        s.natInst.cacheConn cnt ≠ some ct

variable {n : Nat} {msg : CtMessage}

theorem Sound.gone (h : s.Sound n)
    (hcache : ∀ cnt, s.natInst.cacheConn cnt ≠ some ct)
    (htemp : ∀ cnt, s.natInst.tempConn cnt ≠ some ct) : s.Gone ct where
  cache := hcache
  temp := htemp
  rules hdl r hr := by
    obtain ⟨cnt, ⟨entry, hentry, hon, hhdl, hrule⟩, -⟩ :=
      h.inv.refines.owner hdl r hr
    exact ⟨cnt, entry, hentry, hon, hhdl, hrule, hcache cnt⟩

theorem Sound.new (wanIpaddr : Ip) (isStaMode : Bool)
    (privateSubnetTable : List (Ip × Ip)) (maxEntries : Nat)
    (pubIpAddrPre : Ip) (pwrSaveIfs : List Ip)
    (algPorts : List (BitVec 8 × Port)) :
    (CtListener.new wanIpaddr isStaMode privateSubnetTable
      (.new maxEntries pubIpAddrPre pwrSaveIfs algPorts)).Sound maxEntries where
  inv := .new maxEntries pubIpAddrPre pwrSaveIfs algPorts
  table hne := absurd rfl hne
  marked := ⟨fun _ _ => nofun, fun _ _ => nofun⟩

theorem Sound.run (h : s.Sound n) (evs : List CtEvent) :
    (evs.foldl CtListener.step s).Sound n := by
  induction evs generalizing s with
  | nil => exact h
  | cons ev evs ih => exact ih (h.step ev)

end CtListener

end Axon7.Conntrack
