import Axon7.Conntrack.NatCache
import Axon7.Lib.SlotTable

/-!
# The cache refines the rules of the driver

Whatever is asked of `NatApp`, and whatever the driver answers, the entries that
are enabled are the rules of the driver, one each. Every call writes entries one
at a time, and a write of one entry is a write of a slot over the store of rules:
an entry is switched off, cleared, switched on or put where none was.
-/

namespace Axon7.Conntrack

open Axon7.Lib

namespace NatTableEntry

variable {entry entry' : NatTableEntry}

/-- An entry as a slot. -/
def view : SlotView NatTableEntry NatKey Nat NatRule where
  key entry := if entry.isFree then none else some entry.key
  hold entry :=
    if entry.enabled then some (entry.ruleHdl, entry.natRule) else none

theorem isFree_empty : empty.isFree = true := by decide

theorem isFree_off : entry.off.isFree = entry.isFree := rfl

theorem hold_enabled (h : entry.enabled = true) :
    view.hold entry = some (entry.ruleHdl, entry.natRule) := if_pos h

theorem hold_disabled (h : entry.enabled = false) : view.hold entry = none :=
  if_neg (ne_true_of_eq_false h)

theorem key_free (h : entry.isFree = true) : view.key entry = none := if_pos h

theorem key_used (h : entry.isFree = false) :
    view.key entry = some entry.key := if_neg (ne_true_of_eq_false h)

theorem isFree_of_isValid (h : entry.isValid = true) : entry.isFree = false := by
  simp only [isValid, Bool.and_eq_true, decide_eq_true_eq] at h
  simp only [isFree, key, Prod.mk.injEq, decide_eq_false_iff_not]
  exact fun hfree => h.1.1.1.1 hfree.1

theorem isFree_of_privateIp (h : entry.privateIp ≠ 0) :
    entry.isFree = false := by
  simp only [isFree, key, Prod.mk.injEq, decide_eq_false_iff_not]
  exact fun hfree => h hfree.1

theorem isFree_of_targetIp (h : entry.targetIp ≠ 0) : entry.isFree = false := by
  simp only [isFree, key, Prod.mk.injEq, decide_eq_false_iff_not]
  exact fun hfree => h hfree.2.1

theorem isFree_of_protocol (h : entry.protocol ≠ 0) :
    entry.isFree = false := by
  simp only [isFree, key, Prod.mk.injEq, decide_eq_false_iff_not]
  exact fun hfree => h hfree.2.2.2.2

end NatTableEntry

namespace NatCache

open NatTableEntry

variable {c : NatCache} {entry entry' rule : NatTableEntry}
  {cnt n : Nat}

/-- What every call keeps. -/
structure Inv (c : NatCache) (maxEntries : Nat) : Prop where
  sized : c.cache.length = maxEntries
  valid : ∀ entry ∈ c.cache, entry.isFree = false → entry.isValid = true
  used : ∀ entry ∈ c.cache, entry.enabled = true → entry.isFree = false
  mirrors : Mirrors view c.cache c.rules
  counted : c.curCnt = c.cache.countP fun entry => !entry.isFree
  tabled : c.natTableHdl = 0 → c.rules = fun _ => none

theorem Inv.frame {c' : NatCache} (h : c.Inv n) (hcache : c'.cache = c.cache)
    (hrules : c'.rules = c.rules) (hcnt : c'.curCnt = c.curCnt)
    (htbl : c'.natTableHdl = c.natTableHdl) : c'.Inv n where
  sized := hcache ▸ h.sized
  valid := hcache ▸ h.valid
  used := hcache ▸ h.used
  mirrors := hcache ▸ hrules ▸ h.mirrors
  counted := hcnt ▸ hcache ▸ h.counted
  tabled := htbl ▸ hrules ▸ h.tabled

theorem Inv.write (h : c.Inv n) {curCnt : Int}
    (hentry : c.cache[cnt]? = some entry)
    (hvalid : entry'.isFree = false → entry'.isValid = true)
    (hused : entry'.enabled = true → entry'.isFree = false)
    (hkey : ∀ k, view.key entry' = some k →
      view.key entry = some k ∨ ∀ e ∈ c.cache, view.key e ≠ some k)
    (hfree : ∀ x r, view.hold entry' = some (x, r) →
      c.rules.release (view.hold entry) x = none)
    (hcnt : curCnt + (if entry.isFree then 0 else 1) =
      c.curCnt + if entry'.isFree then 0 else 1)
    (htbl : c.natTableHdl = 0 → entry'.enabled = false) :
    (c.write cnt entry' curCnt
      ((c.rules.release (view.hold entry)).take (view.hold entry'))).Inv n := by
  have hlt : cnt < c.cache.length := (List.getElem?_eq_some_iff.mp hentry).1
  have hget : c.cache[cnt] = entry := (List.getElem?_eq_some_iff.mp hentry).2
  refine ⟨(List.length_set ..).trans h.sized, ?_, ?_,
    h.mirrors.set hentry hkey hfree, ?_, ?_⟩
  · intro e he
    obtain he | rfl := List.mem_or_eq_of_mem_set he
    · exact h.valid e he
    · exact hvalid
  · intro e he
    obtain he | rfl := List.mem_or_eq_of_mem_set he
    · exact h.used e he
    · exact hused
  · have hcounted := h.counted
    have hpos : (!entry.isFree) = true →
        0 < c.cache.countP fun entry => !entry.isFree := fun hused =>
      List.countP_pos_iff.mpr ⟨entry, List.mem_of_getElem? hentry, hused⟩
    show curCnt = ((c.cache.set cnt entry').countP _ : ℕ)
    rw [List.countP_set hlt, hget]
    generalize c.cache.countP (fun entry => !entry.isFree) = k at hcounted hpos ⊢
    cases hef : entry.isFree <;> cases hef' : entry'.isFree <;>
      simp [hef, hef'] at hcnt hpos ⊢ <;> omega
  · intro hhdl
    show (c.rules.release _).take _ = _
    rw [hold_disabled (htbl hhdl), h.tabled hhdl]
    funext x
    cases hhold : view.hold entry with
    | none => rfl
    | some held =>
      show Function.update (fun _ => none) held.1 none x = none
      rw [Function.update_apply, ite_self]

/-! ## The driver -/

theorem Inv.del (h : c.Inv n) (hentry : c.cache[cnt]? = some entry)
    (hon : entry.enabled = true) : c.ipaNatDelIpv4Rule entry.ruleHdl =
      some (c.rules.release (view.hold entry)) := by
  have hlive := h.mirrors.live entry (List.mem_of_getElem? hentry) _ _
    (hold_enabled hon)
  have hhdl : c.natTableHdl ≠ 0 := by
    intro hhdl
    rw [h.tabled hhdl] at hlive
    cases hlive
  rw [ipaNatDelIpv4Rule, if_neg hhdl, hold_enabled hon, HandleMap.next, hlive,
    if_neg (by rintro ⟨⟩), HandleMap.release]

theorem add_eq_some {r : NatRule} {reply : Option Nat} {hdl : Nat}
    {rules : NatRules} (h : c.ipaNatAddIpv4Rule r reply = some (hdl, rules)) :
    c.natTableHdl ≠ 0 ∧ c.rules hdl = none ∧
      rules = c.rules.take (some (hdl, r)) := by
  unfold ipaNatAddIpv4Rule at h
  split at h
  · cases h
  · rename_i hhdl
    cases reply with
    | none => cases h
    | some x =>
      obtain ⟨rules', hnext, heq⟩ := Option.map_eq_some_iff.mp h
      obtain ⟨rfl, rfl⟩ := Prod.mk.inj heq
      rw [HandleMap.next] at hnext
      split at hnext
      · rename_i hfree
        exact ⟨hhdl, hfree, (Option.some.inj hnext).symm⟩
      · cases hnext

/-! ## One entry -/

theorem Inv.off (h : c.Inv n) (hentry : c.cache[cnt]? = some entry)
    (hdl : Nat) :
    (c.write cnt { entry with enabled := false, ruleHdl := hdl } c.curCnt
      (c.rules.release (view.hold entry))).Inv n := by
  have hmem := List.mem_of_getElem? hentry
  exact h.write hentry (fun hfree => h.valid entry hmem hfree) nofun
    (fun k hk => .inl hk) nofun rfl fun _ => rfl

theorem Inv.clear (h : c.Inv n) (hentry : c.cache[cnt]? = some entry)
    (hused : entry.isFree = false) :
    (c.write cnt .empty (c.curCnt - 1)
      (c.rules.release (view.hold entry))).Inv n := by
  refine h.write hentry (fun hfree => absurd hfree (by decide)) nofun
    (fun k hk => absurd hk nofun) nofun ?_ fun _ => rfl
  rw [hused, isFree_empty]
  simp

theorem Inv.clear_off (h : c.Inv n) (hentry : c.cache[cnt]? = some entry)
    (hused : entry.isFree = false) (hoff : entry.enabled = false) :
    (c.write cnt .empty (c.curCnt - 1) c.rules).Inv n := by
  have hclear := h.clear hentry hused
  rwa [hold_disabled hoff] at hclear

theorem Inv.on (h : c.Inv n) (hentry : c.cache[cnt]? = some entry)
    (hused : entry.isFree = false) (hoff : entry.enabled = false) {hdl : Nat}
    (hfree : c.rules hdl = none) (hhdl : c.natTableHdl ≠ 0) :
    (c.write cnt (entry.on hdl) c.curCnt
      (c.rules.take (some (hdl, entry.natRule)))).Inv n := by
  have hmem := List.mem_of_getElem? hentry
  have hwrite : (c.write cnt (entry.on hdl) c.curCnt
      ((c.rules.release (view.hold entry)).take
        (view.hold (entry.on hdl)))).Inv n := by
    refine h.write hentry (fun _ => h.valid entry hmem hused) (fun _ => hused)
      (fun k hk => .inl hk) (fun x r hx => ?_) rfl fun heq => absurd heq hhdl
    obtain ⟨rfl, -⟩ := Prod.mk.inj (Option.some.inj hx)
    rwa [hold_disabled hoff]
  rwa [hold_disabled hoff] at hwrite

theorem Inv.put (h : c.Inv n) (hentry : c.cache[cnt]? = some entry)
    (hfree : entry.isFree = true) (hvalid : rule.isValid = true)
    (hdup : c.chkForDup rule = false) :
    (c.write cnt rule.off (c.curCnt + 1) c.rules).Inv n := by
  have hmem := List.mem_of_getElem? hentry
  have hoff : entry.enabled = false := by
    by_contra hon
    rw [Bool.not_eq_false] at hon
    exact absurd ((h.used entry hmem hon).symm.trans hfree) nofun
  have hused := isFree_of_isValid hvalid
  have hnew : ∀ k, view.key rule.off = some k →
      ∀ e ∈ c.cache, view.key e ≠ some k := by
    intro k hk e he hke
    rw [key_used (isFree_off.trans hused)] at hk
    have hkey : e.key = rule.key := by
      cases hef : e.isFree with
      | true =>
        rw [key_free hef] at hke
        exact absurd hke nofun
      | false =>
        rw [key_used hef] at hke
        exact Option.some.inj (hke.trans hk.symm)
    have hany : c.chkForDup rule = true :=
      List.any_eq_true.mpr ⟨e, he, decide_eq_true hkey⟩
    exact absurd (hdup.symm.trans hany) nofun
  have hwrite : (c.write cnt rule.off (c.curCnt + 1)
      ((c.rules.release (view.hold entry)).take (view.hold rule.off))).Inv n := by
    refine h.write hentry (fun _ => hvalid) nofun (fun k hk => .inr (hnew k hk))
      nofun ?_ fun _ => rfl
    rw [hfree, isFree_off, hused]
    simp
  rwa [hold_disabled hoff] at hwrite

theorem Inv.put_on (h : c.Inv n) (hentry : c.cache[cnt]? = some entry)
    (hfree : entry.isFree = true) (hvalid : rule.isValid = true)
    (hdup : c.chkForDup rule = false) {hdl : Nat} (hhdl : c.natTableHdl ≠ 0)
    (hnone : c.rules hdl = none) :
    (c.write cnt (rule.on hdl) (c.curCnt + 1)
      (c.rules.take (some (hdl, rule.natRule)))).Inv n := by
  have hput := h.put hentry hfree hvalid hdup
  have hlt : cnt < c.cache.length := (List.getElem?_eq_some_iff.mp hentry).1
  have hoff : (c.write cnt rule.off (c.curCnt + 1) c.rules).cache[cnt]? =
      some rule.off := List.getElem?_set_self hlt
  have hon := hput.on hoff (isFree_of_isValid hvalid) rfl hnone hhdl
  refine hon.frame ?_ rfl rfl rfl
  exact (List.set_set ..).symm

/-! ## The calls -/

theorem getElem_of_findIdx {α : Type} {p : α → Bool} {l : List α} {i : Nat}
    (h : l.findIdx? p = some i) : ∃ a, l[i]? = some a ∧ p a = true := by
  obtain ⟨hlt, hp, -⟩ := List.findIdx?_eq_some_iff_getElem.mp h
  exact ⟨l[i], List.getElem?_eq_getElem hlt, hp⟩

theorem Inv.overCache {turn : Nat → NatTableEntry → NatCache → NatCache}
    (hturn : ∀ c cnt entry, c.Inv n → c.cache[cnt]? = some entry →
      (turn cnt entry c).Inv n) (h : c.Inv n) : (c.overCache turn).Inv n := by
  rw [NatCache.overCache]
  refine List.foldlRecOn (motive := fun c => Inv c n) _ _ h
    fun c h cnt _ => ?_
  split
  · exact h
  · rename_i entry hentry
    exact hturn c cnt entry h hentry

theorem Inv.deleteEntry (h : c.Inv n) (hrule : rule.protocol ≠ 0) :
    (c.deleteEntry rule).Inv n := by
  rw [NatCache.deleteEntry]
  split
  · exact h
  · rename_i cnt hfind
    obtain ⟨entry, hentry, hkey⟩ := getElem_of_findIdx hfind
    rw [hentry]
    have hused : entry.isFree = false := by
      refine isFree_of_protocol ?_
      have hkey := of_decide_eq_true hkey
      rw [NatTableEntry.key, NatTableEntry.key] at hkey
      simp only [Prod.mk.injEq] at hkey
      rw [hkey.2.2.2.2]
      exact hrule
    dsimp only
    split
    · rename_i hon
      rw [h.del hentry hon]
      exact h.clear hentry hused
    · rename_i hoff
      exact h.clear_off hentry hused (eq_false_of_ne_true hoff)

theorem Inv.cacheEntry (h : c.Inv n) (rule : NatTableEntry) :
    (c.cacheEntry rule).Inv n := by
  rw [NatCache.cacheEntry]
  split
  · exact h
  · rename_i hvalid
    split
    · exact h
    · rename_i hdup
      split
      · exact h
      · rename_i cnt hfind
        obtain ⟨entry, hentry, hfree⟩ := getElem_of_findIdx hfind
        exact h.put hentry hfree (eq_true_of_ne_false hvalid)
          (eq_false_of_ne_true hdup)

theorem Inv.addEntry (h : c.Inv n) (rule : NatTableEntry) (reply : Option Nat) :
    (c.addEntry rule reply).2.Inv n := by
  rw [NatCache.addEntry]
  split
  · exact h
  · split
    · exact h
    · split
      · exact h
      · rename_i hvalid
        split
        · exact h
        · rename_i hdup
          split
          · exact h
          · rename_i cnt hfind
            obtain ⟨entry, hentry, hfree⟩ := getElem_of_findIdx hfind
            have hvalid := eq_true_of_ne_false hvalid
            have hdup := eq_false_of_ne_true hdup
            split
            · exact h.put hentry hfree hvalid hdup
            · split
              · exact h
              · rename_i hdl rules hadd
                obtain ⟨hhdl, hnone, rfl⟩ := add_eq_some hadd
                exact h.put_on hentry hfree hvalid hdup hhdl hnone

/-! ### The clients -/

theorem Inv.savePower {ip : Ip} (h : c.Inv n)
    (hentry : c.cache[cnt]? = some entry) : (savePower ip cnt entry c).Inv n := by
  rw [NatCache.savePower]
  split
  · rename_i hif
    have hon := (Bool.and_eq_true_iff.mp hif).2
    rw [h.del hentry hon]
    exact h.off hentry 0
  · exact h

theorem Inv.dropRule {ip : Ip} (h : c.Inv n)
    (hentry : c.cache[cnt]? = some entry) : (dropRule ip cnt entry c).Inv n := by
  rw [NatCache.dropRule]
  split
  · rename_i hif
    have hon := (Bool.and_eq_true_iff.mp hif).2
    rw [h.del hentry hon]
    exact h.off hentry entry.ruleHdl
  · exact h

theorem Inv.resumePower {ip : Ip} {reply : Nat → Option Nat} (hip : ip ≠ 0)
    (h : c.Inv n) (hentry : c.cache[cnt]? = some entry) :
    (resumePower ip reply cnt entry c).Inv n := by
  rw [NatCache.resumePower]
  split
  · rename_i hif
    obtain ⟨heq, hoff⟩ := Bool.and_eq_true_iff.mp hif
    have hoff := (Bool.not_eq_true' _).mp hoff
    have hused : entry.isFree = false :=
      isFree_of_privateIp (of_decide_eq_true heq ▸ hip)
    split
    · exact h.clear_off hentry hused hoff
    · rename_i hdl rules hadd
      obtain ⟨hhdl, hnone, rfl⟩ := add_eq_some hadd
      exact h.on hentry hused hoff hnone hhdl
  · exact h

theorem Inv.dropEntry {ip : Ip} (hip : ip ≠ 0) (h : c.Inv n)
    (hentry : c.cache[cnt]? = some entry) :
    (dropEntry ip cnt entry c).Inv n := by
  rw [NatCache.dropEntry]
  split
  · rename_i heq
    have hused : entry.isFree = false := isFree_of_targetIp (heq ▸ hip)
    split
    · rename_i hon
      rw [h.del hentry hon]
      exact h.clear hentry hused
    · rename_i hoff
      exact h.clear_off hentry hused (eq_false_of_ne_true hoff)
  · exact h

theorem Inv.updatePwrSaveIf (h : c.Inv n) (ip : Ip) :
    (c.updatePwrSaveIf ip).2.Inv n := by
  rw [NatCache.updatePwrSaveIf]
  split
  · exact h
  · split
    · exact h
    · exact Inv.overCache (fun c cnt entry h hentry => h.savePower hentry)
        (h.frame rfl rfl rfl rfl)

theorem Inv.resetPwrSaveIf (h : c.Inv n) (ip : Ip) (reply : Nat → Option Nat) :
    (c.resetPwrSaveIf ip reply).Inv n := by
  rw [NatCache.resetPwrSaveIf]
  split
  · exact h
  · rename_i hip
    exact Inv.overCache (fun c cnt entry h hentry => h.resumePower hip hentry)
      (h.frame rfl rfl rfl rfl)

theorem Inv.delEntriesOnClntDiscon (h : c.Inv n) (ip : Ip) :
    (c.delEntriesOnClntDiscon ip).2.Inv n := by
  rw [NatCache.delEntriesOnClntDiscon]
  split
  · exact h
  · exact Inv.overCache (fun c cnt entry h hentry => h.dropRule hentry)
      (h.frame rfl rfl rfl rfl)

theorem Inv.delEntriesOnSTAClntDiscon (h : c.Inv n) (ip : Ip) :
    (c.delEntriesOnSTAClntDiscon ip).2.Inv n := by
  rw [NatCache.delEntriesOnSTAClntDiscon]
  split
  · exact h
  · rename_i hip
    exact Inv.overCache (fun c cnt entry h hentry => h.dropEntry hip hentry) h

/-! ### The entries kept for later -/

theorem Inv.addTempEntry (h : c.Inv n) (newEntry : TempEntry) :
    (c.addTempEntry newEntry).Inv n := by
  rw [NatCache.addTempEntry]
  split
  · exact h
  · split
    · exact h
    · split
      · exact h
      · split
        · exact h
        · exact h.frame rfl rfl rfl rfl

theorem Inv.deleteTempEntry (h : c.Inv n) (entry : NatTableEntry) :
    (c.deleteTempEntry entry).Inv n := by
  rw [NatCache.deleteTempEntry]
  split
  · exact h
  · exact h.frame rfl rfl rfl rfl

theorem Inv.flushTempEntry {ip : Ip} {isAdd isDummy : Bool}
    {reply : Nat → Option Nat} (h : c.Inv n) :
    (flushTempEntry ip isAdd isDummy reply c cnt).Inv n := by
  rw [NatCache.flushTempEntry]
  split
  · exact h
  · split
    · split
      · rename_i temp _ _ _
        generalize (if isDummy = true then _ else temp) = temp
        have hset : { c with temp := c.temp.set cnt temp }.Inv n :=
          h.frame rfl rfl rfl rfl
        have hadd := hset.addEntry temp.toNatTableEntry (reply cnt)
        dsimp only
        split
        · rename_i c' heq
          rwa [heq] at hadd
        · rename_i c' heq
          rw [heq] at hadd
          exact hadd.frame rfl rfl rfl rfl
      · exact h.frame rfl rfl rfl rfl
    · exact h

theorem Inv.flushTempEntries (h : c.Inv n) (ip : Ip) (isAdd isDummy : Bool)
    (reply : Nat → Option Nat) :
    (c.flushTempEntries ip isAdd isDummy reply).Inv n := by
  rw [NatCache.flushTempEntries]
  exact List.foldlRecOn (motive := fun c => Inv c n) _ _ h
    fun _ h _ _ => h.flushTempEntry

/-! ### The table -/

theorem Inv.restore {ruleHdl : Nat → Option Nat}
    (hfresh : ∀ i j hdl, ruleHdl i = some hdl → ruleHdl j = some hdl → i = j)
    (rest : List NatTableEntry) :
    ∀ (c : NatCache) (done : List NatTableEntry), c.cache = done ++ rest →
      c.Inv n → c.natTableHdl ≠ 0 → (∀ entry ∈ rest, entry.enabled = false) →
      (∀ hdl, c.rules hdl ≠ none →
        ∃ i < done.length, ruleHdl i = some hdl) →
      Inv { c with
        cache := done ++
          (NatApp.restore ruleHdl done.length rest c.curCnt).1
        curCnt := (NatApp.restore ruleHdl done.length rest c.curCnt).2
        rules := restoreRules ruleHdl done.length rest c.rules } n := by
  induction rest with
  | nil =>
    intro c done hcache h _ _ _
    exact h.frame hcache.symm rfl rfl rfl
  | cons entry rest ih =>
    intro c done hcache h hhdl hoff hgiven
    have hentry : c.cache[done.length]? = some entry := by
      rw [hcache, List.getElem?_append_right (Nat.le_refl _), Nat.sub_self]
      rfl
    have hentryOff := hoff entry List.mem_cons_self
    have hrest : ∀ e ∈ rest, e.enabled = false := fun e he =>
      hoff e (List.mem_cons_of_mem _ he)
    -- the entry is written, and the loop goes on behind it
    have hnext : ∀ (entry' : NatTableEntry) (curCnt : Int) (rules : NatRules),
        (c.write done.length entry' curCnt rules).Inv n →
        (∀ hdl, rules hdl ≠ none →
          ∃ i < done.length + 1, ruleHdl i = some hdl) →
        Inv { c with
          cache := done ++ entry' ::
            (NatApp.restore ruleHdl (done.length + 1) rest curCnt).1
          curCnt :=
            (NatApp.restore ruleHdl (done.length + 1) rest curCnt).2
          rules := restoreRules ruleHdl (done.length + 1) rest rules } n := by
      intro entry' curCnt rules hwrite hgiven'
      have hset : c.cache.set done.length entry' =
          (done ++ [entry']) ++ rest := by
        rw [hcache]
        simp
      have hlen : (done ++ [entry']).length = done.length + 1 := by simp
      have hih := ih (c.write done.length entry' curCnt rules)
        (done ++ [entry']) hset hwrite hhdl hrest (by rwa [hlen])
      rw [hlen] at hih
      refine hih.frame ?_ rfl rfl rfl
      simp [NatCache.write]
    have hlater : ∀ hdl, c.rules hdl ≠ none →
        ∃ i < done.length + 1, ruleHdl i = some hdl := by
      intro hdl hne
      obtain ⟨i, hi, heq⟩ := hgiven hdl hne
      exact ⟨i, Nat.lt_succ_of_lt hi, heq⟩
    simp only [NatApp.restore, restoreRules, NatApp.restoreEntry]
    by_cases hip : entry.privateIp = 0
    · simp only [hip, ne_eq, not_true_eq_false, if_false]
      refine hnext entry c.curCnt c.rules (h.frame ?_ rfl rfl rfl) hlater
      show c.cache.set done.length entry = c.cache
      rw [hcache]
      simp
    · simp only [hip, ne_eq, not_false_eq_true, if_true]
      have hused := isFree_of_privateIp hip
      cases hreply : ruleHdl done.length with
      | none =>
        exact hnext .empty (c.curCnt - 1) c.rules
          (h.clear_off hentry hused hentryOff) hlater
      | some hdl =>
        have hnone : c.rules hdl = none := by
          by_contra hne
          obtain ⟨i, hi, heq⟩ := hgiven hdl hne
          exact Nat.ne_of_lt hi (hfresh i done.length hdl heq hreply)
        refine hnext (entry.on hdl) c.curCnt _
          (h.on hentry hused hentryOff hnone hhdl) ?_
        intro x hx
        by_cases hxh : x = hdl
        · exact ⟨done.length, Nat.lt_succ_self _, hxh ▸ hreply⟩
        · have heq : c.rules.take (some (hdl, entry.natRule)) x =
              c.rules x := Function.update_of_ne hxh _ _
          exact hlater x (heq ▸ hx)

theorem Inv.off_of_tabled (h : c.Inv n) (hhdl : c.natTableHdl = 0) :
    ∀ entry ∈ c.cache, entry.enabled = false := by
  intro entry hentry
  by_contra hon
  have hlive := h.mirrors.live entry hentry _ _
    (hold_enabled (eq_true_of_ne_false hon))
  rw [h.tabled hhdl] at hlive
  exact absurd hlive nofun

theorem Inv.addTable (h : c.Inv n) (hhdl : c.natTableHdl = 0) (pubIp : Ip)
    (reply : NewTblReply) : (c.addTable pubIp reply).2.Inv n := by
  have hoff := h.off_of_tabled hhdl
  simp only [NatCache.addTable, NatApp.addTable]
  split
  · exact h.frame rfl rfl rfl rfl
  · split
    · exact h.frame rfl rfl rfl hhdl.symm
    · rename_i hdl _
      -- the table is there, and no rule in it
      have htbl : Inv { c with natTableHdl := hdl.1, pubIpAddr := pubIp } n :=
        ⟨h.sized, h.valid, h.used, h.mirrors, h.counted,
          fun heq => absurd heq hdl.2⟩
      by_cases hip : pubIp = c.pubIpAddrPre
      · have hloop := Inv.restore reply.fresh c.cache
          { c with natTableHdl := hdl.1, pubIpAddr := pubIp } [] rfl htbl hdl.2
          hoff fun x hx => absurd (congrFun (h.tabled hhdl) x) hx
        simpa only [hip, if_true, decide_true, Bool.and_self, List.nil_append,
          List.length_nil] using hloop
      · simpa only [hip, if_false, decide_false, Bool.and_false,
          Bool.false_eq_true] using htbl

theorem Inv.deleteTable (h : c.Inv n) (pubIp : Ip) (deleted : Bool) :
    (c.deleteTable pubIp deleted).2.Inv n := by
  simp only [NatCache.deleteTable, NatApp.deleteTable]
  split
  · exact h.frame rfl rfl rfl rfl
  · split
    · exact h.frame rfl rfl rfl rfl
    · split
      · refine ⟨(List.length_map _).trans h.sized, ?_, ?_,
        h.mirrors.emptied (fun _ => rfl) fun _ => rfl, ?_, fun _ => rfl⟩
        · intro entry hentry
          obtain ⟨e, he, rfl⟩ := List.mem_map.mp hentry
          exact h.valid e he
        · intro entry hentry
          obtain ⟨e, he, rfl⟩ := List.mem_map.mp hentry
          rintro ⟨⟩
        · refine h.counted.trans ?_
          dsimp only [NatApp.reset]
          rw [List.countP_map]
          rfl
      · exact h.frame rfl rfl rfl rfl

/-! ## Runs -/

theorem Inv.new (maxEntries : Nat) (pubIpAddrPre : Ip) (pwrSaveIfs : List Ip)
    (algPorts : List (BitVec 8 × Port)) :
    (NatCache.new maxEntries pubIpAddrPre pwrSaveIfs algPorts).Inv
      maxEntries := by
  have hempty : ∀ entry ∈ List.replicate maxEntries NatTableEntry.empty,
      entry = .empty := fun entry hentry => List.eq_of_mem_replicate hentry
  refine ⟨List.length_replicate, ?_, ?_, .blank ?_ ?_, ?_, fun _ => rfl⟩
  · intro entry hentry hused
    rw [hempty entry hentry] at hused
    exact absurd hused (by decide)
  · intro entry hentry hon
    rw [hempty entry hentry] at hon
    exact absurd hon (by decide)
  · intro entry hentry
    rw [hempty entry hentry]
    exact key_free isFree_empty
  · intro entry hentry
    rw [hempty entry hentry]
    rfl
  · show (0 : Int) = ((List.replicate maxEntries _).countP _ : ℕ)
    rw [List.countP_replicate, isFree_empty]
    rfl

theorem Inv.step (h : c.Inv n) {op : Op} (hop : op.Allowed c) :
    (c.step op).Inv n := by
  cases op with
  | addTable pubIp reply => exact h.addTable hop pubIp reply
  | deleteTable pubIp deleted => exact h.deleteTable pubIp deleted
  | addEntry rule reply => exact h.addEntry rule reply
  | deleteEntry rule => exact h.deleteEntry hop
  | cacheEntry rule => exact h.cacheEntry rule
  | addTempEntry newEntry => exact h.addTempEntry newEntry
  | deleteTempEntry entry => exact h.deleteTempEntry entry
  | flushTempEntries ip isAdd isDummy reply =>
    exact h.flushTempEntries ip isAdd isDummy reply
  | updatePwrSaveIf ip => exact h.updatePwrSaveIf ip
  | resetPwrSaveIf ip reply => exact h.resetPwrSaveIf ip reply
  | delEntriesOnClntDiscon ip => exact h.delEntriesOnClntDiscon ip
  | delEntriesOnSTAClntDiscon ip => exact h.delEntriesOnSTAClntDiscon ip

theorem Inv.run {ops : List Op} (h : c.Inv n) (hops : c.Legal ops) :
    (ops.foldl NatCache.step c).Inv n := by
  induction ops generalizing c with
  | nil => exact h
  | cons op ops ih => exact ih (h.step hops.1) hops.2

/-! ## What the cache is then -/

/-- The cache is sound, and the entries that are enabled are the rules of the
driver. -/
structure Refines (c : NatCache) (maxEntries : Nat) : Prop where
  valid : ∀ entry ∈ c.cache, entry.isFree = false → entry.isValid = true
  distinct : ∀ (i j : Nat) (entry entry' : NatTableEntry),
    c.cache[i]? = some entry → c.cache[j]? = some entry' →
      entry.isFree = false → entry.key = entry'.key → i = j
  counted : c.curCnt = c.cache.countP fun entry => !entry.isFree
  bounded : c.curCnt ≤ maxEntries
  live : ∀ entry ∈ c.cache, entry.enabled = true →
    entry.isFree = false ∧ c.rules entry.ruleHdl = some entry.natRule
  owner : ∀ hdl r, c.rules hdl = some r →
    ∃! cnt : Nat, ∃ entry : NatTableEntry, c.cache[cnt]? = some entry ∧
      entry.enabled = true ∧ entry.ruleHdl = hdl ∧ entry.natRule = r

theorem hold_eq_some {hdl : Nat} {r : NatRule} :
    view.hold entry = some (hdl, r) ↔
      entry.enabled = true ∧ entry.ruleHdl = hdl ∧ entry.natRule = r := by
  cases hon : entry.enabled with
  | false => simp [hold_disabled hon]
  | true => simp [hold_enabled hon]

theorem Inv.refines (h : c.Inv n) : c.Refines n where
  valid := h.valid
  distinct i j entry entry' hi hj hused hkey := by
    have hused' : entry'.isFree = false := by
      rw [isFree, ← hkey]
      exact hused
    refine h.mirrors.distinct i j entry entry' entry.key hi hj
      (key_used hused) ?_
    rw [key_used hused', hkey]
  counted := h.counted
  bounded := by
    rw [h.counted, ← h.sized]
    exact Int.ofNat_le.mpr List.countP_le_length
  live entry hentry hon :=
    ⟨h.used entry hentry hon,
      h.mirrors.live entry hentry _ _ (hold_enabled hon)⟩
  owner hdl r hr := by
    simpa only [hold_eq_some] using h.mirrors.existsUnique hr

/-- After any calls, whatever the driver answers. -/
theorem run_refines (maxEntries : Nat) (pubIpAddrPre : Ip)
    (pwrSaveIfs : List Ip) (algPorts : List (BitVec 8 × Port)) (ops : List Op)
    (hops : (new maxEntries pubIpAddrPre pwrSaveIfs algPorts).Legal ops) :
    Refines (ops.foldl step (new maxEntries pubIpAddrPre pwrSaveIfs algPorts))
      maxEntries :=
  ((Inv.new maxEntries pubIpAddrPre pwrSaveIfs algPorts).run hops).refines

theorem restored_refines :
    let rule : NatTableEntry :=
      { NatTableEntry.empty with
        privateIp := 0xC0A80102, privatePort := 4000, targetIp := 0x08080808
        targetPort := 53, publicPort := 4000, protocol := 17 }
    let reply : NewTblReply :=
      { tbl := some ⟨1, Nat.one_ne_zero⟩
        ruleHdl := fun cnt => if cnt = 0 then some 7 else none
        fresh := fresh_first }
    Refines
      ([.addTable 0x0A000001 reply, .addEntry rule (some 5),
          .deleteTable 0x0A000001 true, .addTable 0x0A000001 reply,
          .delEntriesOnClntDiscon 0xC0A80102, .deleteEntry rule].foldl step
        (new 4 0 [] [])) 4 :=
  run_refines 4 0 [] [] _ ⟨rfl, trivial, trivial, rfl, trivial,
    (by decide : (17 : BitVec 8) ≠ 0), trivial⟩

end NatCache

end Axon7.Conntrack
