import Axon7.Conntrack.Closed

/-!
# The WAN, whatever else happens

The listener as a machine of four fields: whether the WAN is up, its address, the handle
of the table and the address of that. Only the WAN events move it. Connections, clients
and interfaces come in between in any order and change the cache; they do not change what
the WAN events make of the four.
-/

namespace Axon7.Conntrack

/-- What the WAN events are about. -/
@[ext]
structure WanState where
  wanUp : Bool
  wanIpaddr : Ip
  natTableHdl : Nat
  pubIpAddr : Ip

namespace WanState

/-- The WAN goes down if the table has its address. -/
def down (w : WanState) (ip : Ip) : WanState :=
  if w.natTableHdl = 0 ∨ w.pubIpAddr ≠ ip then w else ⟨false, 0, 0, 0⟩

/-- The WAN comes up, with the table that there is. A cache of no entries asks for none. -/
def up (w : WanState) (maxEntries : Nat) (ip : Ip) (tbl : Option TblHdl) : WanState :=
  if maxEntries % 2 ^ 16 = 0 then { w with wanUp := true, wanIpaddr := ip }
  else
    match tbl with
    | none => ⟨true, ip, 0, w.pubIpAddr⟩
    | some hdl => ⟨true, ip, hdl, ip⟩

def step (maxEntries : Nat) (w : WanState) : CtEvent → WanState
  | .wanUp ip _ reply =>
    if ip = 0 ∨ (w.wanUp = true ∧ w.wanIpaddr = ip) then w
    else (if w.wanUp then w.down w.wanIpaddr else w).up maxEntries ip reply.tbl
  | .wanDown ip => if w.wanUp then w.down ip else w
  | _ => w

end WanState

namespace CtListener

variable {s : CtListener} {n : Nat} {conn : Option Conn} {c : NatCache}

end CtListener

end Axon7.Conntrack
