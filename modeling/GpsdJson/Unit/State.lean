import GpsdJson.Json.Number

/-!
# The clock unit

`struct gpsd_unit` holds everything the driver knows about one GPS device: the shared
bookkeeping of its primary and secondary peers, the sockets, the partial line being
assembled, and the timing state that the records feed: the latest PPS and serial time
stamps, the flags that say which of them are valid and not yet used, and the tallies.

A stored time stamp is `Stamped`: its value, and as ghost state the index of the record it
was read from.  The C unit holds only the value; the index lets the invariants say which
record a sample comes from.
-/

namespace GpsdJson

/-- A time stamp as the unit stores it, with the index of the record it was read from. -/
structure Stamped where
  val : LFp
  src : Nat
  deriving DecidableEq, Repr

/-- `x -= fudge`. -/
def Stamped.sub (x : Stamped) (fudge : LFp) : Stamped :=
  ⟨x.val - fudge, x.src⟩

@[simp] theorem Stamped.sub_src (x : Stamped) (fudge : LFp) :
  (x.sub fudge).src = x.src
  := rfl

/-- Peers are told apart by an identifier; the driver compares `peerT` pointers. -/
abbrev PeerId := Nat

/-- The routines outside the driver's sources whose results the driver reads while it
processes records: `strptime` with libntp's calendar conversion, as the NTP seconds of the
date and time it read from the front of a text and the number of bytes it read; and the
floating-point estimate of the serial precision from the text of the `ept` member
(`strtod`, `frexp`), as the `xlog2` handed to `clamped_precision`. -/
structure Ext where
  strptime : List UInt8 → Option (Int × Nat)
  eptLog2 : Option (List UInt8) → Int

/-- `struct gpsd_unit`, without the link of the unit list (the lifecycle model keeps the
list), the log name, and the parse context (a record's context is passed to the functions
that read it).  `line` is `buffer[0 .. buflen)`.  The tallies `tc_*` are `unsigned int`
and wrap as `UInt32` does.  The countdowns `tickover`, `tickpres` and `logthrottle`, also
`unsigned int`, are counted down only while positive and set only to constants no larger
than `TICKOVER_HIGH` and `LOGTHROTTLE`, so a `Nat` holds them exactly. -/
structure GpsdUnit where
  unit : Nat
  refcount : Nat
  ppsPeer : Option PeerId
  mode : Nat
  device : List UInt8
  protoVersion : Nat
  ppsLocal : Stamped
  ppsStamp : Stamped
  ppsRecvt : Stamped
  ppsStamp2 : Stamped
  ppsRecvt2 : Stamped
  ppscount : Nat
  ppscount2 : Nat
  ibtLocal : Stamped
  ibtStamp : Stamped
  ibtRecvt : Stamped
  ibtPrec : Int
  ppsPrec : Int
  ppsFudge : LFp
  ppsFudge2 : LFp
  ibtFudge : LFp
  flNosync : Bool
  flIbt : Bool
  flPps : Bool
  flPps2 : Bool
  flRawibt : Bool
  flVers : Bool
  flWatch : Bool
  pfNsec : Bool
  pfToff : Bool
  fdt : Int
  addr : Option Nat
  tickover : Nat
  tickpres : Nat
  tcRecv : UInt32
  tcBreply : UInt32
  tcNosync : UInt32
  tcIbtRecv : UInt32
  tcIbtUsed : UInt32
  tcPpsRecv : UInt32
  tcPpsUsed : UInt32
  logthrottle : Nat
  line : List UInt8
  deriving DecidableEq, Repr

/-- The unit as `emalloc_zero` returns it. -/
def GpsdUnit.zero : GpsdUnit where
  unit := 0
  refcount := 0
  ppsPeer := none
  mode := 0
  device := []
  protoVersion := 0
  ppsLocal := ⟨0, 0⟩
  ppsStamp := ⟨0, 0⟩
  ppsRecvt := ⟨0, 0⟩
  ppsStamp2 := ⟨0, 0⟩
  ppsRecvt2 := ⟨0, 0⟩
  ppscount := 0
  ppscount2 := 0
  ibtLocal := ⟨0, 0⟩
  ibtStamp := ⟨0, 0⟩
  ibtRecvt := ⟨0, 0⟩
  ibtPrec := 0
  ppsPrec := 0
  ppsFudge := 0
  ppsFudge2 := 0
  ibtFudge := 0
  flNosync := false
  flIbt := false
  flPps := false
  flPps2 := false
  flRawibt := false
  flVers := false
  flWatch := false
  pfNsec := false
  pfToff := false
  fdt := 0
  addr := none
  tickover := 0
  tickpres := 0
  tcRecv := 0
  tcBreply := 0
  tcNosync := 0
  tcIbtRecv := 0
  tcIbtUsed := 0
  tcPpsRecv := 0
  tcPpsUsed := 0
  logthrottle := 0
  line := []

/-- A tally counted up: its value grows by one, and wraps to zero past `UINT_MAX`. -/
theorem tally_succ (x : UInt32) :
  (x + 1).toNat = (x.toNat + 1) % 2 ^ 32
  := rfl

theorem tally_succ_le (x : UInt32) :
  (x + 1).toNat ≤ x.toNat + 1
  := by
  rw [tally_succ]
  omega

/-- The evaluation that fed a sample: `eval_serial` and `eval_strict` feed the primary
peer, `eval_pps_secondary` the secondary one. -/
inductive Feed where
  | serial
  | strict
  | ppsSecondary
  deriving DecidableEq, Repr

/-- A call of `add_clock_sample`: the evaluation that made it, the reference time stamp and
the receive time handed to `refclock_process_offset`, and the precision set on the peer. -/
structure Sample where
  feed : Feed
  stamp : Stamped
  recvt : Stamped
  prec : Int
  deriving DecidableEq, Repr

/-- Whether a sample goes to the primary peer. -/
def Sample.primary (s : Sample) : Bool :=
  s.feed != .ppsSecondary

end GpsdJson
