import GpsdJson.Unit.Process

/-!
# Units, peers and sockets

The driver keeps its units in the list `s_clock_units`.  A unit is shared by the primary
peer with unit number `u` and the secondary PPS peer with unit number `u + 128`:
`gpsd_start` finds or allocates the unit and counts the peer in its `refcount`, and
`gpsd_shutdown` uncounts it and frees the unit when no peer is left.  The primary peer's
timer connects the unit to GPSD: `gpsd_init_socket` opens a socket and starts a
non-blocking connect, held in `up->fdt`; `gpsd_test_socket` waits for it and moves it to
the peer's `pp->io.fd`, registered with the I/O engine; `gpsd_stop_socket` closes it.

The model keeps the unit list with an allocation number for each unit (its address), the
refclock data of the started peers, and the descriptors: socket `k` is the `k`-th socket the
driver opened, and the model counts how often each is closed and whether it is registered.
The outcomes of `stat`, `socket`, `fcntl`, `connect`, `pselect`, `getsockopt` and
`io_addclock` are the events' parameters.  The socket functions log their failures through
`syslogok`, which the unit's `logthrottle` and the peer's `CLK_FLAG3` decide, and the
primary peer's timer counts the throttle down.

* `gpsdShutdown_secondary_keeps_ppsPeer`: shutting down the secondary peer leaves
  `up->pps_peer` pointing to it;
* `gpsdShutdown_leaves_sockets`: shutting down the only peer of a unit leaves its socket
  open and registered, and shutting down a primary peer next to a secondary one closes the
  pending socket but leaves it in `up->fdt`, to be closed again.
-/

namespace GpsdJson

/-! ### The world -/

/-- A started peer's refclock data as the driver uses it: the unit it points to (by the
unit's allocation number), the descriptor of its I/O structure (`-1` for none), and the
`CLK_FLAG3` bit of its `sloppyclockflag`, which lets every message of the driver through
the log throttle. -/
structure Proc where
  unitptr : Option Nat
  ioFd : Int
  clkFlag3 : Bool
  deriving DecidableEq, Repr

/-- The sockets the driver opened: socket `k` is the `k`-th; how often each was closed, and
whether it is registered with the I/O engine. -/
structure Fds where
  opened : Nat
  closes : Nat → Nat
  registered : Nat → Bool

/-- `close`. -/
def Fds.close (f : Fds) (fd : Int) : Fds :=
  { f with closes := Function.update f.closes fd.toNat (f.closes fd.toNat + 1) }

/-- `io_closeclock`: the descriptor leaves the I/O engine and is closed. -/
def Fds.closeClock (f : Fds) (fd : Int) : Fds :=
  { f.close fd with registered := Function.update f.registered fd.toNat false }

/-- A successful `io_addclock`. -/
def Fds.addClock (f : Fds) (fd : Int) : Fds :=
  { f with registered := Function.update f.registered fd.toNat true }

/-- The driver's global state and what it shares with the refclock framework and the
system: the number of addresses `gpsd_init_check` resolved for GPSD (none: `s_gpsd_addr` is
`NULL`), the unit list with the allocation number of each unit, the next allocation number,
the started peers that are not shut down with their refclock data, and the sockets. -/
structure World where
  naddr : Nat
  units : List (Nat × GpsdUnit)
  nextUnit : Nat
  peers : List (PeerId × Proc)
  fds : Fds

/-- The world before any peer starts, with `naddr` addresses for GPSD. -/
def World.init (naddr : Nat) : World :=
  ⟨naddr, [], 0, [], ⟨0, fun _ => 0, fun _ => false⟩⟩

/-- The unit with allocation number `id` replaced by `up`. -/
def World.setUnit (w : World) (id : Nat) (up : GpsdUnit) : World :=
  { w with units := w.units.map fun p => if p.1 = id then (id, up) else p }

/-- The refclock data of `peer` replaced by `pp`. -/
def World.setProc (w : World) (peer : PeerId) (pp : Proc) : World :=
  { w with peers := w.peers.map fun p => if p.1 = peer then (peer, pp) else p }

/-- `s_gpsd_addr`, the first address. -/
def sAddr (naddr : Nat) : Option Nat :=
  if naddr = 0 then none else some 0

/-- `ai->ai_next`. -/
def aiNext (naddr : Nat) : Option Nat → Option Nat
  | some a => if a + 1 < naddr then some (a + 1) else none
  | none => none

/-! ### Sockets -/

/-- What the socket functions of a primary peer work on: the sockets, the unit and the
peer's refclock data. -/
structure Link where
  fds : Fds
  up : GpsdUnit
  pp : Proc

/-- `syslogok` for a peer whose `CLK_FLAG3` is `clkFlag3`, on the unit's `logthrottle`
`throttle`: whether the message may be logged, and the new `logthrottle`. -/
def syslogok (clkFlag3 : Bool) (throttle : Nat) : Bool × Nat :=
  let res := clkFlag3 || throttle = 0 || throttle = logthrottle
  (res, if res then logthrottle else throttle)

theorem syslogok_snd (clkFlag3 : Bool) (throttle : Nat) :
  (syslogok clkFlag3 throttle).2
    = if (syslogok clkFlag3 throttle).1 then logthrottle else throttle
  := rfl

/-- A message of a socket function, `if (syslogok(pp, up)) msyslog(...)`: the text is not
modelled, the throttle is. -/
def Link.logMsg (l : Link) : Link :=
  { l with up := { l.up with logthrottle := (syslogok l.pp.clkFlag3 l.up.logthrottle).2 } }

/-- The outcome of a non-blocking `connect`. -/
inductive Connect where
  | ok
  | inProgress
  | fail
  deriving DecidableEq, Repr

/-- The outcomes a timer tick may meet: `socket`, `fcntl` and `connect` in
`gpsd_init_socket`; whether `pselect` finds the pending socket writable and whether
`getsockopt` fails or reports an error in `gpsd_test_socket`; and `io_addclock`. -/
structure Sys where
  socket : Bool
  fcntl : Bool
  connect : Connect
  ready : Bool
  soError : Bool
  addclock : Bool
  deriving DecidableEq, Repr

/-- The retry delay after a failed connection. -/
def retryLater (up : GpsdUnit) : GpsdUnit :=
  { up with tickover := up.tickpres, tickpres := min (up.tickpres + 5) tickoverHigh }

@[simp] theorem retryLater_fdt (up : GpsdUnit) :
  (retryLater up).fdt = up.fdt
  := rfl

/-- `gpsd_stop_socket`. -/
def gpsdStopSocket (l : Link) : Link :=
  let l := if l.pp.ioFd ≠ -1 then
      let l := l.logMsg
      { l with fds := l.fds.closeClock l.pp.ioFd, pp := { l.pp with ioFd := -1 } }
    else l
  { l with up := stopSocketUnit l.up }

/-- The `no_socket` exit of `gpsd_init_socket`. -/
def initNoSocket (l : Link) : Link :=
  let fds := if l.pp.ioFd ≠ -1 then l.fds.close l.pp.ioFd else l.fds
  let fds := if l.up.fdt ≠ -1 then fds.close l.up.fdt else fds
  ⟨fds, retryLater { l.up with fdt := -1 }, { l.pp with ioFd := -1 }⟩

/-- `gpsd_init_socket`, with `naddr` addresses for GPSD.  `setsockopt(TCP_NODELAY)` is
taken to succeed: its failure only logs, and `Sys` does not carry it. -/
def gpsdInitSocket (naddr : Nat) (sys : Sys) (l : Link) : Link :=
  let ai := if l.up.addr = none then sAddr naddr else l.up.addr
  let l := { l with up := { l.up with addr := aiNext naddr ai } }
  if !sys.socket then initNoSocket (Link.logMsg { l with up := { l.up with fdt := -1 } })
  else
    let l := { l with fds := { l.fds with opened := l.fds.opened + 1 },
                      up := { l.up with fdt := l.fds.opened } }
    if !sys.fcntl then initNoSocket l.logMsg
    else
      match sys.connect with
      | .inProgress => l
      | .fail => initNoSocket l.logMsg
      | .ok =>
        let l := { l with pp := { l.pp with ioFd := l.up.fdt }, up := { l.up with fdt := -1 } }
        if sys.addclock then { l with fds := l.fds.addClock l.pp.ioFd }
        else initNoSocket l.logMsg

/-- The `no_socket` exit of `gpsd_test_socket`. -/
def testNoSocket (l : Link) : Link :=
  let fds := if l.up.fdt ≠ -1 then l.fds.close l.up.fdt else l.fds
  { l with fds := fds, up := retryLater { l.up with fdt := -1 } }

/-- `gpsd_test_socket`. -/
def gpsdTestSocket (sys : Sys) (l : Link) : Link :=
  if !sys.ready then l
  else
    let l := { l with up := { l.up with tickover := tickoverLow } }
    if sys.soError then testNoSocket l.logMsg
    else
      let l := { l with pp := { l.pp with ioFd := l.up.fdt }, up := { l.up with fdt := -1 } }
      if sys.addclock then { l with fds := l.fds.addClock l.pp.ioFd }
      else testNoSocket l.logMsg

/-- `timer_primary`, with `naddr` addresses for GPSD.  The version request it writes to a
connected socket changes no descriptor. -/
def timerPrimary (naddr : Nat) (sys : Sys) (l : Link) : Link :=
  let l := { l with up := { l.up with logthrottle := l.up.logthrottle - 1,
                                      tickover := l.up.tickover - 1 } }
  match l.up.tickover with
  | 4 => if l.pp.ioFd ≠ -1 then l else if l.up.fdt ≠ -1 then gpsdTestSocket sys l else l
  | 0 =>
    if l.pp.ioFd ≠ -1 then gpsdStopSocket l
    else if l.up.fdt ≠ -1 then gpsdTestSocket sys l
    else if naddr ≠ 0 then gpsdInitSocket naddr sys l
    else l
  | _ => if l.pp.ioFd = -1 ∧ l.up.fdt ≠ -1 then gpsdTestSocket sys l else l

/-- `timer_secondary`.  The `FLAG_PPS` bit it clears is peer state outside the unit. -/
def timerSecondary (up : GpsdUnit) : GpsdUnit :=
  { up with ppscount2 := up.ppscount2 - 1 }

/-! ### Entry points -/

/-- `gpsd_start` of `peer` with unit number `unit`, configured with operation mode
`cfgMode`; `device` is the device name when it names a character device (`none` when
naming it or `stat` fails).  The result says whether the start succeeded.  A failed start
of a new unit still uses an allocation.  The refclock framework starts a peer with its clock
flags clear; `refclockControl` sets them. -/
def gpsdStart (w : World) (unit : Nat) (peer : PeerId) (cfgMode : Nat)
    (device : Option (List UInt8)) : World × Bool :=
  if w.naddr = 0 then (w, false)
  else
    match w.units.find? (fun p => p.2.unit = unit % 128) with
    | none =>
      match device with
      | none => ({ w with nextUnit := w.nextUnit + 1 }, false)
      | some dev =>
        let up := { GpsdUnit.zero with refcount := 1, unit := unit % 128, fdt := -1,
                                       addr := sAddr w.naddr, tickpres := tickoverLow,
                                       device := dev }
        ({ w with units := w.units ++ [(w.nextUnit, startOpmode up unit peer cfgMode)],
                  nextUnit := w.nextUnit + 1,
                  peers := w.peers ++ [(peer, ⟨some w.nextUnit, -1, false⟩)] }, true)
    | some (id, up) =>
      let up := { up with refcount := up.refcount + 1 }
      if up.addr = none then
        let up := { up with refcount := up.refcount - 1 }
        if up.refcount = 0 then ({ w with units := w.units.filter (·.1 ≠ id) }, false)
        else (w.setUnit id up, false)
      else
        ({ w.setUnit id (startOpmode up unit peer cfgMode) with
            peers := w.peers ++ [(peer, ⟨some id, -1, false⟩)] }, true)

/-- `gpsd_shutdown` of `peer`; the refclock framework then frees the peer's refclock data. -/
def gpsdShutdown (w : World) (peer : PeerId) : World :=
  match w.peers.lookup peer with
  | none => w
  | some pp =>
    let w := { w with peers := w.peers.filter (·.1 ≠ peer) }
    match pp.unitptr with
    | none => w
    | some id =>
      match w.units.lookup id with
      | none => w
      | some up =>
        let fds :=
          if up.ppsPeer = none ∨ up.ppsPeer = some peer then w.fds
          else
            let fds := if pp.ioFd ≠ -1 then w.fds.closeClock pp.ioFd else w.fds
            if up.fdt ≠ -1 then fds.close up.fdt else fds
        let up := { up with refcount := up.refcount - 1 }
        let w := { w with fds := fds }
        if up.refcount = 0 then { w with units := w.units.filter (·.1 ≠ id) }
        else w.setUnit id up

/-- `refclock_control` of `peer`: the refclock framework stores the peer's clock flags (here
`CLK_FLAG3`, `clkFlag3`) and fudge times `fudge1` and `fudge2`, and then calls
`gpsd_control`; the peer is configured for operation mode `cfgMode`. -/
def refclockControl (w : World) (peer : PeerId) (cfgMode : Nat) (fudge1 fudge2 : LFp)
    (clkFlag3 : Bool) : World :=
  match w.peers.lookup peer with
  | none => w
  | some pp =>
    let w := w.setProc peer { pp with clkFlag3 := clkFlag3 }
    match pp.unitptr with
    | none => w
    | some id =>
      match w.units.lookup id with
      | none => w
      | some up => w.setUnit id (gpsdControl up peer cfgMode fudge1 fudge2)

/-- `gpsd_timer` of `peer`. -/
def gpsdTimer (w : World) (peer : PeerId) (sys : Sys) : World :=
  match w.peers.lookup peer with
  | none => w
  | some pp =>
    match pp.unitptr with
    | none => w
    | some id =>
      match w.units.lookup id with
      | none => w
      | some up =>
        if up.ppsPeer = some peer then w.setUnit id (timerSecondary up)
        else
          let l := timerPrimary w.naddr sys ⟨w.fds, up, pp⟩
          { (w.setUnit id l.up).setProc peer l.pp with fds := l.fds }

/-- The part of `gpsd_receive` that concerns the connection: data arrived, so the next
live check is a full timeout away.  The line assembly and the records are modelled by
`gpsdReceive` and `gpsdParse`. -/
def gpsdReceiveTick (w : World) (peer : PeerId) : World :=
  match w.peers.lookup peer with
  | none => w
  | some pp =>
    match pp.unitptr with
    | none => w
    | some id =>
      match w.units.lookup id with
      | none => w
      | some up => w.setUnit id { up with tickover := tickoverLow }

/-! ### Runs -/

/-- A call of the driver by the refclock framework. -/
inductive LifeEvent where
  | start (unit : Nat) (peer : PeerId) (cfgMode : Nat) (device : Option (List UInt8))
  | shutdown (peer : PeerId)
  | timer (peer : PeerId) (sys : Sys)
  | receive (peer : PeerId)
  | control (peer : PeerId) (cfgMode : Nat) (fudge1 fudge2 : LFp) (clkFlag3 : Bool)

/-- Whether `peer` is started and not yet shut down. -/
def World.live (w : World) (peer : PeerId) : Bool :=
  w.peers.any (·.1 == peer)

/-- What the refclock framework guarantees of a call: a peer is started only when it is not
live, and shut down, ticked or fed data only when it is. -/
def LifeEvent.allowed (w : World) : LifeEvent → Bool
  | .start _ peer _ _ => !w.live peer
  | .shutdown peer | .timer peer _ | .receive peer | .control peer .. => w.live peer

/-- One call. -/
def LifeEvent.step (w : World) : LifeEvent → World
  | .start unit peer cfgMode device => (gpsdStart w unit peer cfgMode device).1
  | .shutdown peer => gpsdShutdown w peer
  | .timer peer sys => gpsdTimer w peer sys
  | .receive peer => gpsdReceiveTick w peer
  | .control peer cfgMode fudge1 fudge2 clkFlag3 =>
    refclockControl w peer cfgMode fudge1 fudge2 clkFlag3

/-- The world after the calls `es` from `w`, or `none` when the refclock framework may not
make one of them. -/
def lifeRun (w : World) : List LifeEvent → Option World
  | [] => some w
  | e :: es => if e.allowed w then lifeRun (e.step w) es else none

/-! ### Two defects -/

/-- `gpsd_shutdown` of the secondary peer leaves `up->pps_peer` pointing to it.  The primary
peer `1` (unit 0) and the secondary peer `2` (unit 128) start, and the secondary one is shut
down: the unit stays listed with one peer and still names peer `2`, no longer started, as
its secondary peer, which `gpsd_parse` feeds and the primary peer's `gpsd_shutdown` reads. -/
theorem gpsdShutdown_secondary_keeps_ppsPeer :
    ∃ w, lifeRun (World.init 1) [.start 0 1 0 (some (cbytes "/dev/gps0")),
        .start 128 2 0 (some (cbytes "/dev/gps0")), .shutdown 2] = some w ∧
      (w.units.map fun p => (p.2.refcount, p.2.ppsPeer)) = [(1, some 2)] ∧ w.live 2 = false
  := ⟨_, rfl, by decide⟩

/-- `gpsd_shutdown` closes a unit's sockets only when the unit has a secondary peer and the
peer shut down is not that one.  A primary peer alone connects (socket `0`, registered) and
is shut down: no peer and no unit are left, and socket `0` is neither closed nor
unregistered.  With two addresses for GPSD, a primary peer next to a secondary one starts a
connect (socket `0` pending in `up->fdt`) and is shut down: socket `0` is closed but stays in
`up->fdt`; a new primary peer's timer tests it and, on a socket error, closes it again. -/
theorem gpsdShutdown_leaves_sockets :
    ∃ w₁ w₂,
      lifeRun (World.init 1) [.start 0 1 0 (some (cbytes "/dev/gps0")),
        .timer 1 ⟨true, true, .ok, false, false, true⟩, .shutdown 1] = some w₁ ∧
      lifeRun (World.init 2) [.start 0 1 0 (some (cbytes "/dev/gps0")),
        .start 128 2 0 (some (cbytes "/dev/gps0")),
        .timer 1 ⟨true, true, .inProgress, false, false, true⟩, .shutdown 1,
        .start 0 3 0 (some (cbytes "/dev/gps0")),
        .timer 3 ⟨true, true, .ok, true, true, true⟩] = some w₂ ∧
      (w₁.peers.length = 0 ∧ w₁.units.length = 0 ∧ w₁.fds.opened = 1 ∧ w₁.fds.closes 0 = 0 ∧
        w₁.fds.registered 0 = true) ∧
      w₂.fds.opened = 1 ∧ w₂.fds.closes 0 = 2
  := ⟨_, _, rfl, rfl, by decide⟩

end GpsdJson
