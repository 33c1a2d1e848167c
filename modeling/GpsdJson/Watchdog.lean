import GpsdJson.UnitList

/-!
# The watchdog of the primary peer's timer

`timer_primary` counts `up->tickover` down once a second, and `gpsd_receive` sets it back to
`TICKOVER_LOW` whenever data arrives.  When the countdown reaches zero on a connected peer,
the timer closes the connection with `gpsd_stop_socket`, which starts the retry countdown
at `up->tickpres`.

* `timerRun_watchdog`: a connected peer that receives no data keeps its socket, and no
  descriptor changes, for `max tickover 1 - 1` ticks, whatever the system calls do; the
  next tick closes the socket through `io_closeclock` and sets the countdown to `tickpres`.
* `watchRun_keeps`: a connected peer whose data comes in time, the ticks before the first
  data fewer than the countdown and those between later data fewer than `TICKOVER_LOW`,
  keeps its socket, whatever the system calls do.
* `lifeRun_ticks`: along every run, every unit's countdown is at most `TICKOVER_HIGH` and
  its retry delay `tickpres` between `TICKOVER_LOW` and `TICKOVER_HIGH`.
* `lifeRun_watchdog`: along every run, a connected peer whose connection delivers no more
  data loses it within `TICKOVER_HIGH` ticks of its timer.
* `logRun_throttled`: without `CLK_FLAG3`, the log messages `syslogok` lets through come in
  bursts within one tick, at least `LOGTHROTTLE` ticks apart.
* `lifeRun_logRun`: along every run, `logRun` over the ticks of a unit's primary peer's
  timer reports exactly the messages its socket functions print, and `lifeRun_throttled`:
  without `CLK_FLAG3` those come at least `LOGTHROTTLE` ticks apart.
-/

namespace GpsdJson

/-- The primary peer's timer ticking with the outcomes `syss`, with no data arriving. -/
def timerRun (naddr : Nat) (l : Link) (syss : List Sys) : Link :=
  syss.foldl (fun l sys => timerPrimary naddr sys l) l

@[simp] theorem timerRun_nil (naddr : Nat) (l : Link) :
  timerRun naddr l [] = l
  := rfl

@[simp] theorem timerRun_cons (naddr : Nat) (l : Link) (sys : Sys) (syss : List Sys) :
  timerRun naddr l (sys :: syss) = timerRun naddr (timerPrimary naddr sys l) syss
  := rfl

section Countdown

variable {l : Link}

/-- A tick on a connected peer before its countdown runs out only counts down. -/
theorem timerPrimary_counts (naddr : Nat) (sys : Sys) (hio : l.pp.ioFd ≠ -1)
    (ht : 2 ≤ l.up.tickover) :
  timerPrimary naddr sys l
    = { l with up := { l.up with logthrottle := l.up.logthrottle - 1,
                                 tickover := l.up.tickover - 1 } }
  := by
  unfold timerPrimary
  dsimp only
  split
  · rw [if_pos hio]
  · exfalso; omega
  · rw [if_neg fun h => hio h.1]

/-- A tick on a connected peer whose countdown runs out stops the socket. -/
theorem timerPrimary_expires (naddr : Nat) (sys : Sys) (hio : l.pp.ioFd ≠ -1)
    (ht : l.up.tickover ≤ 1) :
  timerPrimary naddr sys l
    = gpsdStopSocket { l with up := { l.up with logthrottle := l.up.logthrottle - 1,
                                                tickover := 0 } }
  := by
  have h0 : l.up.tickover - 1 = 0 := by omega
  unfold timerPrimary
  dsimp only
  rw [h0]
  dsimp only
  rw [if_pos hio, ← h0]

/-- `gpsd_stop_socket` of a connected peer closes its socket through `io_closeclock` and
starts the retry countdown at `tickpres`. -/
theorem gpsdStopSocket_closes (hio : l.pp.ioFd ≠ -1) :
  (gpsdStopSocket l).pp.ioFd = -1 ∧ (gpsdStopSocket l).fds = l.fds.closeClock l.pp.ioFd ∧
    (gpsdStopSocket l).up.tickover = l.up.tickpres
  := by
  unfold gpsdStopSocket
  dsimp only
  rw [if_pos hio]
  exact ⟨rfl, rfl, rfl⟩

end Countdown

/-- While the countdown of a connected peer that receives no data has not run out, its
timer only counts down. -/
theorem timerRun_counts (naddr : Nat) (l : Link) (syss : List Sys) (hio : l.pp.ioFd ≠ -1)
    (hlen : syss.length < max l.up.tickover 1) :
  timerRun naddr l syss
    = { l with up := { l.up with logthrottle := l.up.logthrottle - syss.length,
                                 tickover := l.up.tickover - syss.length } }
  := by
  induction syss generalizing l with
  | nil => rfl
  | cons sys syss ih =>
    rw [List.length_cons] at hlen
    rw [timerRun_cons, timerPrimary_counts naddr sys hio (by omega), ih]
    · simp only [List.length_cons, Nat.sub_sub, Nat.add_comm 1]
    · exact hio
    · dsimp only; omega

/-- The tick at which the countdown of a connected peer that receives no data runs out, the
first when it is already zero, stops the socket. -/
theorem timerRun_expires (naddr : Nat) (l : Link) (syss : List Sys) (hio : l.pp.ioFd ≠ -1)
    (hlen : syss.length = max l.up.tickover 1) :
  timerRun naddr l syss
    = gpsdStopSocket { l with up := { l.up with logthrottle := l.up.logthrottle - syss.length,
                                                tickover := 0 } }
  := by
  induction syss generalizing l with
  | nil => exact absurd hlen (by simp only [List.length_nil]; omega)
  | cons sys syss ih =>
    rw [List.length_cons] at hlen
    rw [timerRun_cons]
    by_cases ht : 2 ≤ l.up.tickover
    · rw [timerPrimary_counts naddr sys hio ht, ih]
      · simp only [List.length_cons, Nat.sub_sub, Nat.add_comm 1]
      · exact hio
      · dsimp only; omega
    · obtain rfl : syss = [] := List.length_eq_zero.mp (by omega)
      exact timerPrimary_expires naddr sys hio (by omega)


/-- A connected peer that receives no data keeps its socket, and no descriptor changes, as
long as the countdown `tickover` has not run out, whatever the system calls do; the tick at
which it runs out (the first when it is already zero) closes the socket through
`io_closeclock` and sets the countdown to the retry delay `tickpres`. -/
theorem timerRun_watchdog (naddr : Nat) (l : Link) (syss : List Sys) (hio : l.pp.ioFd ≠ -1) :
  (syss.length < max l.up.tickover 1 →
    (timerRun naddr l syss).pp = l.pp ∧ (timerRun naddr l syss).fds = l.fds) ∧
  (syss.length = max l.up.tickover 1 →
    (timerRun naddr l syss).pp.ioFd = -1 ∧
      (timerRun naddr l syss).fds = l.fds.closeClock l.pp.ioFd ∧
      (timerRun naddr l syss).up.tickover = l.up.tickpres)
  := by
  refine ⟨fun hlen => ?_, fun hlen => ?_⟩
  · rw [timerRun_counts naddr l syss hio hlen]
    exact ⟨rfl, rfl⟩
  · rw [timerRun_expires naddr l syss hio hlen]
    exact gpsdStopSocket_closes hio

/-- A peer connected on socket `3` with two seconds left loses the socket on the second
tick, and waits fifteen seconds before it connects again. -/
theorem timerRun_watchdog_two :
  (⟨⟨4, fun _ => 0, fun _ => false⟩, { GpsdUnit.zero with tickover := 2, tickpres := 15 },
      ⟨some 0, 3, false⟩⟩ : Link).pp.ioFd ≠ -1 ∧
    (timerRun 1 ⟨⟨4, fun _ => 0, fun _ => false⟩,
        { GpsdUnit.zero with tickover := 2, tickpres := 15 }, ⟨some 0, 3, false⟩⟩
      (List.replicate 2 ⟨true, true, .ok, true, false, true⟩)).pp.ioFd = -1 ∧
    (timerRun 1 ⟨⟨4, fun _ => 0, fun _ => false⟩,
        { GpsdUnit.zero with tickover := 2, tickpres := 15 }, ⟨some 0, 3, false⟩⟩
      (List.replicate 2 ⟨true, true, .ok, true, false, true⟩)).up.tickover = 15
  := ⟨by decide,
    ((timerRun_watchdog 1 ⟨⟨4, fun _ => 0, fun _ => false⟩,
        { GpsdUnit.zero with tickover := 2, tickpres := 15 }, ⟨some 0, 3, false⟩⟩
      (List.replicate 2 ⟨true, true, .ok, true, false, true⟩) (by decide)).2 rfl).1,
    ((timerRun_watchdog 1 ⟨⟨4, fun _ => 0, fun _ => false⟩,
        { GpsdUnit.zero with tickover := 2, tickpres := 15 }, ⟨some 0, 3, false⟩⟩
      (List.replicate 2 ⟨true, true, .ok, true, false, true⟩) (by decide)).2 rfl).2.2⟩

/-! ### A connection that delivers data -/

/-- What reaches the primary peer's connection: a tick of its timer, with the outcomes of
the system calls, or data, which `gpsd_receive` answers by setting the countdown back to
`TICKOVER_LOW`. -/
inductive WatchEvent where
  | tick (sys : Sys)
  | data

/-- The connection after the events `es`. -/
def watchRun (naddr : Nat) (l : Link) : List WatchEvent → Link
  | [] => l
  | .tick sys :: es => watchRun naddr (timerPrimary naddr sys l) es
  | .data :: es => watchRun naddr { l with up := { l.up with tickover := tickoverLow } } es

/-- The numbers of ticks in the stretches without data: before the first data, between
each data and the next, and after the last. -/
def gaps : List WatchEvent → List Nat
  | [] => [0]
  | .tick _ :: es => ((gaps es).headD 0 + 1) :: (gaps es).tail
  | .data :: es => 0 :: gaps es

/-- The timer never closes a connection whose data comes in time: when the ticks before
the first data are fewer than the countdown, and those of every later stretch fewer than
`TICKOVER_LOW`, the peer keeps its socket and no descriptor changes, whatever the system
calls do. -/
theorem watchRun_keeps (naddr : Nat) (l : Link) (es : List WatchEvent) (hio : l.pp.ioFd ≠ -1)
    (hfirst : (gaps es).headD 0 < max l.up.tickover 1)
    (hlater : ∀ g ∈ (gaps es).tail, g < tickoverLow) :
  (watchRun naddr l es).pp = l.pp ∧ (watchRun naddr l es).fds = l.fds
  := by
  induction es generalizing l with
  | nil => exact ⟨rfl, rfl⟩
  | cons e es ih =>
    cases e with
    | tick sys =>
      simp only [gaps, List.headD_cons, List.tail_cons] at hfirst hlater
      rw [watchRun, timerPrimary_counts naddr sys hio (by omega)]
      exact ih { l with up := { l.up with logthrottle := l.up.logthrottle - 1,
                                          tickover := l.up.tickover - 1 } } hio
        (by dsimp only; omega) hlater
    | data =>
      simp only [gaps, List.tail_cons] at hlater
      have hhead : (gaps es).headD 0 < tickoverLow := by
        cases hg : gaps es with
        | nil => exact Nat.succ_pos _
        | cons g gs => exact hlater g (by simp [hg])
      exact ih { l with up := { l.up with tickover := tickoverLow } } hio
        (by dsimp only; simp only [tickoverLow] at hhead ⊢; omega)
        (fun g hg => hlater g (List.mem_of_mem_tail hg))

/-- Data every nine ticks keeps the connection of a peer with one second left. -/
theorem watchRun_keeps_nine :
  (⟨⟨4, fun _ => 0, fun _ => false⟩, { GpsdUnit.zero with tickover := 1, tickpres := 15 },
      ⟨some 0, 3, false⟩⟩ : Link).pp.ioFd ≠ -1 ∧
    (gaps (.data :: List.replicate 9 (.tick ⟨true, true, .ok, true, false, true⟩))).headD 0
      < max (1 : Nat) 1 ∧
    (∀ g ∈ (gaps (.data :: List.replicate 9 (.tick ⟨true, true, .ok, true, false, true⟩))).tail,
      g < tickoverLow) ∧
    (watchRun 1 ⟨⟨4, fun _ => 0, fun _ => false⟩,
        { GpsdUnit.zero with tickover := 1, tickpres := 15 }, ⟨some 0, 3, false⟩⟩
      (.data :: List.replicate 9 (.tick ⟨true, true, .ok, true, false, true⟩))).pp
      = ⟨some 0, 3, false⟩
  := ⟨by decide, by decide, by decide,
    (watchRun_keeps 1 ⟨⟨4, fun _ => 0, fun _ => false⟩,
      { GpsdUnit.zero with tickover := 1, tickpres := 15 }, ⟨some 0, 3, false⟩⟩
      (.data :: List.replicate 9 (.tick ⟨true, true, .ok, true, false, true⟩)) (by decide)
      (by decide) (by decide)).1⟩

/-! ### The countdowns stay in range -/

/-- The watchdog countdown of `up` is at most `TICKOVER_HIGH`, its retry delay between
`TICKOVER_LOW` and `TICKOVER_HIGH`, and its log throttle at most `LOGTHROTTLE`. -/
structure Ticks (up : GpsdUnit) : Prop where
  tickover : up.tickover ≤ tickoverHigh
  low : tickoverLow ≤ up.tickpres
  high : up.tickpres ≤ tickoverHigh
  throttle : up.logthrottle ≤ logthrottle

section Link

variable {up : GpsdUnit} {l : Link}

/-- Starting the countdown at the retry delay and raising the delay by five, up to
`TICKOVER_HIGH`, as `gpsd_stop_socket` and the `no_socket` exits do. -/
theorem ticks_retry {up up' : GpsdUnit} (h : Ticks up) (ho : up'.tickover = up.tickpres)
    (hp : up'.tickpres = min (up.tickpres + 5) tickoverHigh)
    (ht : up'.logthrottle = up.logthrottle) :
  Ticks up'
  := by
  refine ⟨ho ▸ h.high, ?_, hp ▸ min_le_right _ _, ht ▸ h.throttle⟩
  rw [hp]
  exact le_min (by have := h.low; omega) (by decide)

/-- `syslogok` sets the throttle to `LOGTHROTTLE` or leaves it. -/
theorem Ticks.logMsg (h : Ticks l.up) :
  Ticks l.logMsg.up
  := by
  refine ⟨h.tickover, h.low, h.high, ?_⟩
  unfold Link.logMsg syslogok
  dsimp only
  split
  · exact le_rfl
  · exact h.throttle

theorem Ticks.stop (h : Ticks l.up) :
  Ticks (gpsdStopSocket l).up
  := by
  unfold gpsdStopSocket
  split
  · exact ticks_retry h.logMsg rfl rfl rfl
  · exact ticks_retry h rfl rfl rfl

theorem Ticks.initSocket (naddr : Nat) (sys : Sys) (h : Ticks l.up) :
  Ticks (gpsdInitSocket naddr sys l).up
  := by
  unfold gpsdInitSocket initNoSocket
  dsimp only
  by_cases hs : (!sys.socket) = true
  · rw [if_pos hs]; exact ticks_retry h.logMsg rfl rfl rfl
  rw [if_neg hs]
  by_cases hf : (!sys.fcntl) = true
  · rw [if_pos hf]; exact ticks_retry h.logMsg rfl rfl rfl
  rw [if_neg hf]
  cases sys.connect
  · by_cases ha : sys.addclock = true
    · rw [if_pos ha]; exact ⟨h.1, h.2, h.3, h.4⟩
    · rw [if_neg ha]; exact ticks_retry h.logMsg rfl rfl rfl
  · exact ⟨h.1, h.2, h.3, h.4⟩
  · exact ticks_retry h.logMsg rfl rfl rfl

theorem Ticks.testSocket (sys : Sys) (h : Ticks l.up) :
  Ticks (gpsdTestSocket sys l).up
  := by
  have hlow : tickoverLow ≤ tickoverHigh := by decide
  unfold gpsdTestSocket testNoSocket
  dsimp only
  by_cases hr : (!sys.ready) = true
  · rw [if_pos hr]; exact h
  rw [if_neg hr]
  by_cases he : sys.soError = true
  · rw [if_pos he]; exact ticks_retry h.logMsg rfl rfl rfl
  rw [if_neg he]
  by_cases ha : sys.addclock = true
  · rw [if_pos ha]; exact ⟨hlow, h.2, h.3, h.4⟩
  · rw [if_neg ha]; exact ticks_retry h.logMsg rfl rfl rfl

theorem Ticks.tick (naddr : Nat) (sys : Sys) (h : Ticks l.up) :
  Ticks (timerPrimary naddr sys l).up
  := by
  have h' : Ticks ({ l with up := { l.up with logthrottle := l.up.logthrottle - 1,
                                              tickover := l.up.tickover - 1 } } : Link).up :=
    ⟨(Nat.sub_le _ _).trans h.1, h.2, h.3, (Nat.sub_le _ _).trans h.4⟩
  obtain h | h | h | h := timerPrimary_cases naddr sys l <;> rw [h]
  · exact h'
  · exact h'.testSocket sys
  · exact h'.stop
  · exact h'.initSocket naddr sys

theorem Ticks.start (h : Ticks up) (unit : Nat) (peer : PeerId) (cfgMode : Nat) :
  Ticks (startOpmode up unit peer cfgMode)
  := by
  unfold startOpmode
  dsimp only
  split
  · exact ⟨h.1, h.2, h.3, h.4⟩
  · rw [enterOpmode_eq]
    exact ⟨h.1, h.2, h.3, h.4⟩

end Link

section World

variable {w : World}

theorem ticks_setUnit (h : ∀ p ∈ w.units, Ticks p.2) {id : Nat} {up : GpsdUnit} (hu : Ticks up) :
  ∀ p ∈ (w.setUnit id up).units, Ticks p.2
  := by
  intro p hp
  obtain ⟨p₀, hp₀, ⟨-, rfl⟩ | ⟨-, rfl⟩⟩ := mem_setEntry hp
  · exact hu
  · exact h _ hp₀

theorem ticks_start (h : ∀ p ∈ w.units, Ticks p.2) (unit : Nat) (peer : PeerId) (cfgMode : Nat)
    (device : Option (List UInt8)) :
  ∀ p ∈ (gpsdStart w unit peer cfgMode device).1.units, Ticks p.2
  := by
  unfold gpsdStart
  split
  · exact h
  split
  · split
    · exact h
    · intro p hp
      rcases List.mem_append.mp hp with hp | hp
      · exact h p hp
      · rw [List.mem_singleton.mp hp]
        exact Ticks.start
          ⟨Nat.zero_le _, le_rfl, show tickoverLow ≤ tickoverHigh by decide, Nat.zero_le _⟩ _ _ _
  · rename_i id up hfind
    have hu := h _ (List.mem_of_find?_eq_some hfind)
    dsimp only
    by_cases ha : up.addr = none
    · rw [if_pos ha]
      by_cases hz : up.refcount + 1 - 1 = 0
      · rw [if_pos hz]
        exact fun p hp => h p (List.mem_of_mem_filter hp)
      · rw [if_neg hz]
        exact ticks_setUnit h ⟨hu.1, hu.2, hu.3, hu.4⟩
    · rw [if_neg ha]
      have hu' : Ticks { up with refcount := up.refcount + 1 } := ⟨hu.1, hu.2, hu.3, hu.4⟩
      exact ticks_setUnit h (hu'.start _ _ _)

theorem ticks_shutdown (h : ∀ p ∈ w.units, Ticks p.2) (peer : PeerId) :
  ∀ p ∈ (gpsdShutdown w peer).units, Ticks p.2
  := by
  unfold gpsdShutdown
  split
  · exact h
  · dsimp only
    split
    · exact h
    · split
      · exact h
      · rename_i up hup
        have hu := h _ (mem_of_lookup_eq_some hup)
        by_cases hz : up.refcount - 1 = 0
        · rw [if_pos hz]
          exact fun p hp => h p (List.mem_of_mem_filter hp)
        · rw [if_neg hz]
          exact ticks_setUnit h ⟨hu.1, hu.2, hu.3, hu.4⟩

theorem ticks_timer (h : ∀ p ∈ w.units, Ticks p.2) (peer : PeerId) (sys : Sys) :
  ∀ p ∈ (gpsdTimer w peer sys).units, Ticks p.2
  := by
  unfold gpsdTimer
  split
  · exact h
  · split
    · exact h
    · split
      · exact h
      · rename_i up hup
        have hu : Ticks up := h _ (mem_of_lookup_eq_some hup)
        split
        · exact ticks_setUnit h ⟨hu.1, hu.2, hu.3, hu.4⟩
        · exact ticks_setUnit h (Ticks.tick w.naddr sys hu)

theorem ticks_receive (h : ∀ p ∈ w.units, Ticks p.2) (peer : PeerId) :
  ∀ p ∈ (gpsdReceiveTick w peer).units, Ticks p.2
  := by
  unfold gpsdReceiveTick
  split
  · exact h
  · split
    · exact h
    · split
      · exact h
      · rename_i up hup
        have hu := h _ (mem_of_lookup_eq_some hup)
        exact ticks_setUnit h ⟨show tickoverLow ≤ tickoverHigh by decide, hu.2, hu.3, hu.4⟩

theorem ticks_control (h : ∀ p ∈ w.units, Ticks p.2) (peer : PeerId) (cfgMode : Nat)
    (fudge1 fudge2 : LFp) (clkFlag3 : Bool) :
  ∀ p ∈ (refclockControl w peer cfgMode fudge1 fudge2 clkFlag3).units, Ticks p.2
  := by
  unfold refclockControl
  split
  · exact h
  · dsimp only
    split
    · exact h
    · split
      · exact h
      · rename_i up hup
        have hu := h _ (mem_of_lookup_eq_some hup)
        obtain ⟨_, _, _, _, _, _, _, _, hc⟩ := gpsdControl_eq up peer cfgMode fudge1 fudge2
        rw [hc]
        exact ticks_setUnit h ⟨hu.1, hu.2, hu.3, hu.4⟩

theorem ticks_run (h : ∀ p ∈ w.units, Ticks p.2) {es : List LifeEvent} {w' : World}
    (hrun : lifeRun w es = some w') :
  ∀ p ∈ w'.units, Ticks p.2
  := by
  induction es generalizing w with
  | nil => cases hrun; exact h
  | cons e es ih =>
    simp only [lifeRun] at hrun
    split at hrun
    · refine ih ?_ hrun
      cases e with
      | start unit peer cfgMode device => exact ticks_start h unit peer cfgMode device
      | shutdown peer => exact ticks_shutdown h peer
      | timer peer sys => exact ticks_timer h peer sys
      | receive peer => exact ticks_receive h peer
      | control peer cfgMode fudge1 fudge2 clkFlag3 =>
        exact ticks_control h peer cfgMode fudge1 fudge2 clkFlag3
    · cases hrun

/-- Every unit of a world reached from the start keeps its countdowns in range. -/
theorem Ticks.of_lifeRun {naddr : Nat} {es : List LifeEvent}
    (hrun : lifeRun (World.init naddr) es = some w) {p : Nat × GpsdUnit} (hp : p ∈ w.units) :
  Ticks p.2
  := ticks_run (fun p hp => absurd hp (List.not_mem_nil p)) hrun p hp

end World

/-- Along every run of calls from the start, every unit's watchdog countdown is at most
`TICKOVER_HIGH` and its retry delay between `TICKOVER_LOW` and `TICKOVER_HIGH`. -/
theorem lifeRun_ticks (naddr : Nat) (es : List LifeEvent) (w : World)
    (hrun : lifeRun (World.init naddr) es = some w) :
  ∀ p ∈ w.units, p.2.tickover ≤ tickoverHigh ∧ tickoverLow ≤ p.2.tickpres ∧
    p.2.tickpres ≤ tickoverHigh
  := fun _ hp =>
  have h := Ticks.of_lifeRun hrun hp
  ⟨h.1, h.2, h.3⟩

/-- A start, a failed connect, and the tick that retries. -/
theorem lifeRun_ticks_retry :
  ∃ w, lifeRun (World.init 1) [.start 0 1 0 (some (cbytes "/dev/gps0")),
      .timer 1 ⟨true, true, .fail, false, false, false⟩,
      .timer 1 ⟨true, true, .ok, false, false, true⟩] = some w ∧
    ∀ p ∈ w.units, p.2.tickover ≤ tickoverHigh ∧ tickoverLow ≤ p.2.tickpres ∧
      p.2.tickpres ≤ tickoverHigh
  := by
  have hrun : lifeRun (World.init 1) [.start 0 1 0 (some (cbytes "/dev/gps0")),
      .timer 1 ⟨true, true, .fail, false, false, false⟩,
      .timer 1 ⟨true, true, .ok, false, false, true⟩] = some _ := rfl
  exact ⟨_, hrun, lifeRun_ticks 1 _ _ hrun⟩

/-- Along every run of calls from the start, a connected peer of a unit whose connection
delivers no more data loses it within `TICKOVER_HIGH` ticks of its timer, whatever the system
calls do. -/
theorem lifeRun_watchdog (naddr : Nat) (es : List LifeEvent) (w : World)
    (hrun : lifeRun (World.init naddr) es = some w) (p : Nat × GpsdUnit) (hp : p ∈ w.units)
    (pp : Proc) (hio : pp.ioFd ≠ -1) (syss : List Sys) (hlen : tickoverHigh ≤ syss.length) :
  ∃ k ≤ tickoverHigh, (timerRun w.naddr ⟨w.fds, p.2, pp⟩ (syss.take k)).pp.ioFd = -1
  := by
  have hk : max p.2.tickover 1 ≤ tickoverHigh :=
    max_le (Ticks.of_lifeRun hrun hp).tickover (by decide)
  refine ⟨max p.2.tickover 1, hk, ?_⟩
  rw [timerRun_expires w.naddr ⟨w.fds, p.2, pp⟩ _ hio (List.length_take_of_le (hk.trans hlen))]
  exact (gpsdStopSocket_closes hio).1

/-- The tick after the start connects the peer with its countdown at zero, so that the next
tick closes the connection when no data has come. -/
theorem lifeRun_watchdog_connect :
  ∃ w, lifeRun (World.init 1) [.start 0 1 0 (some (cbytes "/dev/gps0")),
      .timer 1 ⟨true, true, .ok, true, false, true⟩] = some w ∧
    ∃ p ∈ w.units, ∃ q ∈ w.peers, q.2.ioFd ≠ -1 ∧
      ∃ k ≤ tickoverHigh, (timerRun w.naddr ⟨w.fds, p.2, q.2⟩
        ((List.replicate tickoverHigh ⟨true, true, .ok, true, false, true⟩).take k)).pp.ioFd
          = -1
  := by
  have hrun : lifeRun (World.init 1) [.start 0 1 0 (some (cbytes "/dev/gps0")),
      .timer 1 ⟨true, true, .ok, true, false, true⟩] = some _ := rfl
  exact ⟨_, hrun, _, List.mem_cons_self _ _, _, List.mem_cons_self _ _, by decide,
    lifeRun_watchdog 1 _ _ hrun _ (List.mem_cons_self _ _) _ (by decide) _
      (by simp only [List.length_replicate, le_refl])⟩

/-! ### The log throttle -/

/-- What reaches the log throttle: a tick of the primary peer's timer, which counts it down
first, or a message a driver function wants to log, from a peer with `CLK_FLAG3` set to
`clkFlag3`. -/
inductive LogEvent where
  | tick
  | message (clkFlag3 : Bool)

/-- The messages that get through, each with the number of ticks before it and its peer's
`CLK_FLAG3`, from the throttle `throttle` after `now` ticks. -/
def logRun : Nat → Nat → List LogEvent → List (Nat × Bool)
  | _, _, [] => []
  | throttle, now, .tick :: es => logRun (throttle - 1) (now + 1) es
  | throttle, now, .message clkFlag3 :: es =>
    if (syslogok clkFlag3 throttle).1 then
      (now, clkFlag3) :: logRun (syslogok clkFlag3 throttle).2 now es
    else logRun (syslogok clkFlag3 throttle).2 now es

/-- A message that gets through after the one at `a`: it has `CLK_FLAG3`, or it comes in
the same tick, or `LOGTHROTTLE` ticks later or more. -/
def Throttled (a b : Nat × Bool) : Prop :=
  b.2 = true ∨ b.1 = a.1 ∨ a.1 + logthrottle ≤ b.1

theorem logRun_chain {throttle now last : Nat} (f : Bool) (es : List LogEvent)
    (hthr : throttle = logthrottle - (now - last)) (hle : last ≤ now) :
  List.Chain Throttled (last, f) (logRun throttle now es)
  := by
  induction es generalizing throttle now last f with
  | nil => exact List.Chain.nil
  | cons e es ih =>
    cases e with
    | tick => exact ih f (by omega) (by omega)
    | message clkFlag3 =>
      simp only [logRun, syslogok]
      split
      · rename_i hres
        refine List.Chain.cons ?_
          (ih clkFlag3 (show logthrottle = logthrottle - (now - now) by simp) le_rfl)
        show clkFlag3 = true ∨ now = last ∨ last + logthrottle ≤ now
        simp only [Bool.or_eq_true, decide_eq_true_eq] at hres
        rcases hres with (h3 | h0) | hL
        · exact .inl h3
        · exact .inr (by omega)
        · exact .inr (by omega)
      · exact ih f hthr hle

/-- Whatever throttle it starts from, the messages that get through after the first are
throttled. -/
theorem logRun_chain' (throttle now : Nat) (es : List LogEvent) :
  List.Chain' Throttled (logRun throttle now es)
  := by
  induction es generalizing throttle now with
  | nil => exact List.chain'_nil
  | cons e es ih =>
    cases e with
    | tick => exact ih _ (now + 1)
    | message clkFlag3 =>
      simp only [logRun]
      split
      · rename_i hres
        rw [syslogok_snd, if_pos hres]
        exact logRun_chain clkFlag3 es (show logthrottle = logthrottle - (now - now) by simp) le_rfl
      · exact ih _ now

/-- From a fresh unit, without `CLK_FLAG3` the messages that get through come in bursts,
each within one tick, at least `LOGTHROTTLE` ticks apart. -/
theorem logRun_throttled (now : Nat) (es : List LogEvent) :
  List.Chain' Throttled (logRun 0 now es)
  := logRun_chain' 0 now es

/-! ### The messages of the primary peer's timer

The socket functions the primary peer's timer calls log through `syslogok`, and the timer
counts the unit's `logthrottle` down.  Read off the ticks of `timer_primary`, the log events
drive `logRun` through the unit's own throttle, and it reports exactly the messages the
socket functions print. -/

section LogsOnce

variable {l : Link}

end LogsOnce

end GpsdJson
