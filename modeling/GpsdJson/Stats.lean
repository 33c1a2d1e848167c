import GpsdJson.Secondary

/-!
# The clock statistics

Each poll of the primary peer reports to the refclock framework and, with `CLK_FLAG4` set,
prints the unit's tallies to the clock statistics: the known records (`tc_recv`), the bad
replies, the records without fix (`tc_nosync`), and the serial time (`ibt`) and pulse
(`pps`) records received and the samples of each kind used.  Then it clears them.

The tallies are kept by the record processing: `process_tpv`, `process_pps` and
`process_toff` count what they receive, `gpsd_parse` counts the known records, and
`eval_serial`, `eval_strict` and `eval_pps_secondary` count the samples they use; the
flags `fl_ibt` and `fl_pps2` mark a sample that waits to be used.  What each function may
do to them is said once, by `Receives` for the `process_*` functions and by `Consumes` for
the rest, and `TallyInv` is derived from these.  The tallies are `unsigned int`: a count
that wraps past `UINT_MAX` breaks the sums, so the invariant also bounds the known records
by the records processed so far.

* `pollRun_talliesAddUp`: along every run of fewer than `2 ^ 32` records, with control
  calls, connection losses, starts and polls, of a unit whose tallies start at zero, every
  line printed to the clock statistics adds up: the serial time records and the pulse
  records together are at most the known records, and so are the records without fix and
  the pulse records; and the samples used of each kind are at most those received, and the
  one sample that waited over the previous poll.
-/

namespace GpsdJson

/-! ### Polls -/

/-- The tallies `poll_primary` prints to the clock statistics, in its order. -/
def GpsdUnit.tallies (up : GpsdUnit) : List UInt32 :=
  [up.tcRecv, up.tcBreply, up.tcNosync, up.tcIbtRecv, up.tcIbtUsed, up.tcPpsRecv, up.tcPpsUsed]

/-- `poll_primary` of the primary peer whose descriptor is `ioFd`, whose `CLK_FLAG4` is
`clkFlag4` and whose side is `ps`: the report, the peer after `refclock_receive`, the
tallies printed to the clock statistics, and the unit with its tallies cleared.  Without
waiting samples the report is a fault when there is no connection, a bad reply when one
came, and a timeout else. -/
def pollPrimary (up : GpsdUnit) (ioFd : Int) (clkFlag4 : Bool) (ps : PeerSide) :
    Cevnt × PeerSide × Option (List UInt32) × GpsdUnit :=
  let stats := if clkFlag4 then some up.tallies else none
  let cleared := { up with tcBreply := 0, tcRecv := 0, tcNosync := 0, tcIbtRecv := 0,
                           tcIbtUsed := 0, tcPpsRecv := 0, tcPpsUsed := 0 }
  if ps.pending then (.nominal, { ps with pending := false }, stats, cleared)
  else
    (if ioFd = -1 then .fault else if up.tcBreply ≠ 0 then .badReply else .timeout,
      { ps with precision := precision }, stats, cleared)

/-- `gpsd_poll` of `peer`, one of the unit's peers, whose side is `ps`. -/
def gpsdPoll (up : GpsdUnit) (peer : PeerId) (ioFd : Int) (clkFlag4 : Bool) (ps : PeerSide) :
    Cevnt × PeerSide × Option (List UInt32) × GpsdUnit :=
  if up.ppsPeer = some peer then ((pollSecondary ps).1, (pollSecondary ps).2, none, up)
  else pollPrimary up ioFd clkFlag4 ps

/-- A line of the clock statistics adds up, read as the numbers it prints: the serial time
and pulse records are known records, and so are the records without fix (all `TPV`) and the
pulse records; and at most one sample of each kind more is used than received. -/
def talliesAddUp : List UInt32 → Bool
  | [recv, _, nosync, ibtRecv, ibtUsed, ppsRecv, ppsUsed] =>
    ibtRecv.toNat + ppsRecv.toNat ≤ recv.toNat && nosync.toNat + ppsRecv.toNat ≤ recv.toNat &&
      ibtUsed.toNat ≤ ibtRecv.toNat + 1 && ppsUsed.toNat ≤ ppsRecv.toNat + 1
  | _ => false

/-! ### What the functions do to the tallies -/

/-- `up'` has the received tallies of `up`, and used only samples that waited in `up`. -/
structure Consumes (up up' : GpsdUnit) : Prop where
  recv : up'.tcRecv = up.tcRecv
  nosync : up'.tcNosync = up.tcNosync
  ibtRecv : up'.tcIbtRecv = up.tcIbtRecv
  ppsRecv : up'.tcPpsRecv = up.tcPpsRecv
  ibtUsed : up'.tcIbtUsed.toNat + up'.flIbt.toNat ≤ up.tcIbtUsed.toNat + up.flIbt.toNat
  ppsUsed : up'.tcPpsUsed.toNat + up'.flPps2.toNat ≤ up.tcPpsUsed.toNat + up.flPps2.toNat

/-- `up'` processed one record more than `up`, not yet counted in `tc_recv`: it counted at
most one serial time or pulse record, and a sample that waits in `up'` and not in `up` was
counted as received. -/
structure Receives (up up' : GpsdUnit) : Prop where
  recv : up'.tcRecv = up.tcRecv
  kinds : up'.tcIbtRecv.toNat + up'.tcPpsRecv.toNat ≤ up.tcIbtRecv.toNat + up.tcPpsRecv.toNat + 1
  nosync : up'.tcNosync.toNat + up'.tcPpsRecv.toNat ≤ up.tcNosync.toNat + up.tcPpsRecv.toNat + 1
  ibtUsed : up'.tcIbtUsed.toNat + up'.flIbt.toNat + up.tcIbtRecv.toNat
    ≤ up.tcIbtUsed.toNat + up.flIbt.toNat + up'.tcIbtRecv.toNat
  ppsUsed : up'.tcPpsUsed.toNat + up'.flPps2.toNat + up.tcPpsRecv.toNat
    ≤ up.tcPpsUsed.toNat + up.flPps2.toNat + up'.tcPpsRecv.toNat

section Relations

variable {up up' up'' : GpsdUnit}

theorem Consumes.refl (up : GpsdUnit) :
  Consumes up up
  := ⟨rfl, rfl, rfl, rfl, le_rfl, le_rfl⟩

theorem Consumes.trans (h : Consumes up up') (h' : Consumes up' up'') :
  Consumes up up''
  := ⟨h'.1.trans h.1, h'.2.trans h.2, h'.3.trans h.3, h'.4.trans h.4, h'.5.trans h.5,
    h'.6.trans h.6⟩

theorem Consumes.receives (h : Consumes up up') :
  Receives up up'
  := by
  obtain ⟨hr, hn, hi, hp, hiu, hpu⟩ := h
  exact ⟨hr, by rw [hi, hp]; omega, by rw [hn, hp]; omega, by rw [hi]; omega, by rw [hp]; omega⟩

end Relations

/-! ### The timing functions consume -/

theorem gpsdControl_consumes (up : GpsdUnit) (peer : PeerId) (cfgMode : Nat)
    (fudge1 fudge2 : LFp) :
  Consumes up (gpsdControl up peer cfgMode fudge1 fudge2)
  := by
  unfold gpsdControl
  split
  · exact ⟨rfl, rfl, rfl, rfl, le_rfl, le_rfl⟩
  · dsimp only
    split
    · rw [enterOpmode_eq, leaveOpmode_eq]
      exact ⟨rfl, rfl, rfl, rfl, Nat.add_le_add_left (Nat.zero_le _) _, le_rfl⟩
    · exact ⟨rfl, rfl, rfl, rfl, le_rfl, le_rfl⟩

theorem startOpmode_consumes (up : GpsdUnit) (unit : Nat) (peer : PeerId) (cfgMode : Nat) :
  Consumes up (startOpmode up unit peer cfgMode)
  := by
  unfold startOpmode
  dsimp only
  by_cases hu : unit ≥ 128
  · rw [if_pos hu]
    exact ⟨rfl, rfl, rfl, rfl, le_rfl, le_rfl⟩
  · rw [if_neg hu, enterOpmode_eq]
    exact ⟨rfl, rfl, rfl, rfl, Nat.add_le_add_left (Nat.zero_le _) _, le_rfl⟩

theorem stopSocketUnit_consumes (up : GpsdUnit) :
  Consumes up (stopSocketUnit up)
  := ⟨rfl, rfl, rfl, rfl, Nat.add_le_add_left (Nat.zero_le _) _, le_rfl⟩

theorem evalStrict_consumes (up : GpsdUnit) :
  Consumes up (evalStrict up).1
  := by
  unfold evalStrict
  split
  · rename_i h
    simp only [Bool.and_eq_true] at h
    refine ⟨rfl, rfl, rfl, rfl, ?_, le_rfl⟩
    simpa [h.1] using tally_succ_le _
  · exact Consumes.refl up

theorem evalSerial_consumes (up : GpsdUnit) :
  Consumes up (evalSerial up).1
  := by
  unfold evalSerial
  split
  · refine ⟨rfl, rfl, rfl, rfl, ?_, le_rfl⟩
    simpa [‹up.flIbt = true›] using tally_succ_le _
  · exact Consumes.refl up

theorem evalPpsSecondary_consumes (up : GpsdUnit) :
  Consumes up (evalPpsSecondary up).1
  := by
  unfold evalPpsSecondary
  split
  · refine ⟨rfl, rfl, rfl, rfl, le_rfl, ?_⟩
    simpa [‹up.flPps2 = true›] using tally_succ_le _
  · exact Consumes.refl up

theorem evalAuto_consumes (up : GpsdUnit) :
  Consumes up (evalAuto up).1
  := by
  have hc : Consumes up (ppsCredit up) := by
    unfold ppsCredit; split <;> exact ⟨rfl, rfl, rfl, rfl, le_rfl, le_rfl⟩
  unfold evalAuto
  split
  · exact Consumes.refl up
  · dsimp only
    split
    · exact hc.trans (evalSerial_consumes _)
    · exact hc.trans (evalStrict_consumes _)

theorem evalMode_consumes (up : GpsdUnit) :
  Consumes up (evalMode up).1
  := by
  unfold evalMode
  split
  · exact evalStrict_consumes up
  · exact evalAuto_consumes up
  · exact evalSerial_consumes up

theorem dropStale_consumes (up : GpsdUnit) :
  Consumes up (dropStale up)
  := by
  rcases dropStale_cases up with h | h | h <;> rw [h]
  · exact Consumes.refl up
  · exact ⟨rfl, rfl, rfl, rfl, le_rfl, le_rfl⟩
  · exact ⟨rfl, rfl, rfl, rfl, Nat.add_le_add_left (Nat.zero_le _) _, le_rfl⟩

theorem feedSecondary_consumes (up : GpsdUnit) :
  Consumes up (feedSecondary up).1
  := by
  unfold feedSecondary
  split
  · exact evalPpsSecondary_consumes up
  · exact Consumes.refl up

/-! ### The record functions receive -/

section Receive

variable {E : Ext} {up : GpsdUnit} {jctx : JsonCtx} {rtime : Stamped}

/-- A record received while the serial time records counted leave room for one more. -/
theorem processTpv_receives (hr : up.tcIbtRecv.toNat + 1 < 2 ^ 32) :
  Receives up (processTpv E up jctx rtime)
  := by
  have t0 : false.toNat = 0 := rfl
  have t1 : true.toNat = 1 := rfl
  unfold processTpv
  dsimp only
  split
  · split <;> refine ⟨rfl, ?_, ?_, ?_, le_rfl⟩ <;> dsimp only [tally_succ] <;> omega
  · split
    · refine ⟨rfl, ?_, ?_, le_rfl, le_rfl⟩ <;> dsimp only <;> omega
    · split <;> refine ⟨rfl, ?_, ?_, ?_, le_rfl⟩ <;> dsimp only [tally_succ] <;> omega

theorem processPps_receives (hr : up.tcPpsRecv.toNat + 1 < 2 ^ 32) (clkFlag2 : Bool) :
  Receives up (processPps up jctx rtime clkFlag2)
  := by
  have := Bool.toNat_le up.flPps2
  have t1 : true.toNat = 1 := rfl
  unfold processPps
  dsimp only
  split
  · refine ⟨rfl, ?_, ?_, le_rfl, ?_⟩ <;> dsimp only [tally_succ] <;> omega
  · split
    · refine ⟨rfl, ?_, ?_, le_rfl, ?_⟩ <;> dsimp only [tally_succ] <;> omega
    · split <;> refine ⟨rfl, ?_, ?_, le_rfl, ?_⟩ <;> dsimp only [tally_succ] <;> omega

theorem processToff_receives (hr : up.tcIbtRecv.toNat + 1 < 2 ^ 32) :
  Receives up (processToff up jctx rtime)
  := by
  have := Bool.toNat_le up.flIbt
  have t1 : true.toNat = 1 := rfl
  unfold processToff
  dsimp only
  split
  · refine ⟨rfl, ?_, ?_, ?_, le_rfl⟩ <;> dsimp only [tally_succ] <;> omega
  · split
    · refine ⟨rfl, ?_, ?_, ?_, le_rfl⟩ <;> dsimp only [tally_succ] <;> omega
    · split <;> refine ⟨rfl, ?_, ?_, ?_, le_rfl⟩ <;> dsimp only [tally_succ] <;> omega

theorem processRecord_receives {clsid : List UInt8} {f : Bool} {up' : GpsdUnit}
    (hi : up.tcIbtRecv.toNat + 1 < 2 ^ 32) (hp : up.tcPpsRecv.toNat + 1 < 2 ^ 32)
    (h : processRecord E up jctx clsid rtime f = some up') :
  Receives up up'
  := by
  rcases processRecord_cases h with ⟨-, rfl⟩ | ⟨-, rfl⟩ | ⟨-, rfl⟩ | ⟨-, rfl⟩ | ⟨-, rfl⟩
  · exact processTpv_receives hi
  · exact processPps_receives hp f
  · exact processToff_receives hi
  · unfold processVersion; dsimp only
    split <;> exact Consumes.receives ⟨rfl, rfl, rfl, rfl, le_rfl, le_rfl⟩
  · unfold processWatch
    split
    · exact (Consumes.refl up).receives
    · split <;> exact Consumes.receives ⟨rfl, rfl, rfl, rfl, le_rfl, le_rfl⟩

end Receive

/-! ### The invariant -/

/-- An event of the unit's tallies: an event of its timing state, or a `gpsd_poll` of
`peer`, whose descriptor is `ioFd`, whose `CLK_FLAG4` is `clkFlag4` and whose side is
`ps`.  The timer changes no tally: the primary peer's timer reaches the unit only through
`gpsd_stop_socket`. -/
inductive PollEvent where
  | unit (e : Event)
  | poll (peer : PeerId) (ioFd : Int) (clkFlag4 : Bool) (ps : PeerSide)

/-- Whether an event is a record handed to `gpsd_parse`. -/
def PollEvent.isRecord : PollEvent → Bool
  | .unit (.record ..) => true
  | _ => false

/-- The tallies of `up` since the last poll add up, where `k` records were processed and
not yet counted in `tc_recv`, `ibt` and `pps` samples of each kind waited over the last
poll, and `c` records were processed so far, which bounds the known records. -/
structure TallyInv (k ibt pps c : Nat) (up : GpsdUnit) : Prop where
  recv : up.tcIbtRecv.toNat + up.tcPpsRecv.toNat ≤ up.tcRecv.toNat + k
  nosync : up.tcNosync.toNat + up.tcPpsRecv.toNat ≤ up.tcRecv.toNat + k
  ibtUsed : up.tcIbtUsed.toNat + up.flIbt.toNat ≤ up.tcIbtRecv.toNat + ibt
  ppsUsed : up.tcPpsUsed.toNat + up.flPps2.toNat ≤ up.tcPpsRecv.toNat + pps
  count : up.tcRecv.toNat + k ≤ c

section Inv

variable {k ibt pps c : Nat} {up up' : GpsdUnit}

theorem TallyInv.mono (h : TallyInv k ibt pps c up) {c' : Nat} (hc : c ≤ c') :
  TallyInv k ibt pps c' up
  := ⟨h.recv, h.nosync, h.ibtUsed, h.ppsUsed, h.count.trans hc⟩

theorem TallyInv.consumes (h : TallyInv k ibt pps c up) (hc : Consumes up up') :
  TallyInv k ibt pps c up'
  := by
  obtain ⟨hr, hn, hi, hp, hiu, hpu⟩ := hc
  have := h.ibtUsed
  have := h.ppsUsed
  exact ⟨by rw [hr, hi, hp]; exact h.recv, by rw [hr, hn, hp]; exact h.nosync,
    by rw [hi]; omega, by rw [hp]; omega, by rw [hr]; exact h.count⟩

/-- A record received with room for one more leaves it to be counted. -/
theorem TallyInv.receives (h : TallyInv 0 ibt pps c up) (hr : Receives up up') :
  TallyInv 1 ibt pps (c + 1) up'
  := by
  obtain ⟨h1, h2, h3, h4, h5⟩ := h
  obtain ⟨hrecv, hk, hn, hi, hp⟩ := hr
  have := congrArg UInt32.toNat hrecv
  exact ⟨by omega, by omega, by omega, by omega, by omega⟩

/-- Counting the record in `tc_recv` does not wrap while fewer than `2 ^ 32` records were
processed. -/
theorem TallyInv.evaluate (h : TallyInv 1 ibt pps c up) (hc : c < 2 ^ 32) :
  TallyInv 0 ibt pps c (gpsdEvaluate up).1
  := by
  have hrecv : (up.tcRecv + 1).toNat = up.tcRecv.toNat + 1 := by
    have := h.count
    rw [tally_succ]
    omega
  have hcounted : TallyInv 0 ibt pps c { up with tcRecv := up.tcRecv + 1 } :=
    ⟨by dsimp only; rw [hrecv]; exact h.recv, by dsimp only; rw [hrecv]; exact h.nosync,
      h.ibtUsed, h.ppsUsed, by dsimp only; rw [hrecv]; exact h.count⟩
  exact hcounted.consumes
    (((feedSecondary_consumes _).trans (dropStale_consumes _)).trans (evalMode_consumes _))

theorem TallyInv.parseRecord (h : TallyInv 0 ibt pps c up) (hc : c + 1 < 2 ^ 32) (E : Ext)
    (rec : Option JsonCtx) (rtime : Stamped) (clkFlag2 : Bool) :
  TallyInv 0 ibt pps (c + 1) (gpsdParseRecord E up rec rtime clkFlag2).1
  := by
  have hb : TallyInv 0 ibt pps (c + 1) { up with tcBreply := up.tcBreply + 1 } :=
    ⟨h.recv, h.nosync, h.ibtUsed, h.ppsUsed, Nat.le_succ_of_le h.count⟩
  have := h.recv
  have := h.count
  unfold gpsdParseRecord
  split
  · exact hb
  · split
    · exact hb
    · split
      · exact h.mono (Nat.le_succ c)
      · exact (h.receives (processRecord_receives (by omega) (by omega) ‹_›)).evaluate hc

theorem TallyInv.step (h : TallyInv 0 ibt pps c up) (E : Ext) (i : Nat) (e : Event)
    (hc : c + (PollEvent.unit e).isRecord.toNat < 2 ^ 32) :
  TallyInv 0 ibt pps (c + (PollEvent.unit e).isRecord.toNat) (e.step E up i).1
  := by
  cases e with
  | record rec rtime clkFlag2 => exact h.parseRecord hc E rec _ clkFlag2
  | control peer cfgMode fudge1 fudge2 => exact h.consumes (gpsdControl_consumes _ _ _ _ _)
  | stopSocket => exact h.consumes (stopSocketUnit_consumes _)
  | start unit peer cfgMode => exact h.consumes (startOpmode_consumes _ _ _ _)

/-- A poll prints tallies that add up, and starts the next round with the samples that
wait. -/
theorem TallyInv.poll (h : TallyInv 0 ibt pps c up) (hi : ibt ≤ 1) (hp : pps ≤ 1)
    (peer : PeerId) (ioFd : Int) (clkFlag4 : Bool) (ps : PeerSide) :
  (∀ t ∈ (gpsdPoll up peer ioFd clkFlag4 ps).2.2.1, talliesAddUp t = true) ∧
    ∃ ibt' pps', ibt' ≤ 1 ∧ pps' ≤ 1 ∧
      TallyInv 0 ibt' pps' c (gpsdPoll up peer ioFd clkFlag4 ps).2.2.2
  := by
  unfold gpsdPoll
  split
  · exact ⟨nofun, ibt, pps, hi, hp, h⟩
  · have hline : talliesAddUp up.tallies = true := by
      obtain ⟨h1, h2, h3, h4, -⟩ := h
      simp only [GpsdUnit.tallies, talliesAddUp, Bool.and_eq_true, decide_eq_true_eq]
      omega
    have hnext : TallyInv 0 up.flIbt.toNat up.flPps2.toNat c
        (pollPrimary up ioFd clkFlag4 ps).2.2.2 := by
      unfold pollPrimary
      cases ps.pending <;> exact ⟨le_rfl, le_rfl, le_rfl, le_rfl, Nat.zero_le c⟩
    have hstats : (pollPrimary up ioFd clkFlag4 ps).2.2.1
        = if clkFlag4 then some up.tallies else none := by
      unfold pollPrimary; cases ps.pending <;> rfl
    refine ⟨fun t ht => ?_, _, _, Bool.toNat_le _, Bool.toNat_le _, hnext⟩
    rw [hstats] at ht
    split at ht
    · cases ht
      exact hline
    · cases ht

end Inv

/-! ### Runs with polls -/

/-- The events `es`, numbered from `i`: the unit after them and the lines printed to the
clock statistics. -/
def pollRun (E : Ext) : GpsdUnit → Nat → List PollEvent → GpsdUnit × List (List UInt32)
  | up, _, [] => (up, [])
  | up, i, .unit e :: es => pollRun E (e.step E up i).1 (i + 1) es
  | up, i, .poll peer ioFd clkFlag4 ps :: es =>
    let r := gpsdPoll up peer ioFd clkFlag4 ps
    let r' := pollRun E r.2.2.2 (i + 1) es
    (r'.1, r.2.2.1.toList ++ r'.2)

theorem TallyInv.run {ibt pps c : Nat} {up : GpsdUnit} (h : TallyInv 0 ibt pps c up)
    (hi : ibt ≤ 1) (hp : pps ≤ 1) (E : Ext) (i : Nat) (es : List PollEvent)
    (hn : c + es.countP PollEvent.isRecord < 2 ^ 32) :
  ∀ t ∈ (pollRun E up i es).2, talliesAddUp t = true
  := by
  induction es generalizing ibt pps c up i with
  | nil => exact nofun
  | cons e es ih =>
    rw [List.countP_cons] at hn
    cases e with
    | unit e =>
      have hb : (if (PollEvent.unit e).isRecord = true then 1 else 0)
          = (PollEvent.unit e).isRecord.toNat := by
        cases (PollEvent.unit e).isRecord <;> rfl
      exact ih (h.step E i e (by omega)) hi hp (i + 1) (by omega)
    | poll peer ioFd clkFlag4 ps =>
      obtain ⟨hline, ibt', pps', hi', hp', h'⟩ := h.poll hi hp peer ioFd clkFlag4 ps
      intro t ht
      rcases List.mem_append.mp ht with ht | ht
      · exact hline t (Option.mem_toList.mp ht)
      · exact ih h' hi' hp' (i + 1) (by simpa [PollEvent.isRecord] using hn) t ht

/-- Along every run of fewer than `2 ^ 32` records, with control calls, connection losses,
starts and polls, of a unit whose tallies start at zero, every line printed to the clock
statistics adds up. -/
theorem pollRun_talliesAddUp (E : Ext) (up : GpsdUnit) (i : Nat) (es : List PollEvent)
    (h0 : up.tallies = List.replicate 7 0) (hn : es.countP PollEvent.isRecord < 2 ^ 32) :
  ∀ t ∈ (pollRun E up i es).2, talliesAddUp t = true
  := by
  simp only [GpsdUnit.tallies, List.replicate_succ, List.replicate_zero, List.cons.injEq,
    and_true] at h0
  obtain ⟨hr, -, hn0, hir, hiu, hpr, hpu⟩ := h0
  have h : TallyInv 0 up.flIbt.toNat up.flPps2.toNat 0 up := by
    constructor <;> simp only [hr, hn0, hir, hiu, hpr, hpu, UInt32.toNat_zero] <;> omega
  exact h.run (Bool.toNat_le _) (Bool.toNat_le _) E i es (by omega)

/-- A fresh unit that receives a line it cannot parse, polled with `CLK_FLAG4`: the line
printed counts one bad reply. -/
theorem pollRun_talliesAddUp_breply :
  GpsdUnit.zero.tallies = List.replicate 7 0 ∧
    [PollEvent.unit (.record none 0 false), .poll 1 5 true ⟨false, false, false, 0, 0⟩].countP
      PollEvent.isRecord < 2 ^ 32 ∧
    (pollRun ⟨fun _ => none, fun _ => 0⟩ GpsdUnit.zero 0
        [.unit (.record none 0 false), .poll 1 5 true ⟨false, false, false, 0, 0⟩]).2
      = [[0, 1, 0, 0, 0, 0, 0]] ∧
    ∀ t ∈ (pollRun ⟨fun _ => none, fun _ => 0⟩ GpsdUnit.zero 0
        [.unit (.record none 0 false), .poll 1 5 true ⟨false, false, false, 0, 0⟩]).2,
      talliesAddUp t = true
  := ⟨rfl, by decide, rfl, pollRun_talliesAddUp _ _ _ _ rfl (by decide)⟩

end GpsdJson
