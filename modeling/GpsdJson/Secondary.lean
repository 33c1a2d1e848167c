import GpsdJson.Unit.Auto
import GpsdJson.Lifecycle

/-!
# The secondary peer's PPS flag

The secondary peer (unit number `u + 128`) feeds the unit's PPS pulses to `ntpd` alone.
It tells `ntpd` that it is a PPS source by `FLAG_PPS` in its configuration flags:
`eval_pps_secondary` sets the flag when the unit's counter `ppscount2` reaches
`PPS2_MAXCOUNT` and the peer's `CLK_FLAG1` is set; `timer_secondary` counts the counter down
once a second and clears the flag when it runs out; `poll_secondary` clears it when no
sample came since the last poll; and `gpsd_control` clears it when `CLK_FLAG1` is off.

The peer's side of these functions works on `PeerSide`, which also keeps, as ghost state,
the number of timer ticks since a pulse was last fed to the peer.  `SecEvent` lists the
calls that reach the counter or the flag, and `secRun` runs them.

* `secRun_flagPps`: along every run of records, control calls, connection losses, timer
  ticks and polls of the secondary peer, from a peer without `FLAG_PPS` on a unit whose
  counter is zero, the peer carries `FLAG_PPS` only while `CLK_FLAG1` is set and a pulse
  was fed to it fewer than `PPS2_MAXCOUNT` ticks ago.
-/

namespace GpsdJson

/-! ### The peer -/

/-- What the driver reads and writes of a peer besides the unit: `FLAG_PPS` in
`peer->cfg.flags`, `CLK_FLAG1` in `pp->sloppyclockflag`, whether samples wait for
`refclock_receive` (`pp->coderecv != pp->codeproc`), and `peer->precision`; and, as ghost
state, the number of timer ticks since a pulse was last fed to the peer. -/
structure PeerSide where
  flagPps : Bool
  clkFlag1 : Bool
  pending : Bool
  precision : Int
  sinceFed : Nat
  deriving DecidableEq, Repr

/-- The events `refclock_report` is told of. -/
inductive Cevnt where
  | nominal
  | timeout
  | badReply
  | fault
  deriving DecidableEq, Repr

/-- The peer's side of `eval_pps_secondary` on the unit `up` it is called with: a pulse
queues a sample and sets the precision, and sets `FLAG_PPS` when the counter, raised by
`eval_pps_secondary`, is full and `CLK_FLAG1` is set. -/
def evalPpsSecondaryPeer (sp : PeerSide) (up : GpsdUnit) : PeerSide :=
  if up.flPps2 then
    let sp := { sp with pending := true, precision := up.ppsPrec, sinceFed := 0 }
    if (evalPpsSecondary up).1.ppscount2 = pps2Maxcount ∧ sp.clkFlag1 then
      { sp with flagPps := true }
    else sp
  else sp

/-- The secondary peer's side of the evaluation after a record of a known class. -/
def gpsdEvaluatePeer (sp : PeerSide) (up : GpsdUnit) : PeerSide :=
  if up.ppsPeer.isSome then evalPpsSecondaryPeer sp { up with tcRecv := up.tcRecv + 1 } else sp

/-- The secondary peer's side of `gpsd_parse` for the record `rec`. -/
def gpsdParseRecordPeer (E : Ext) (up : GpsdUnit) (rec : Option JsonCtx) (rtime : Stamped)
    (clkFlag2 : Bool) (sp : PeerSide) : PeerSide :=
  match rec with
  | none => sp
  | some jctx =>
    match jsonObjectLookupString jctx 0 (cbytes "class") with
    | none => sp
    | some clsid =>
      match processRecord E up jctx clsid rtime clkFlag2 with
      | none => sp
      | some up => gpsdEvaluatePeer sp up

/-- The peer's side of `timer_secondary`, once the unit's counter is counted down to
`count`: when it runs out, waiting samples are dropped and `FLAG_PPS` is cleared. -/
def timerSecondaryPeer (sp : PeerSide) (count : Nat) : PeerSide :=
  let sp := { sp with sinceFed := sp.sinceFed + 1 }
  if count = 0 then { sp with pending := false, flagPps := false } else sp

/-- The peer's side of `gpsd_control` for the secondary peer: without `CLK_FLAG1` it drops
`FLAG_PPS`. -/
def gpsdControlPeer (sp : PeerSide) : PeerSide :=
  if !sp.clkFlag1 then { sp with flagPps := false } else sp

/-- `poll_secondary`: waiting samples go to `refclock_receive` (which takes them all);
without any, the peer's precision falls back to `PPS_PRECISION` and it drops `FLAG_PPS`. -/
def pollSecondary (sp : PeerSide) : Cevnt × PeerSide :=
  if sp.pending then (.nominal, { sp with pending := false })
  else (.timeout, { sp with precision := ppsPrecision, flagPps := false })

/-! ### Runs of the secondary peer -/

/-- A call that reaches the secondary peer's counter or flag: a record; a `gpsd_control`
call for `peer`, after the refclock framework set that peer's `CLK_FLAG1` to `clkFlag1`; a
lost connection (`gpsd_stop_socket`); a tick of the secondary peer's timer; a poll of the
secondary peer. -/
inductive SecEvent where
  | record (rec : Option JsonCtx) (rtime : LFp) (clkFlag2 : Bool)
  | control (peer : PeerId) (cfgMode : Nat) (fudge1 fudge2 : LFp) (clkFlag1 : Bool)
  | stopSocket
  | timer
  | poll

/-- One call, numbered `i`, for the unit `up` whose secondary peer `s` is `sp`. -/
def SecEvent.step (E : Ext) (s : PeerId) (up : GpsdUnit) (sp : PeerSide) (i : Nat) :
    SecEvent → GpsdUnit × PeerSide
  | .record rec rtime clkFlag2 =>
    ((gpsdParseRecord E up rec ⟨rtime, i⟩ clkFlag2).1,
      gpsdParseRecordPeer E up rec ⟨rtime, i⟩ clkFlag2 sp)
  | .control peer cfgMode fudge1 fudge2 clkFlag1 =>
    (gpsdControl up peer cfgMode fudge1 fudge2,
      if peer = s then
        let sp := { sp with clkFlag1 := clkFlag1 }
        if up.ppsPeer = some s then gpsdControlPeer sp else sp
      else sp)
  | .stopSocket => (stopSocketUnit up, sp)
  | .timer => (timerSecondary up, timerSecondaryPeer sp (timerSecondary up).ppscount2)
  | .poll => (up, (pollSecondary sp).2)

/-- The calls `es`, numbered from `i`. -/
def secRun (E : Ext) (s : PeerId) : GpsdUnit → PeerSide → Nat → List SecEvent →
    GpsdUnit × PeerSide
  | up, sp, _, [] => (up, sp)
  | up, sp, i, e :: es =>
    let (up', sp') := e.step E s up sp i
    secRun E s up' sp' (i + 1) es

/-! ### The invariant -/

/-- The secondary peer `s` of the unit `up` is `sp`: it carries `FLAG_PPS` only with
`CLK_FLAG1` and a positive counter, and a positive counter and the ticks since the last
pulse add up to at most `PPS2_MAXCOUNT`. -/
structure PpsFlagInv (s : PeerId) (up : GpsdUnit) (sp : PeerSide) : Prop where
  peer : up.ppsPeer = some s
  flag1 : sp.flagPps = true → sp.clkFlag1 = true
  credit : sp.flagPps = true → 0 < up.ppscount2
  recent : 0 < up.ppscount2 → up.ppscount2 + sp.sinceFed ≤ pps2Maxcount

/-! ### What the unit's functions keep -/

/-- `up'` has the secondary channel's counter and the secondary peer of `up`. -/
def SameSecondary (up up' : GpsdUnit) : Prop :=
  up'.ppscount2 = up.ppscount2 ∧ up'.ppsPeer = up.ppsPeer

theorem SameSecondary.trans {up up' up'' : GpsdUnit} (h : SameSecondary up up')
    (h' : SameSecondary up' up'') :
  SameSecondary up up''
  := ⟨h'.1.trans h.1, h'.2.trans h.2⟩

theorem dropStale_sameSecondary (up : GpsdUnit) :
  SameSecondary up (dropStale up)
  := by
  rcases dropStale_cases up with h | h | h <;> rw [h] <;> exact ⟨rfl, rfl⟩

theorem evalMode_sameSecondary (up : GpsdUnit) :
  SameSecondary up (evalMode up).1
  := by
  have hs : ∀ u, SameSecondary u (evalSerial u).1 := fun u => by
    unfold evalSerial; split <;> exact ⟨rfl, rfl⟩
  have ht : ∀ u, SameSecondary u (evalStrict u).1 := fun u => by
    unfold evalStrict; split <;> exact ⟨rfl, rfl⟩
  have hc : SameSecondary up (ppsCredit up) := by
    unfold ppsCredit; split <;> exact ⟨rfl, rfl⟩
  unfold evalMode evalAuto
  split
  · exact ht up
  · split
    · exact ⟨rfl, rfl⟩
    · dsimp only
      split
      · exact hc.trans (hs _)
      · exact hc.trans (ht _)
  · exact hs up

theorem gpsdControl_sameSecondary (up : GpsdUnit) (peer : PeerId) (cfgMode : Nat)
    (fudge1 fudge2 : LFp) :
  SameSecondary up (gpsdControl up peer cfgMode fudge1 fudge2)
  := by
  unfold gpsdControl
  split
  · exact ⟨rfl, rfl⟩
  · dsimp only
    split
    · rw [enterOpmode_eq, leaveOpmode_eq]
      exact ⟨rfl, rfl⟩
    · exact ⟨rfl, rfl⟩

section Steps

variable {s : PeerId} {up : GpsdUnit} {sp : PeerSide}

theorem PpsFlagInv.congr {up' : GpsdUnit} (h : PpsFlagInv s up sp) (hu : SameSecondary up up') :
  PpsFlagInv s up' sp
  := ⟨hu.2.trans h.peer, h.flag1, fun hf => hu.1 ▸ h.credit hf, fun hp => hu.1 ▸ h.recent (hu.1 ▸ hp)⟩

/-- `eval_pps_secondary` raises the counter to at least 2 whenever it feeds a pulse, and
sets `FLAG_PPS` only with `CLK_FLAG1`. -/
theorem PpsFlagInv.feed {u : GpsdUnit} (h : PpsFlagInv s up sp) (hu : SameSecondary up u) :
  PpsFlagInv s (evalPpsSecondary u).1 (evalPpsSecondaryPeer sp u)
  := by
  unfold evalPpsSecondaryPeer evalPpsSecondary
  cases hp : u.flPps2
  · rw [if_neg (by simp), if_neg (by simp)]
    exact h.congr hu
  · rw [if_pos rfl, if_pos rfl]
    have hpeer : u.ppsPeer = some s := hu.2.trans h.peer
    have hpos : 0 < min pps2Maxcount (u.ppscount2 + 2) :=
      lt_min (show 0 < pps2Maxcount by decide) (Nat.succ_pos _)
    have hle : min pps2Maxcount (u.ppscount2 + 2) + 0 ≤ pps2Maxcount := min_le_left _ _
    dsimp only
    split
    · exact ⟨hpeer, fun _ => ‹_ ∧ _›.2, fun _ => hpos, fun _ => hle⟩
    · exact ⟨hpeer, h.flag1, fun _ => hpos, fun _ => hle⟩

theorem PpsFlagInv.evaluate {u : GpsdUnit} (h : PpsFlagInv s up sp) (hu : SameSecondary up u) :
  PpsFlagInv s (gpsdEvaluate u).1 (gpsdEvaluatePeer sp u)
  := by
  have hpeer : u.ppsPeer.isSome := by rw [hu.2, h.peer]; rfl
  have hf := h.feed (show SameSecondary up { u with tcRecv := u.tcRecv + 1 } from hu)
  unfold gpsdEvaluate gpsdEvaluatePeer feedSecondary
  rw [if_pos hpeer, if_pos hpeer]
  exact hf.congr ((dropStale_sameSecondary _).trans (evalMode_sameSecondary _))

theorem PpsFlagInv.record (h : PpsFlagInv s up sp) (E : Ext) (rec : Option JsonCtx)
    (rtime : Stamped) (clkFlag2 : Bool) :
  PpsFlagInv s (gpsdParseRecord E up rec rtime clkFlag2).1
    (gpsdParseRecordPeer E up rec rtime clkFlag2 sp)
  := by
  unfold gpsdParseRecord gpsdParseRecordPeer
  rcases rec with _ | jctx
  · exact h.congr ⟨rfl, rfl⟩
  dsimp only
  rcases jsonObjectLookupString jctx 0 (cbytes "class") with _ | clsid
  · exact h.congr ⟨rfl, rfl⟩
  dsimp only
  cases hu : processRecord E up jctx clsid rtime clkFlag2 with
  | none => exact h
  | some u => exact h.evaluate ⟨(processRecord_counters hu).2, processRecord_ppsPeer hu⟩

/-- `timer_secondary` counts down one tick and clears the flag when the counter runs out. -/
theorem PpsFlagInv.timer (h : PpsFlagInv s up sp) :
  PpsFlagInv s (timerSecondary up) (timerSecondaryPeer sp (timerSecondary up).ppscount2)
  := by
  have hr := h.recent
  have hc := h.credit
  simp only [pps2Maxcount] at hr
  unfold timerSecondaryPeer timerSecondary
  dsimp only
  split
  · refine ⟨h.peer, fun hf => absurd hf (by simp), fun hf => absurd hf (by simp), fun hp => ?_⟩
    dsimp only at hp
    omega
  · refine ⟨h.peer, h.flag1, fun hf => ?_, fun hp => ?_⟩ <;> dsimp only at *
    · omega
    · have := hr (by omega)
      simp only [pps2Maxcount]
      omega

theorem PpsFlagInv.poll (h : PpsFlagInv s up sp) :
  PpsFlagInv s up (pollSecondary sp).2
  := by
  unfold pollSecondary
  split
  · exact ⟨h.peer, h.flag1, h.credit, h.recent⟩
  · exact ⟨h.peer, fun hf => absurd hf (by simp), fun hf => absurd hf (by simp), h.recent⟩

/-- `gpsd_control` for the secondary peer drops the flag with `CLK_FLAG1`. -/
theorem PpsFlagInv.control (h : PpsFlagInv s up sp) (clkFlag1 : Bool) :
  PpsFlagInv s up (gpsdControlPeer { sp with clkFlag1 := clkFlag1 })
  := by
  unfold gpsdControlPeer
  split
  · exact ⟨h.peer, fun hf => absurd hf (by simp), fun hf => absurd hf (by simp), h.recent⟩
  · exact ⟨h.peer, fun _ => by simpa using ‹¬(!clkFlag1) = true›, h.credit, h.recent⟩

theorem PpsFlagInv.step (h : PpsFlagInv s up sp) (E : Ext) (i : Nat) (e : SecEvent) :
  PpsFlagInv s (e.step E s up sp i).1 (e.step E s up sp i).2
  := by
  cases e with
  | record rec rtime clkFlag2 => exact h.record E rec _ clkFlag2
  | control peer cfgMode fudge1 fudge2 clkFlag1 =>
    have hu := gpsdControl_sameSecondary up peer cfgMode fudge1 fudge2
    simp only [SecEvent.step]
    split
    · rw [if_pos h.peer]
      exact (h.control clkFlag1).congr hu
    · exact h.congr hu
  | stopSocket => exact h.congr ⟨rfl, rfl⟩
  | timer => exact h.timer
  | poll => exact h.poll

theorem PpsFlagInv.run (h : PpsFlagInv s up sp) (E : Ext) (i : Nat) (es : List SecEvent) :
  PpsFlagInv s (secRun E s up sp i es).1 (secRun E s up sp i es).2
  := by
  induction es generalizing up sp i with
  | nil => exact h
  | cons e es ih => exact ih (h.step E i e) (i + 1)

end Steps

/-- Along every run of records, control calls, connection losses, timer ticks and polls of
the secondary peer, from a peer without `FLAG_PPS` on a unit whose counter is zero, the
peer carries `FLAG_PPS` only while `CLK_FLAG1` is set, the counter is positive, and a pulse
was fed to it fewer than `PPS2_MAXCOUNT` ticks ago. -/
theorem secRun_flagPps (E : Ext) (s : PeerId) (up : GpsdUnit) (sp : PeerSide) (i : Nat)
    (es : List SecEvent) (hs : up.ppsPeer = some s) (hflag : sp.flagPps = false)
    (hcount : up.ppscount2 = 0) :
  (secRun E s up sp i es).2.flagPps = true →
    (secRun E s up sp i es).2.clkFlag1 = true ∧ 0 < (secRun E s up sp i es).1.ppscount2 ∧
      (secRun E s up sp i es).2.sinceFed < pps2Maxcount
  := by
  have h : PpsFlagInv s up sp :=
    ⟨hs, fun hf => absurd (hflag.symm.trans hf) (by decide),
      fun hf => absurd (hflag.symm.trans hf) (by decide), fun hp => absurd hcount (by omega)⟩
  intro hf
  have hr := h.run E i es
  have hpos := hr.credit hf
  have := hr.recent hpos
  exact ⟨hr.flag1 hf, hpos, by omega⟩

/-- The secondary peer `2` of a fresh unit, with `CLK_FLAG1`, fed five pulses, which fill the
counter and set `FLAG_PPS`, then through a tick and a poll, which keep it. -/
theorem secRun_flagPps_tick_poll :
  ({ GpsdUnit.zero with ppsPeer := some 2 }.ppsPeer = some 2 ∧
      (⟨false, true, false, 0, 0⟩ : PeerSide).flagPps = false ∧
      { GpsdUnit.zero with ppsPeer := some 2 }.ppscount2 = 0) ∧
    (secRun ⟨fun _ => none, fun _ => 0⟩ 2 { GpsdUnit.zero with ppsPeer := some 2 }
        ⟨false, true, false, 0, 0⟩ 0
        (List.replicate 5 (.record (some ppsPulse) (2 ^ 32) false) ++ [.timer, .poll])).2.flagPps
      = true ∧
    ((secRun ⟨fun _ => none, fun _ => 0⟩ 2 { GpsdUnit.zero with ppsPeer := some 2 }
        ⟨false, true, false, 0, 0⟩ 0
        (List.replicate 5 (.record (some ppsPulse) (2 ^ 32) false) ++ [.timer, .poll])).2.flagPps
        = true →
      (secRun ⟨fun _ => none, fun _ => 0⟩ 2 { GpsdUnit.zero with ppsPeer := some 2 }
        ⟨false, true, false, 0, 0⟩ 0
        (List.replicate 5 (.record (some ppsPulse) (2 ^ 32) false) ++ [.timer, .poll])).2.clkFlag1
        = true ∧
      0 < (secRun ⟨fun _ => none, fun _ => 0⟩ 2 { GpsdUnit.zero with ppsPeer := some 2 }
        ⟨false, true, false, 0, 0⟩ 0
        (List.replicate 5 (.record (some ppsPulse) (2 ^ 32) false) ++ [.timer, .poll])).1.ppscount2 ∧
      (secRun ⟨fun _ => none, fun _ => 0⟩ 2 { GpsdUnit.zero with ppsPeer := some 2 }
        ⟨false, true, false, 0, 0⟩ 0
        (List.replicate 5 (.record (some ppsPulse) (2 ^ 32) false) ++ [.timer, .poll])).2.sinceFed
        < pps2Maxcount)
  := ⟨⟨rfl, rfl, rfl⟩, by decide, secRun_flagPps _ _ _ _ _ _ rfl rfl rfl⟩

end GpsdJson
