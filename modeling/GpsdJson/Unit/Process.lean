import GpsdJson.Unit.State

/-!
# Processing a record

`gpsd_parse` dispatches a parsed record on its `class` member to `process_tpv`,
`process_pps`, `process_toff`, `process_version` or `process_watch`, which update the
unit's timing state; it then feeds the secondary peer from a fresh PPS pulse, drops a PPS
or serial time stamp that is too old to pair with the other, and lets the operation mode
decide whether the primary peer gets a sample (`eval_serial`, `eval_strict`,
`eval_auto`).

What `process_pps` and `process_toff` do with a record whose times do not parse is stated
exactly by `processPps_reject` and `processToff_reject`: they store the record's receive
time, and its first time pair when only the second one fails, and leave the flags alone.
-/

namespace GpsdJson

/-! ### Helpers -/

/-- `clamped_precision`. -/
def clampedPrecision (rawprec : Int) : Int :=
  let r := if rawprec > 0 then 0 else rawprec
  if r < -32 then -32 else r

/-- The fraction loop of `convert_ascii_time` over the text after the `.`: `dw` is the
weight in nanoseconds of the next digit; the result is the nanoseconds and the text from the
first byte that is not a digit. -/
def fracDigits : List UInt8 → Int → Int → Int × List UInt8
  | [], _, ns => (ns, [])
  | ch :: s, dw, ns =>
    if isDigit ch then fracDigits s (dw / 10) (ns + (ch - 0x30).toNat * dw) else (ns, ch :: s)

/-- `convert_ascii_time`: the date and time `strptime` reads, an optional fraction, and
then exactly `Z`. -/
def convertAsciiTime (E : Ext) (gpsTime : List UInt8) : Option LFp :=
  match E.strptime gpsTime with
  | none => none
  | some (sec, n) =>
    let (nsec, ep) : Int × List UInt8 := match gpsTime.drop n with
      | 0x2E :: rest => fracDigits rest 100000000 0
      | ep => (0, ep)
    if ep = [0x5A] then some (tspecIntvToLfp sec nsec) else none

/-- The nanoseconds that the fraction digits `d₁ … dₖ` stand for: the sum of `dᵢ · 10^(9-i)`
over the first `min k 9` digits, the later ones truncated (indices here count from `0`). -/
def fracNanos (ds : List UInt8) : Int :=
  ((ds.take 9).enum.map fun p => ((p.2 - 0x30).toNat : Int) * 10 ^ (8 - p.1)).sum

/-- Over a run of digits `ds` followed by a byte that is not one, the fraction loop started
at weight `10^8 / 10^s` adds each digit times its weight `10^8 / 10^i` and stops at the
byte. -/
theorem fracDigits_run {r : List UInt8} (hr : ∀ c ∈ r.head?, isDigit c = false) :
    (ds : List UInt8) → (∀ d ∈ ds, isDigit d = true) → (s : Nat) → (ns : Int) →
    fracDigits (ds ++ r) ((10 ^ 8 / 10 ^ s : Nat) : Int) ns
      = (ns + ((ds.enumFrom s).map fun p =>
          ((p.2 - 0x30).toNat : Int) * ((10 ^ 8 / 10 ^ p.1 : Nat) : Int)).sum, r)
  | [], _, s, ns => by
    cases r with
    | nil => simp [fracDigits]
    | cons c r => simp_all [fracDigits]
  | d :: ds, hds, s, ns => by
    have hd : isDigit d = true := hds d (List.mem_cons_self _ _)
    have hw : ((10 ^ 8 / 10 ^ s : Nat) : Int) / 10 = ((10 ^ 8 / 10 ^ (s + 1) : Nat) : Int) := by
      rw [Nat.pow_succ 10 s, ← Nat.div_div_eq_div_mul]
      generalize 10 ^ 8 / 10 ^ s = a
      omega
    rw [List.cons_append, fracDigits, if_pos hd, hw,
      fracDigits_run hr ds (fun d h => hds d (List.mem_cons_of_mem _ h))]
    simp only [List.enumFrom_cons, List.map_cons, List.sum_cons, add_assoc]

/-- The weights of the loop, `10^8 / 10^i`, are those of `fracNanos` on the first nine
digits and zero from the tenth on. -/
theorem fracNanos_eq_weights (ds : List UInt8) :
  ((ds.enum.map fun p => ((p.2 - 0x30).toNat : Int) * ((10 ^ 8 / 10 ^ p.1 : Nat) : Int)).sum)
    = fracNanos ds
  := by
  rw [← List.take_append_drop 9 ds, List.enum, List.enumFrom_append, List.map_append,
    List.sum_append, List.take_append_drop, fracNanos, List.enum]
  have hlate : ∀ p ∈ (ds.drop 9).enumFrom (0 + (ds.take 9).length),
      ((p.2 - 0x30).toNat : Int) * ((10 ^ 8 / 10 ^ p.1 : Nat) : Int) = 0 := by
    intro p hp
    have h1 := List.le_fst_of_mem_enumFrom hp
    have h2 := List.fst_lt_add_of_mem_enumFrom hp
    simp only [List.length_take, List.length_drop] at h1 h2
    have h9 : 10 ^ 8 < 10 ^ p.1 := Nat.pow_lt_pow_right (by decide) (by omega)
    rw [Nat.div_eq_of_lt h9, Nat.cast_zero, Int.mul_zero]
  have hearly : ∀ p ∈ (ds.take 9).enumFrom 0,
      ((p.2 - 0x30).toNat : Int) * ((10 ^ 8 / 10 ^ p.1 : Nat) : Int)
        = ((p.2 - 0x30).toNat : Int) * 10 ^ (8 - p.1) := by
    intro p hp
    have h := List.fst_lt_add_of_mem_enumFrom hp
    simp only [List.length_take] at h
    rw [Nat.pow_div (by omega) (by decide)]
    push_cast
    rfl
  rw [List.map_congr_left hlate, List.map_congr_left hearly]
  simp [nsmul_zero]

/-- Whatever text follows the `.`, the nanoseconds the fraction loop builds from weight
`10^8` lie in `[0, 10^9)`: the weight falls by a factor ten per digit while the count
grows by at most nine times the weight. -/
theorem fracDigits_lt : (s : List UInt8) → (dw ns : Int) → 0 ≤ dw → 0 ≤ ns →
    ns + 10 * dw ≤ 10 ^ 9 → ns < 10 ^ 9 →
    0 ≤ (fracDigits s dw ns).1 ∧ (fracDigits s dw ns).1 < 10 ^ 9
  | [], _, ns, _, h0, _, hlt => ⟨h0, hlt⟩
  | ch :: s, dw, ns, hdw, h0, hle, hlt => by
    rw [fracDigits]
    split
    · rename_i hd
      have hd9 : ((ch - 0x30).toNat : Int) ≤ 9 := by have := digit_toNat_lt hd; omega
      have hmul : ((ch - 0x30).toNat : Int) * dw ≤ 9 * dw :=
        Int.mul_le_mul_of_nonneg_right hd9 hdw
      have hpos : 0 ≤ ((ch - 0x30).toNat : Int) * dw := Int.mul_nonneg (by omega) hdw
      exact fracDigits_lt s _ _ (by omega) (by omega) (by omega) (by omega)
    · exact ⟨h0, hlt⟩

/-- `convert_ascii_time` on a date and time that `strptime` reads, a `.` and the digits `ds`
up to the first byte that is not a digit: it accepts exactly when `Z` and the end of the
string follow the digits, the nanoseconds are the first nine fraction digits truncated, and
they lie in `[0, 10^9)` however many digits there are. -/
theorem convertAsciiTime_fraction (E : Ext) (pre ds r : List UInt8) (sec : Int)
    (hp : E.strptime (pre ++ 0x2E :: (ds ++ r)) = some (sec, pre.length))
    (hds : ∀ d ∈ ds, isDigit d = true) (hr : ∀ c ∈ r.head?, isDigit c = false) :
  convertAsciiTime E (pre ++ 0x2E :: (ds ++ r))
      = (if r = [0x5A] then some (tspecIntvToLfp sec (fracNanos ds)) else none) ∧
    fracDigits (ds ++ r) 100000000 0 = (fracNanos ds, r) ∧
    0 ≤ fracNanos ds ∧ fracNanos ds < 10 ^ 9
  := by
  have hrun : fracDigits (ds ++ r) 100000000 0 = (fracNanos ds, r) := by
    have h := fracDigits_run hr ds hds 0 0
    rw [← List.enum_eq_enumFrom, fracNanos_eq_weights, zero_add] at h
    exact h
  have hlt := fracDigits_lt (ds ++ r) 100000000 0 (by decide) le_rfl (by decide) (by decide)
  rw [hrun] at hlt
  refine ⟨?_, hrun, hlt⟩
  simp only [convertAsciiTime, hp, List.drop_left, hrun]

/-- Ten fraction digits and then `Z`: the record is accepted and the tenth digit is
dropped. -/
theorem convertAsciiTime_fraction_ten_digits :
  convertAsciiTime ⟨fun _ => some (1000, 19), fun _ => 0⟩
      (cbytes "2024-01-02T03:04:05" ++ 0x2E :: (cbytes "1234567891" ++ cbytes "Z"))
    = some (tspecIntvToLfp 1000 123456789)
  := (convertAsciiTime_fraction _ _ _ _ 1000 (by decide) (by decide) (by decide)).1.trans
      (by decide)

/-! ### Operation modes -/

/-- `enter_opmode`. -/
def enterOpmode (up : GpsdUnit) (mode : Nat) : GpsdUnit :=
  let up := if mode % 4 = 2 then { up with flRawibt := false, ppscount := ppsMaxcount / 2 }
    else up
  { up with flPps := false, flIbt := false }

/-- `leave_opmode`. -/
def leaveOpmode (up : GpsdUnit) (mode : Nat) : GpsdUnit :=
  let up := if mode % 4 = 2 then { up with flRawibt := false, ppscount := 0 } else up
  { up with flPps := false, flIbt := false }

/-- `enter_opmode` as one update of the unit. -/
theorem enterOpmode_eq (up : GpsdUnit) (mode : Nat) :
  enterOpmode up mode
    = { up with flRawibt := if mode % 4 = 2 then false else up.flRawibt,
                ppscount := if mode % 4 = 2 then ppsMaxcount / 2 else up.ppscount,
                flPps := false, flIbt := false }
  := by
  unfold enterOpmode
  split <;> rfl

/-- `leave_opmode` as one update of the unit. -/
theorem leaveOpmode_eq (up : GpsdUnit) (mode : Nat) :
  leaveOpmode up mode
    = { up with flRawibt := if mode % 4 = 2 then false else up.flRawibt,
                ppscount := if mode % 4 = 2 then 0 else up.ppscount,
                flPps := false, flIbt := false }
  := by
  unfold leaveOpmode
  split <;> rfl

/-- `gpsd_control` for `peer`, configured with operation mode `cfgMode` and the fudge
times `fudge1` and `fudge2` (as `dtolfp` converts them).  The `FLAG_PPS` bit of the
secondary peer is peer state outside the unit. -/
def gpsdControl (up : GpsdUnit) (peer : PeerId) (cfgMode : Nat) (fudge1 fudge2 : LFp) :
    GpsdUnit :=
  if up.ppsPeer = some peer then { up with ppsFudge2 := fudge1 }
  else
    let up := { up with ppsFudge := fudge1, ibtFudge := fudge2 }
    if (up.mode ^^^ cfgMode) % 4 ≠ 0 then
      let up := leaveOpmode up up.mode
      let up := { up with mode := cfgMode % 4 }
      enterOpmode up up.mode
    else up

/-- `gpsd_control` sets the fudges and, on the primary peer, the operation mode and what the
mode switch resets, and nothing else. -/
theorem gpsdControl_eq (up : GpsdUnit) (peer : PeerId) (cfgMode : Nat) (fudge1 fudge2 : LFp) :
  ∃ ppsFudge ppsFudge2 ibtFudge mode flRawibt ppscount flPps flIbt,
    gpsdControl up peer cfgMode fudge1 fudge2
      = { up with ppsFudge := ppsFudge, ppsFudge2 := ppsFudge2, ibtFudge := ibtFudge,
                  mode := mode, flRawibt := flRawibt, ppscount := ppscount, flPps := flPps,
                  flIbt := flIbt }
  := by
  unfold gpsdControl
  split
  · exact ⟨up.ppsFudge, _, up.ibtFudge, up.mode, up.flRawibt, up.ppscount, up.flPps, up.flIbt, rfl⟩
  · dsimp only
    split
    · rw [enterOpmode_eq, leaveOpmode_eq]
      exact ⟨_, up.ppsFudge2, _, _, _, _, _, _, rfl⟩
    · exact ⟨_, up.ppsFudge2, _, up.mode, up.flRawibt, up.ppscount, up.flPps, up.flIbt, rfl⟩

/-- The end of a successful `gpsd_start` of `peer`, unit number `unit`, configured with
operation mode `cfgMode`: the unit takes the peer's operation mode, and then a unit number
from 128 on makes `peer` the secondary peer while any other enters the mode. -/
def startOpmode (up : GpsdUnit) (unit : Nat) (peer : PeerId) (cfgMode : Nat) : GpsdUnit :=
  let up := { up with mode := if cfgMode % 4 > 2 then 0 else cfgMode % 4 }
  if unit ≥ 128 then { up with ppsPeer := some peer } else enterOpmode up up.mode

@[simp] theorem startOpmode_unit (up : GpsdUnit) (unit : Nat) (peer : PeerId) (cfgMode : Nat) :
  (startOpmode up unit peer cfgMode).unit = up.unit
  := by
  unfold startOpmode; split_ifs <;> simp [enterOpmode_eq]

@[simp] theorem startOpmode_refcount (up : GpsdUnit) (unit : Nat) (peer : PeerId)
    (cfgMode : Nat) :
  (startOpmode up unit peer cfgMode).refcount = up.refcount
  := by
  unfold startOpmode; split_ifs <;> simp [enterOpmode_eq]

@[simp] theorem startOpmode_fdt (up : GpsdUnit) (unit : Nat) (peer : PeerId) (cfgMode : Nat) :
  (startOpmode up unit peer cfgMode).fdt = up.fdt
  := by
  unfold startOpmode; split_ifs <;> simp [enterOpmode_eq]

/-- The unit's part of `gpsd_stop_socket`: the retry delay grows, and everything learned
over the closed connection is forgotten. -/
def stopSocketUnit (up : GpsdUnit) : GpsdUnit :=
  { up with tickover := up.tickpres, tickpres := min (up.tickpres + 5) tickoverHigh,
            flVers := false, flIbt := false, flPps := false, flWatch := false }

/-! ### Evaluation -/

/-- `eval_strict`: the serial reference time with the PPS receive time. -/
def evalStrict (up : GpsdUnit) : GpsdUnit × List Sample :=
  if up.flIbt && up.flPps then
    ({ up with flPps := false, flIbt := false, tcIbtUsed := up.tcIbtUsed + 1 },
      [⟨.strict, up.ibtStamp, up.ppsRecvt, up.ppsPrec⟩])
  else (up, [])

/-- `eval_pps_secondary`.  The `FLAG_PPS` bit it may set is peer state outside the unit. -/
def evalPpsSecondary (up : GpsdUnit) : GpsdUnit × List Sample :=
  if up.flPps2 then
    ({ up with ppscount2 := min pps2Maxcount (up.ppscount2 + 2), flPps2 := false,
               tcPpsUsed := up.tcPpsUsed + 1 },
      [⟨.ppsSecondary, up.ppsStamp2, up.ppsRecvt2, up.ppsPrec⟩])
  else (up, [])

/-- `eval_serial`: the serial reference and receive times. -/
def evalSerial (up : GpsdUnit) : GpsdUnit × List Sample :=
  if up.flIbt then
    ({ up with flIbt := false, tcIbtUsed := up.tcIbtUsed + 1 },
      [⟨.serial, up.ibtStamp, up.ibtRecvt, up.ibtPrec⟩])
  else (up, [])

/-- The PPS credit account of `eval_auto`: a pulse earns credit and a missing one loses it;
full credit leaves raw serial mode, and no credit enters it. -/
def ppsCredit (up : GpsdUnit) : GpsdUnit :=
  if up.flPps then
    let c := min ppsMaxcount (up.ppscount + ppsInccount)
    { up with ppscount := c,
              flRawibt := if c = ppsMaxcount ∧ up.flRawibt then false else up.flRawibt }
  else
    let c := up.ppscount - ppsDeccount
    { up with ppscount := c, flRawibt := if c = 0 ∧ !up.flRawibt then true else up.flRawibt }

/-- `eval_auto`: the PPS credit account decides between `eval_serial` and
`eval_strict`. -/
def evalAuto (up : GpsdUnit) : GpsdUnit × List Sample :=
  if !up.flIbt then (up, [])
  else
    let up := ppsCredit up
    if up.flRawibt then evalSerial up else evalStrict up

/-! ### Records -/

/-- `process_tpv`, for the record `jctx` received at `rtime` (tagged with the record's
index).  `save_ltc` writes peer state outside the unit. -/
def processTpv (E : Ext) (up : GpsdUnit) (jctx : JsonCtx) (rtime : Stamped) : GpsdUnit :=
  let gpsMode := toCInt (jsonObjectLookupIntDefault jctx 0 (cbytes "mode") 0)
  let gpsTime := jsonObjectLookupString jctx 0 (cbytes "time")
  if gpsMode < 2 ∨ gpsTime = none then
    { up with tcIbtRecv := if up.pfToff then up.tcIbtRecv else up.tcIbtRecv + 1,
              tcNosync := up.tcNosync + 1, flIbt := false, flPps := false, flNosync := true }
  else
    let up := { up with flNosync := false }
    let up :=
      if up.pfToff then up
      else
        let up := { up with tcIbtRecv := up.tcIbtRecv + 1 }
        match convertAsciiTime E (gpsTime.getD []) with
        | some stamp =>
          { up with ibtStamp := ⟨stamp, rtime.src⟩, ibtLocal := rtime,
                    ibtRecvt := rtime.sub up.ibtFudge, flIbt := true }
        | none => { up with tcBreply := up.tcBreply + 1, flIbt := false }
    { up with ibtPrec :=
        clampedPrecision (E.eptLog2 (jsonObjectLookupPrimitive jctx 0 (cbytes "ept"))) }

/-- The fraction members of a PPS record and their scale: nanoseconds from protocol 3.9
on, microseconds before. -/
def ppsFracNames (pfNsec : Bool) : List UInt8 × List UInt8 × Int :=
  if pfNsec then (cbytes "clock_nsec", cbytes "real_nsec", 1)
  else (cbytes "clock_musec", cbytes "real_musec", 1000)

/-- `process_pps`; `clkFlag2` is the primary peer's `CLK_FLAG2`, which keeps the pulse from
the primary channel.  `save_ltc` and `pp->lastrec` are peer state outside the unit. -/
def processPps (up : GpsdUnit) (jctx : JsonCtx) (rtime : Stamped) (clkFlag2 : Bool) :
    GpsdUnit :=
  let up := { up with tcPpsRecv := up.tcPpsRecv + 1 }
  if up.flNosync then up
  else
    let up := { up with ppsLocal := rtime }
    let (clockFrac, realFrac, fscale) := ppsFracNames up.pfNsec
    match getBinaryTime jctx (cbytes "clock_sec") clockFrac fscale with
    | none => { up with tcBreply := up.tcBreply + 1 }
    | some recvt2 =>
      let up := { up with ppsRecvt2 := ⟨recvt2, rtime.src⟩ }
      match getBinaryTime jctx (cbytes "real_sec") realFrac fscale with
      | none => { up with tcBreply := up.tcBreply + 1 }
      | some stamp2 =>
        let up := { up with ppsStamp2 := ⟨stamp2, rtime.src⟩ }
        let xlog2 := toCInt (jsonObjectLookupIntDefault jctx 0 (cbytes "precision") up.ibtPrec)
        let up := { up with ppsPrec := clampedPrecision xlog2 }
        let up := { up with ppsRecvt := up.ppsRecvt2.sub up.ppsFudge }
        let up := { up with ppsRecvt2 := up.ppsRecvt2.sub up.ppsFudge2 }
        let up := { up with ppsStamp := ⟨roundSecond up.ppsRecvt.val, up.ppsRecvt.src⟩ }
        { up with flPps := !clkFlag2, flPps2 := true }

/-- `process_toff`.  `save_ltc` writes peer state outside the unit. -/
def processToff (up : GpsdUnit) (jctx : JsonCtx) (rtime : Stamped) : GpsdUnit :=
  let up := { up with tcIbtRecv := up.tcIbtRecv + 1, pfToff := true }
  if up.flNosync then up
  else
    match getBinaryTime jctx (cbytes "clock_sec") (cbytes "clock_nsec") 1 with
    | none => { up with tcBreply := up.tcBreply + 1 }
    | some recvt =>
      let up := { up with ibtRecvt := ⟨recvt, rtime.src⟩ }
      match getBinaryTime jctx (cbytes "real_sec") (cbytes "real_nsec") 1 with
      | none => { up with tcBreply := up.tcBreply + 1 }
      | some stamp =>
        let up := { up with ibtStamp := ⟨stamp, rtime.src⟩ }
        { up with ibtRecvt := up.ibtRecvt.sub up.ibtFudge, ibtLocal := rtime, flIbt := true }

/-- `process_version`.  When it has no watch yet it also writes the watch request to the
socket, through `up->buffer`, which `gpsd_receive` refills from its start once the record
is processed. -/
def processVersion (up : GpsdUnit) (jctx : JsonCtx) : GpsdUnit :=
  let (pvhi, errno) := jsonObjectLookupInt jctx 0 (cbytes "proto_major") 0
  let (pvlo, errno) := jsonObjectLookupInt jctx 0 (cbytes "proto_minor") errno
  if errno = 0 then
    let pv := protoVersion (toUInt16 pvhi) (toUInt16 pvlo)
    { up with protoVersion := pv, flVers := true, pfNsec := decide (pv ≥ protoVersion 3 9),
              pfToff := decide (pv ≥ protoVersion 3 10) }
  else up

/-- `process_watch`. -/
def processWatch (up : GpsdUnit) (jctx : JsonCtx) : GpsdUnit :=
  match jsonObjectLookupString jctx 0 (cbytes "device") with
  | none => up
  | some path =>
    if path ≠ up.device then up
    else { up with flWatch := decide (jsonObjectLookupBool jctx 0 (cbytes "enable") > 0 ∧
                                      jsonObjectLookupBool jctx 0 (cbytes "json") > 0) }

/-- A `VERSION` record sets the protocol fields and nothing else. -/
theorem processVersion_eq (up : GpsdUnit) (jctx : JsonCtx) :
  ∃ pv vers nsec toff,
    processVersion up jctx
      = { up with protoVersion := pv, flVers := vers, pfNsec := nsec, pfToff := toff }
  := by
  unfold processVersion
  dsimp only
  split
  · exact ⟨_, _, _, _, rfl⟩
  · exact ⟨up.protoVersion, up.flVers, up.pfNsec, up.pfToff, rfl⟩

/-- A `WATCH` record sets the watch flag and nothing else. -/
theorem processWatch_eq (up : GpsdUnit) (jctx : JsonCtx) :
  ∃ w, processWatch up jctx = { up with flWatch := w }
  := by
  unfold processWatch
  split
  · exact ⟨up.flWatch, rfl⟩
  · split
    · exact ⟨up.flWatch, rfl⟩
    · exact ⟨_, rfl⟩

/-! ### Rejected records -/

/-- A PPS record whose pulse time does not parse leaves the unit as it was but for the
tallies and `pps_local`; one whose pulse time parses and whose reference time does not also
leaves the pulse time, unfudged, in `pps_recvt2`.  The flags stay as they were. -/
theorem processPps_reject (up : GpsdUnit) (jctx : JsonCtx) (rtime : Stamped)
    (clkFlag2 : Bool) (hsync : up.flNosync = false) :
  (getBinaryTime jctx (cbytes "clock_sec") (ppsFracNames up.pfNsec).1
      (ppsFracNames up.pfNsec).2.2 = none →
    processPps up jctx rtime clkFlag2
      = { up with tcPpsRecv := up.tcPpsRecv + 1, ppsLocal := rtime,
                  tcBreply := up.tcBreply + 1 }) ∧
  ∀ r, getBinaryTime jctx (cbytes "clock_sec") (ppsFracNames up.pfNsec).1
      (ppsFracNames up.pfNsec).2.2 = some r →
    getBinaryTime jctx (cbytes "real_sec") (ppsFracNames up.pfNsec).2.1
      (ppsFracNames up.pfNsec).2.2 = none →
    processPps up jctx rtime clkFlag2
      = { up with tcPpsRecv := up.tcPpsRecv + 1, ppsLocal := rtime,
                  ppsRecvt2 := ⟨r, rtime.src⟩, tcBreply := up.tcBreply + 1 }
  := by
  refine ⟨fun h1 => ?_, fun r h1 h2 => ?_⟩
  · simp [processPps, hsync, h1]
  · simp [processPps, hsync, h1, h2]

/-- In the PPS record `{"class":"PPS","clock_sec":1,"clock_musec":10000000000000000,...}`
of a pre-3.9 GPSD the fraction is a `long` that `json_object_lookup_int` returns without
error, and `get_binary_time` accepts the pair, yet the fraction times `fscale = 1000`
exceeds `LONG_MAX`: the multiplication `ts.tv_nsec *= fscale` overflows. -/
theorem getBinaryTime_musec_overflow :
  ∃ ctx, jsonParseTokens (cbytes ("\x7b\"class\":\"PPS\",\"clock_sec\":1," ++
        "\"clock_musec\":10000000000000000,\"real_sec\":1,\"real_musec\":0\x7d")) 11
      [⟨.object, 0, 89, 5⟩, ⟨.string, 2, 7, 1⟩, ⟨.string, 10, 13, 0⟩, ⟨.string, 16, 25, 1⟩,
        ⟨.primitive, 27, 28, 0⟩, ⟨.string, 30, 41, 1⟩, ⟨.primitive, 43, 60, 0⟩,
        ⟨.string, 62, 70, 1⟩, ⟨.primitive, 72, 73, 0⟩, ⟨.string, 75, 85, 1⟩,
        ⟨.primitive, 87, 88, 0⟩] = some ctx ∧
    jsonObjectLookupInt ctx 0 (ppsFracNames false).1 0 = (10000000000000000, 0) ∧
    2 ^ (longBits - 1) - 1 < 10000000000000000 * (ppsFracNames false).2.2 ∧
    (getBinaryTime ctx (cbytes "clock_sec") (ppsFracNames false).1
      (ppsFracNames false).2.2).isSome
  := ⟨_, rfl, by decide⟩

/-- A TOFF record whose receive time does not parse leaves the unit as it was but for the
tally and `pf_toff`; one whose receive time parses and whose reference time does not also
leaves the receive time, unfudged, in `ibt_recvt`.  The flags stay as they were. -/
theorem processToff_reject (up : GpsdUnit) (jctx : JsonCtx) (rtime : Stamped)
    (hsync : up.flNosync = false) :
  (getBinaryTime jctx (cbytes "clock_sec") (cbytes "clock_nsec") 1 = none →
    processToff up jctx rtime
      = { up with tcIbtRecv := up.tcIbtRecv + 1, pfToff := true,
                  tcBreply := up.tcBreply + 1 }) ∧
  ∀ r, getBinaryTime jctx (cbytes "clock_sec") (cbytes "clock_nsec") 1 = some r →
    getBinaryTime jctx (cbytes "real_sec") (cbytes "real_nsec") 1 = none →
    processToff up jctx rtime
      = { up with tcIbtRecv := up.tcIbtRecv + 1, pfToff := true,
                  ibtRecvt := ⟨r, rtime.src⟩, tcBreply := up.tcBreply + 1 }
  := by
  refine ⟨fun h1 => ?_, fun r h1 h2 => ?_⟩
  · simp [processToff, hsync, h1]
  · simp [processToff, hsync, h1, h2]

/-- The record `{"class":"PPS"}`, which has no time members, makes `process_pps` fail, and
yet it sets `pps_local` to its own receive time.  The record
`{"class":"TOFF","clock_sec":5,"clock_nsec":0}`, whose reference time is missing, makes
`process_toff` fail, and yet it leaves its receive time in `ibt_recvt` while `fl_ibt`
still vouches for the time stamps of an earlier record. -/
theorem process_reject_changes_timing :
  ∃ pps toff,
    jsonParseTokens (cbytes "\x7b\"class\":\"PPS\"\x7d") 3
        [⟨.object, 0, 15, 1⟩, ⟨.string, 2, 7, 1⟩, ⟨.string, 10, 13, 0⟩] = some pps ∧
    jsonParseTokens (cbytes "\x7b\"class\":\"TOFF\",\"clock_sec\":5,\"clock_nsec\":0\x7d") 7
        [⟨.object, 0, 45, 3⟩, ⟨.string, 2, 7, 1⟩, ⟨.string, 10, 14, 0⟩, ⟨.string, 17, 26, 1⟩,
          ⟨.primitive, 28, 29, 0⟩, ⟨.string, 31, 41, 1⟩, ⟨.primitive, 43, 44, 0⟩] = some toff ∧
    getBinaryTime pps (cbytes "clock_sec") (cbytes "clock_musec") 1000 = none ∧
    (processPps GpsdUnit.zero pps ⟨2 ^ 32, 1⟩ false).ppsLocal ≠ GpsdUnit.zero.ppsLocal ∧
    getBinaryTime toff (cbytes "real_sec") (cbytes "real_nsec") 1 = none ∧
    (processToff { GpsdUnit.zero with flIbt := true } toff ⟨2 ^ 32, 1⟩).ibtRecvt
      = ⟨tspecStampToLfp 5 0, 1⟩ ∧
    (processToff { GpsdUnit.zero with flIbt := true } toff ⟨2 ^ 32, 1⟩).flIbt = true
  := ⟨_, _, rfl, rfl, by decide⟩

/-! ### `gpsd_parse` -/

/-- The check of `gpsd_parse` that weeds out stale time stamps: a PPS pulse received a
second or more before the serial time, or serial time received before the pulse. -/
def dropStale (up : GpsdUnit) : GpsdUnit :=
  if up.flPps && up.flIbt then
    let diff := lfpsint (up.ibtLocal.val - up.ppsLocal.val)
    if diff > 0 then { up with flPps := false }
    else if diff < 0 then { up with flIbt := false }
    else up
  else up

/-- The check clears the pulse, clears the serial time, or leaves the unit as it is. -/
theorem dropStale_cases (up : GpsdUnit) :
  dropStale up = up ∨ dropStale up = { up with flPps := false } ∨
    dropStale up = { up with flIbt := false }
  := by
  rw [dropStale]
  by_cases h : (up.flPps && up.flIbt) = true
  · rw [if_pos h]
    dsimp only
    by_cases h1 : lfpsint (up.ibtLocal.val - up.ppsLocal.val) > 0
    · exact .inr (.inl (if_pos h1))
    rw [if_neg h1]
    by_cases h2 : lfpsint (up.ibtLocal.val - up.ppsLocal.val) < 0
    · exact .inr (.inr (if_pos h2))
    · exact .inl (if_neg h2)
  · exact .inl (if_neg h)

/-- The feed of the secondary peer in `gpsd_parse`, when the unit has one. -/
def feedSecondary (up : GpsdUnit) : GpsdUnit × List Sample :=
  if up.ppsPeer.isSome then evalPpsSecondary up else (up, [])

/-- The dispatch of `gpsd_parse` on the operation mode. -/
def evalMode (up : GpsdUnit) : GpsdUnit × List Sample :=
  match up.mode with
  | 1 => evalStrict up
  | 2 => evalAuto up
  | _ => evalSerial up

/-- The dispatch of `gpsd_parse` on the class `clsid` of a record: the unit after the
`process_*` function of the class, or `none` for a class the driver does not know. -/
def processRecord (E : Ext) (up : GpsdUnit) (jctx : JsonCtx) (clsid : List UInt8)
    (rtime : Stamped) (clkFlag2 : Bool) : Option GpsdUnit :=
  if clsid = cbytes "TPV" then some (processTpv E up jctx rtime)
  else if clsid = cbytes "PPS" then some (processPps up jctx rtime clkFlag2)
  else if clsid = cbytes "TOFF" then some (processToff up jctx rtime)
  else if clsid = cbytes "VERSION" then some (processVersion up jctx)
  else if clsid = cbytes "WATCH" then some (processWatch up jctx)
  else none

/-- A record of a known class is processed by the `process_*` function of its class. -/
theorem processRecord_cases {E : Ext} {up up' : GpsdUnit} {jctx : JsonCtx} {clsid : List UInt8}
    {rtime : Stamped} {f : Bool} (h : processRecord E up jctx clsid rtime f = some up') :
  clsid = cbytes "TPV" ∧ up' = processTpv E up jctx rtime ∨
    clsid = cbytes "PPS" ∧ up' = processPps up jctx rtime f ∨
    clsid = cbytes "TOFF" ∧ up' = processToff up jctx rtime ∨
    clsid = cbytes "VERSION" ∧ up' = processVersion up jctx ∨
    clsid = cbytes "WATCH" ∧ up' = processWatch up jctx
  := by
  rw [processRecord] at h
  by_cases h1 : clsid = cbytes "TPV"
  · rw [if_pos h1] at h; exact .inl ⟨h1, (Option.some.inj h).symm⟩
  rw [if_neg h1] at h
  by_cases h2 : clsid = cbytes "PPS"
  · rw [if_pos h2] at h; exact .inr (.inl ⟨h2, (Option.some.inj h).symm⟩)
  rw [if_neg h2] at h
  by_cases h3 : clsid = cbytes "TOFF"
  · rw [if_pos h3] at h; exact .inr (.inr (.inl ⟨h3, (Option.some.inj h).symm⟩))
  rw [if_neg h3] at h
  by_cases h4 : clsid = cbytes "VERSION"
  · rw [if_pos h4] at h; exact .inr (.inr (.inr (.inl ⟨h4, (Option.some.inj h).symm⟩)))
  rw [if_neg h4] at h
  by_cases h5 : clsid = cbytes "WATCH"
  · rw [if_pos h5] at h; exact .inr (.inr (.inr (.inr ⟨h5, (Option.some.inj h).symm⟩)))
  rw [if_neg h5] at h
  cases h

/-- The rest of `gpsd_parse` once a record of a known class was processed: count it, feed
the secondary peer, weed out stale stamps, and evaluate for the primary peer. -/
def gpsdEvaluate (up : GpsdUnit) : GpsdUnit × List Sample :=
  let r2 := feedSecondary { up with tcRecv := up.tcRecv + 1 }
  let r1 := evalMode (dropStale r2.1)
  (r1.1, r2.2 ++ r1.2)

/-- The record processing of `gpsd_parse` given what `json_parse_record` made of the line:
`none` when it rejected it. -/
def gpsdParseRecord (E : Ext) (up : GpsdUnit) (rec : Option JsonCtx) (rtime : Stamped)
    (clkFlag2 : Bool) : GpsdUnit × List Sample :=
  match rec with
  | none => ({ up with tcBreply := up.tcBreply + 1 }, [])
  | some jctx =>
    match jsonObjectLookupString jctx 0 (cbytes "class") with
    | none => ({ up with tcBreply := up.tcBreply + 1 }, [])
    | some clsid =>
      match processRecord E up jctx clsid rtime clkFlag2 with
      | none => (up, [])
      | some up => gpsdEvaluate up

/-- `gpsd_parse` on the line `line` received at `rtime`. -/
def gpsdParse (E : Ext) (jsmn : Jsmn) (up : GpsdUnit) (line : List UInt8) (rtime : Stamped)
    (clkFlag2 : Bool) : GpsdUnit × List Sample :=
  gpsdParseRecord E up (jsonParseRecord jsmn line) rtime clkFlag2

end GpsdJson
