import GpsdJson.Unit.Fix

/-!
# The data path of a serial time record

A `TPV` record with a fix, or a `TOFF` record once GPSD sends them, gives the unit a serial
time: the reference time of the record, and its receive time, which for `TPV` is the local
time of the read that brought the record and for `TOFF` is GPSD's.  What `gpsd_parse` then
feeds the primary peer depends on the operation mode and on the pulse that may be waiting:
`IBT` mode feeds the serial time alone, unless the waiting pulse was received later, which
makes the serial time count as too old; `STRICT` mode pairs the serial time with the receive
time of a pulse received in the same second, and feeds nothing without one.

* `gpsdParseRecord_tpv`: the samples a `TPV` record with a 2D or 3D fix and a time that
  converts feeds the primary peer, in `IBT` and in `STRICT` mode;
* `gpsdParseRecord_toff`: the same for a `TOFF` record whose time members parse.
* `run_ibt_own_record`: in `IBT` mode no serial time is fed late.  `eval_serial` takes the
  serial time of the record it follows or none, and the mode switches of `gpsd_control` and
  `gpsd_start` clear it, so along every run an event that finds the unit in `IBT` mode feeds
  the primary peer at most one sample, read from the event's own record.  The start of a
  secondary peer is the exception: it sets the unit's mode without leaving the old one, so a
  serial time that waits in `STRICT` mode stays and is fed in `IBT` mode by a later record.
* `run_secondary_own_record`: once the unit has its secondary peer and no pulse waits, every
  event feeds the secondary peer at most one sample, read from the event's own record.  A
  pulse received before the unit had a secondary peer is the exception: `fl_pps2` stays set,
  since neither `gpsd_stop_socket` nor `gpsd_start` clears it.
* `run_start_secondary`: both exceptions at once.  The start of a secondary peer configured
  for `IBT` mode, followed by a `VERSION` or `WATCH` record, feeds exactly the pulse and the
  serial time that waited before the start, whatever mode the unit was in.
-/

namespace GpsdJson

/-! ### Evaluation of a fresh serial time -/

/-- Every sample of the secondary feed goes to the secondary peer. -/
theorem feedSecondary_secondary (v : GpsdUnit) :
  ∀ s ∈ (feedSecondary v).2, s.primary = false
  := by
  unfold feedSecondary evalPpsSecondary
  split
  · split <;> simp [Sample.primary]
  · simp

/-- Every sample of the evaluation of the mode goes to the primary peer. -/
theorem evalMode_primary (v : GpsdUnit) :
  ∀ s ∈ (evalMode v).2, s.primary = true
  := by
  have hs : ∀ u, ∀ s ∈ (evalSerial u).2, s.primary = true := fun u => by
    unfold evalSerial
    split
    · exact List.forall_mem_singleton.2 rfl
    · exact fun _ h => absurd h (List.not_mem_nil _)
  have ht : ∀ u, ∀ s ∈ (evalStrict u).2, s.primary = true := fun u => by
    unfold evalStrict
    split
    · exact List.forall_mem_singleton.2 rfl
    · exact fun _ h => absurd h (List.not_mem_nil _)
  unfold evalMode evalAuto
  split
  · exact ht v
  · split
    · exact fun _ h => absurd h (List.not_mem_nil _)
    · dsimp only
      split
      · exact hs _
      · exact ht _
  · exact hs v

/-- The secondary feed changes the secondary's fields only, and leaves no pulse waiting when
the unit has a secondary peer. -/
theorem feedSecondary_fst (u : GpsdUnit) :
  ∃ a c,
    (feedSecondary u).1
      = { u with ppscount2 := a, flPps2 := if u.ppsPeer.isSome then false else u.flPps2,
                 tcPpsUsed := c }
  := by
  unfold feedSecondary evalPpsSecondary
  by_cases hs : u.ppsPeer.isSome = true
  · rw [if_pos hs, if_pos hs]
    split
    · exact ⟨_, _, rfl⟩
    · rename_i hp
      rw [← Bool.eq_false_iff.2 hp]
      exact ⟨u.ppscount2, u.tcPpsUsed, rfl⟩
  · rw [if_neg hs, if_neg hs]
    exact ⟨u.ppscount2, u.tcPpsUsed, rfl⟩

/-- After a record of a known class `gpsd_parse` evaluates the mode on the counted unit as
the secondary feed leaves it; the samples of the primary peer come from that evaluation
alone, and those of the secondary peer from the feed. -/
theorem gpsdEvaluate_primary (u : GpsdUnit) :
  ∃ a c,
    let v := { u with tcRecv := u.tcRecv + 1, ppscount2 := a,
                      flPps2 := if u.ppsPeer.isSome then false else u.flPps2, tcPpsUsed := c }
    (gpsdEvaluate u).1 = (evalMode (dropStale v)).1 ∧
      (gpsdEvaluate u).2.filter Sample.primary = (evalMode (dropStale v)).2 ∧
      (gpsdEvaluate u).2.filter (fun s => !s.primary)
        = (feedSecondary { u with tcRecv := u.tcRecv + 1 }).2
  := by
  obtain ⟨a, c, hf⟩ := feedSecondary_fst { u with tcRecv := u.tcRecv + 1 }
  have hm := evalMode_primary (dropStale (feedSecondary { u with tcRecv := u.tcRecv + 1 }).1)
  have hs := feedSecondary_secondary { u with tcRecv := u.tcRecv + 1 }
  refine ⟨a, c, ?_, ?_, ?_⟩
  · show (evalMode (dropStale (feedSecondary _).1)).1 = _
    rw [hf]
  · rw [gpsdEvaluate, List.filter_append, List.filter_eq_nil_iff.2 fun s h => by
      rw [hs s h]; decide, List.filter_eq_self.2 hm, List.nil_append, hf]
  · rw [gpsdEvaluate, List.filter_append, List.filter_eq_self.2 fun s h => by rw [hs s h]; rfl,
      List.filter_eq_nil_iff.2 fun s h => by rw [hm s h]; decide, List.append_nil]

/-- Outside `STRICT` and `AUTO` mode `gpsd_parse` dispatches to `eval_serial`. -/
theorem evalMode_of_serial {w : GpsdUnit} (h1 : w.mode ≠ 1) (h2 : w.mode ≠ 2) :
  evalMode w = evalSerial w
  := by
  unfold evalMode
  split
  · exact absurd ‹_› h1
  · exact absurd ‹_› h2
  · rfl

section Evaluate

variable {v : GpsdUnit}

/-- In `IBT` mode a waiting serial time is fed, unless a waiting pulse was received later. -/
theorem evalMode_dropStale_ibt (hibt : v.flIbt = true) (h1 : v.mode ≠ 1) (h2 : v.mode ≠ 2) :
  (evalMode (dropStale v)).2
    = if v.flPps = true ∧ lfpsint (v.ibtLocal.val - v.ppsLocal.val) < 0 then []
      else [⟨.serial, v.ibtStamp, v.ibtRecvt, v.ibtPrec⟩]
  := by
  have hs : ∀ w : GpsdUnit, w.mode = v.mode → (evalMode w).2 = (evalSerial w).2 := fun w hw =>
    by rw [evalMode_of_serial (hw ▸ h1) (hw ▸ h2)]
  unfold dropStale
  cases hp : v.flPps
  · simp [hs, evalSerial, hibt]
  · rw [hibt, Bool.and_self, if_pos rfl]
    dsimp only
    by_cases hpos : lfpsint (v.ibtLocal.val - v.ppsLocal.val) > 0
    · rw [if_pos hpos, if_neg (by omega)]
      simp [hs, evalSerial, hibt]
    · rw [if_neg hpos]
      by_cases hneg : lfpsint (v.ibtLocal.val - v.ppsLocal.val) < 0
      · rw [if_pos hneg, if_pos ⟨rfl, hneg⟩]
        simp [hs, evalSerial]
      · rw [if_neg hneg, if_neg (by omega)]
        simp [hs, evalSerial, hibt]

/-- In `STRICT` mode a waiting serial time is fed with a pulse received in the same
second, and not without one. -/
theorem evalMode_dropStale_strict (hibt : v.flIbt = true) (h1 : v.mode = 1) :
  (evalMode (dropStale v)).2
    = if v.flPps = true ∧ lfpsint (v.ibtLocal.val - v.ppsLocal.val) = 0 then
        [⟨.strict, v.ibtStamp, v.ppsRecvt, v.ppsPrec⟩]
      else []
  := by
  have hs : ∀ w : GpsdUnit, w.mode = v.mode → (evalMode w).2 = (evalStrict w).2 := fun w hw => by
    unfold evalMode
    rw [hw, h1]
  unfold dropStale
  cases hp : v.flPps
  · simp [hs, evalStrict, hp]
  · rw [hibt, Bool.and_self, if_pos rfl]
    dsimp only
    by_cases hpos : lfpsint (v.ibtLocal.val - v.ppsLocal.val) > 0
    · rw [if_pos hpos, if_neg (by omega)]
      simp [hs, evalStrict]
    · rw [if_neg hpos]
      by_cases hneg : lfpsint (v.ibtLocal.val - v.ppsLocal.val) < 0
      · rw [if_pos hneg, if_neg (by omega)]
        simp [hs, evalStrict]
      · rw [if_neg hneg, if_pos ⟨rfl, by omega⟩]
        simp [hs, evalStrict, hibt, hp]

end Evaluate

/-! ### The records -/

section Records

variable {E : Ext} {up : GpsdUnit} {jctx : JsonCtx} {rtime : Stamped}

/-- `process_tpv` on a record with a fix whose time converts, without `TOFF`. -/
theorem processTpv_fix {t : List UInt8} {s : LFp}
    (hfix : 2 ≤ toCInt (jsonObjectLookupIntDefault jctx 0 (cbytes "mode") 0))
    (htime : jsonObjectLookupString jctx 0 (cbytes "time") = some t)
    (hconv : convertAsciiTime E t = some s) (htoff : up.pfToff = false) :
  processTpv E up jctx rtime
    = { up with flNosync := false, tcIbtRecv := up.tcIbtRecv + 1, ibtStamp := ⟨s, rtime.src⟩,
                ibtLocal := rtime, ibtRecvt := rtime.sub up.ibtFudge, flIbt := true,
                ibtPrec := clampedPrecision
                  (E.eptLog2 (jsonObjectLookupPrimitive jctx 0 (cbytes "ept"))) }
  := by
  unfold processTpv
  dsimp only
  rw [if_neg (by simp only [htime, Option.some_ne_none, or_false]; omega),
    if_neg (by rw [htoff]; decide), htime, Option.getD_some, hconv]

/-- `process_toff` on a record whose time members parse, with a fix. -/
theorem processToff_ok {r st : LFp} (hsync : up.flNosync = false)
    (hclock : getBinaryTime jctx (cbytes "clock_sec") (cbytes "clock_nsec") 1 = some r)
    (hreal : getBinaryTime jctx (cbytes "real_sec") (cbytes "real_nsec") 1 = some st) :
  processToff up jctx rtime
    = { up with tcIbtRecv := up.tcIbtRecv + 1, pfToff := true, ibtStamp := ⟨st, rtime.src⟩,
                ibtRecvt := (⟨r, rtime.src⟩ : Stamped).sub up.ibtFudge, ibtLocal := rtime,
                flIbt := true }
  := by
  unfold processToff
  dsimp only
  rw [if_neg (by rw [hsync]; decide), hclock]
  dsimp only
  rw [hreal]

end Records

/-! ### From the record to the samples -/

/-- The samples a `TPV` record with a 2D or 3D fix and a time that converts feeds the primary
peer, when the unit has seen no `TOFF`: in `IBT` mode the record's time, the local receive
time less the serial fudge, and the precision from `ept`, unless a waiting pulse was received
later; in `STRICT` mode the record's time with the receive time of a waiting pulse received
in the same second, and nothing without one. -/
theorem gpsdParseRecord_tpv (E : Ext) (up : GpsdUnit) (jctx : JsonCtx) (rtime : Stamped)
    (clkFlag2 : Bool) (t : List UInt8) (s : LFp)
    (hcls : jsonObjectLookupString jctx 0 (cbytes "class") = some (cbytes "TPV"))
    (hfix : 2 ≤ toCInt (jsonObjectLookupIntDefault jctx 0 (cbytes "mode") 0))
    (htime : jsonObjectLookupString jctx 0 (cbytes "time") = some t)
    (hconv : convertAsciiTime E t = some s) (htoff : up.pfToff = false) :
  (up.mode ≠ 1 → up.mode ≠ 2 →
    (gpsdParseRecord E up (some jctx) rtime clkFlag2).2.filter Sample.primary
      = if up.flPps = true ∧ lfpsint (rtime.val - up.ppsLocal.val) < 0 then []
        else [⟨.serial, ⟨s, rtime.src⟩, rtime.sub up.ibtFudge,
          clampedPrecision (E.eptLog2 (jsonObjectLookupPrimitive jctx 0 (cbytes "ept")))⟩]) ∧
  (up.mode = 1 →
    (gpsdParseRecord E up (some jctx) rtime clkFlag2).2.filter Sample.primary
      = if up.flPps = true ∧ lfpsint (rtime.val - up.ppsLocal.val) = 0 then
          [⟨.strict, ⟨s, rtime.src⟩, up.ppsRecvt, up.ppsPrec⟩]
        else [])
  := by
  have hp : gpsdParseRecord E up (some jctx) rtime clkFlag2
      = gpsdEvaluate (processTpv E up jctx rtime) := by
    rw [gpsdParseRecord, hcls]
    dsimp only
    rw [processRecord, if_pos rfl]
  obtain ⟨a, c, -, he, -⟩ := gpsdEvaluate_primary (processTpv E up jctx rtime)
  rw [hp, he, processTpv_fix hfix htime hconv htoff]
  exact ⟨fun h1 h2 => evalMode_dropStale_ibt rfl h1 h2, fun h1 => evalMode_dropStale_strict rfl h1⟩

/-- The record `{"class":"TPV","mode":2,"time":"Z"}`, with a `strptime` that reads nothing,
feeds a fresh unit its time. -/
theorem gpsdParseRecord_tpv_fresh :
  let toks : List Token := [⟨.object, 0, 35, 3⟩, ⟨.string, 2, 7, 1⟩, ⟨.string, 10, 13, 0⟩,
    ⟨.string, 16, 20, 1⟩, ⟨.primitive, 22, 23, 0⟩, ⟨.string, 25, 29, 1⟩,
    ⟨.string, 32, 33, 0⟩]
  let tpv : JsonCtx :=
    ⟨nulTerminate (cbytes "\x7b\"class\":\"TPV\",\"mode\":2,\"time\":\"Z\"\x7d" ++ [0]) toks, 7,
      toks⟩
  let E : Ext := ⟨fun _ => some (0, 0), fun _ => 0⟩
  jsonObjectLookupString tpv 0 (cbytes "class") = some (cbytes "TPV") ∧
  2 ≤ toCInt (jsonObjectLookupIntDefault tpv 0 (cbytes "mode") 0) ∧
  jsonObjectLookupString tpv 0 (cbytes "time") = some (cbytes "Z") ∧
  convertAsciiTime E (cbytes "Z") = some (tspecIntvToLfp 0 0) ∧
  GpsdUnit.zero.pfToff = false ∧
  ((GpsdUnit.zero.mode ≠ 1 → GpsdUnit.zero.mode ≠ 2 →
    (gpsdParseRecord E GpsdUnit.zero (some tpv) ⟨2 ^ 32, 1⟩ false).2.filter Sample.primary
      = if GpsdUnit.zero.flPps = true ∧
          lfpsint ((2 ^ 32 : LFp) - GpsdUnit.zero.ppsLocal.val) < 0 then []
        else [⟨.serial, ⟨tspecIntvToLfp 0 0, 1⟩,
          (⟨2 ^ 32, 1⟩ : Stamped).sub GpsdUnit.zero.ibtFudge,
          clampedPrecision (E.eptLog2 (jsonObjectLookupPrimitive tpv 0 (cbytes "ept")))⟩]) ∧
  (GpsdUnit.zero.mode = 1 →
    (gpsdParseRecord E GpsdUnit.zero (some tpv) ⟨2 ^ 32, 1⟩ false).2.filter Sample.primary
      = if GpsdUnit.zero.flPps = true ∧
          lfpsint ((2 ^ 32 : LFp) - GpsdUnit.zero.ppsLocal.val) = 0 then
          [⟨.strict, ⟨tspecIntvToLfp 0 0, 1⟩, GpsdUnit.zero.ppsRecvt, GpsdUnit.zero.ppsPrec⟩]
        else []))
  := by
  intro toks tpv E
  have hcls : jsonObjectLookupString tpv 0 (cbytes "class") = some (cbytes "TPV") := by decide
  have hfix : 2 ≤ toCInt (jsonObjectLookupIntDefault tpv 0 (cbytes "mode") 0) := by decide
  have htime : jsonObjectLookupString tpv 0 (cbytes "time") = some (cbytes "Z") := by decide
  have hconv : convertAsciiTime E (cbytes "Z") = some (tspecIntvToLfp 0 0) := rfl
  exact ⟨hcls, hfix, htime, hconv, rfl,
    gpsdParseRecord_tpv E GpsdUnit.zero tpv ⟨2 ^ 32, 1⟩ false _ _ hcls hfix htime hconv rfl⟩

/-- The samples a `TOFF` record whose time members parse feeds the primary peer, when the unit
has a fix: in `IBT` mode the record's reference time, GPSD's receive time less the serial fudge,
and the precision of the last `TPV` record, unless a waiting pulse was received later; in
`STRICT` mode the reference time with the receive time of a waiting pulse received in the same
second, and nothing without one. -/
theorem gpsdParseRecord_toff (E : Ext) (up : GpsdUnit) (jctx : JsonCtx) (rtime : Stamped)
    (clkFlag2 : Bool) (r st : LFp)
    (hcls : jsonObjectLookupString jctx 0 (cbytes "class") = some (cbytes "TOFF"))
    (hsync : up.flNosync = false)
    (hclock : getBinaryTime jctx (cbytes "clock_sec") (cbytes "clock_nsec") 1 = some r)
    (hreal : getBinaryTime jctx (cbytes "real_sec") (cbytes "real_nsec") 1 = some st) :
  (up.mode ≠ 1 → up.mode ≠ 2 →
    (gpsdParseRecord E up (some jctx) rtime clkFlag2).2.filter Sample.primary
      = if up.flPps = true ∧ lfpsint (rtime.val - up.ppsLocal.val) < 0 then []
        else [⟨.serial, ⟨st, rtime.src⟩, (⟨r, rtime.src⟩ : Stamped).sub up.ibtFudge,
          up.ibtPrec⟩]) ∧
  (up.mode = 1 →
    (gpsdParseRecord E up (some jctx) rtime clkFlag2).2.filter Sample.primary
      = if up.flPps = true ∧ lfpsint (rtime.val - up.ppsLocal.val) = 0 then
          [⟨.strict, ⟨st, rtime.src⟩, up.ppsRecvt, up.ppsPrec⟩]
        else [])
  := by
  have hp : gpsdParseRecord E up (some jctx) rtime clkFlag2
      = gpsdEvaluate (processToff up jctx rtime) := by
    rw [gpsdParseRecord, hcls]
    dsimp only
    rw [processRecord, if_neg (by decide), if_neg (by decide), if_pos rfl]
  obtain ⟨a, c, -, he, -⟩ := gpsdEvaluate_primary (processToff up jctx rtime)
  rw [hp, he, processToff_ok hsync hclock hreal]
  exact ⟨fun h1 h2 => evalMode_dropStale_ibt rfl h1 h2, fun h1 => evalMode_dropStale_strict rfl h1⟩

/-- The record `{"class":"TOFF","clock_sec":5,"clock_nsec":0,"real_sec":6,"real_nsec":0}`
feeds a fresh unit its time. -/
theorem gpsdParseRecord_toff_fresh :
  let toks : List Token := [⟨.object, 0, 72, 5⟩, ⟨.string, 2, 7, 1⟩, ⟨.string, 10, 14, 0⟩,
    ⟨.string, 17, 26, 1⟩, ⟨.primitive, 28, 29, 0⟩, ⟨.string, 31, 41, 1⟩,
    ⟨.primitive, 43, 44, 0⟩, ⟨.string, 46, 54, 1⟩, ⟨.primitive, 56, 57, 0⟩,
    ⟨.string, 59, 68, 1⟩, ⟨.primitive, 70, 71, 0⟩]
  let toff : JsonCtx :=
    ⟨nulTerminate (cbytes ("\x7b\"class\":\"TOFF\",\"clock_sec\":5,\"clock_nsec\":0," ++
      "\"real_sec\":6,\"real_nsec\":0\x7d") ++ [0]) toks, 11, toks⟩
  let E : Ext := ⟨fun _ => none, fun _ => 0⟩
  jsonObjectLookupString toff 0 (cbytes "class") = some (cbytes "TOFF") ∧
  GpsdUnit.zero.flNosync = false ∧
  getBinaryTime toff (cbytes "clock_sec") (cbytes "clock_nsec") 1 = some (tspecStampToLfp 5 0) ∧
  getBinaryTime toff (cbytes "real_sec") (cbytes "real_nsec") 1 = some (tspecStampToLfp 6 0) ∧
  ((GpsdUnit.zero.mode ≠ 1 → GpsdUnit.zero.mode ≠ 2 →
    (gpsdParseRecord E GpsdUnit.zero (some toff) ⟨2 ^ 32, 1⟩ false).2.filter Sample.primary
      = if GpsdUnit.zero.flPps = true ∧
          lfpsint ((2 ^ 32 : LFp) - GpsdUnit.zero.ppsLocal.val) < 0 then []
        else [⟨.serial, ⟨tspecStampToLfp 6 0, 1⟩,
          (⟨tspecStampToLfp 5 0, 1⟩ : Stamped).sub GpsdUnit.zero.ibtFudge,
          GpsdUnit.zero.ibtPrec⟩]) ∧
  (GpsdUnit.zero.mode = 1 →
    (gpsdParseRecord E GpsdUnit.zero (some toff) ⟨2 ^ 32, 1⟩ false).2.filter Sample.primary
      = if GpsdUnit.zero.flPps = true ∧
          lfpsint ((2 ^ 32 : LFp) - GpsdUnit.zero.ppsLocal.val) = 0 then
          [⟨.strict, ⟨tspecStampToLfp 6 0, 1⟩, GpsdUnit.zero.ppsRecvt, GpsdUnit.zero.ppsPrec⟩]
        else []))
  := by
  intro toks toff E
  have hcls : jsonObjectLookupString toff 0 (cbytes "class") = some (cbytes "TOFF") := by decide
  have hclock : getBinaryTime toff (cbytes "clock_sec") (cbytes "clock_nsec") 1
      = some (tspecStampToLfp 5 0) := by decide
  have hreal : getBinaryTime toff (cbytes "real_sec") (cbytes "real_nsec") 1
      = some (tspecStampToLfp 6 0) := by decide
  exact ⟨hcls, rfl, hclock, hreal,
    gpsdParseRecord_toff E GpsdUnit.zero toff ⟨2 ^ 32, 1⟩ false _ _ hcls rfl hclock hreal⟩

/-! ### `IBT` mode along a run -/

/-- Whether an event is a `gpsd_start` of a secondary peer, the one event that sets the
operation mode without leaving the old one or entering the new one. -/
def Event.startsSecondary : Event → Bool
  | .start unit _ _ => 128 ≤ unit
  | _ => false

/-- In `IBT` mode (any mode but `STRICT` and `AUTO`) the unit holds no serial time. -/
def IbtIdle (up : GpsdUnit) : Prop :=
  up.mode ≠ 1 → up.mode ≠ 2 → up.flIbt = false

theorem processRecord_mode {E : Ext} {up up' : GpsdUnit} {jctx : JsonCtx} {clsid : List UInt8}
    {rtime : Stamped} {f : Bool} (h : processRecord E up jctx clsid rtime f = some up') :
  up'.mode = up.mode
  := by
  rcases processRecord_cases h with ⟨-, rfl⟩ | ⟨-, rfl⟩ | ⟨-, rfl⟩ | ⟨-, rfl⟩ | ⟨-, rfl⟩
  · rw [processTpv]
    dsimp only
    by_cases h : toCInt (jsonObjectLookupIntDefault jctx 0 (cbytes "mode") 0) < 2 ∨
        jsonObjectLookupString jctx 0 (cbytes "time") = none
    · rw [if_pos h]
    rw [if_neg h]
    by_cases h' : up.pfToff = true
    · rw [if_pos h']
    rw [if_neg h']
    cases convertAsciiTime E ((jsonObjectLookupString jctx 0 (cbytes "time")).getD []) <;> rfl
  · unfold processPps
    dsimp only
    split
    · rfl
    · split <;> (try split) <;> rfl
  · unfold processToff
    dsimp only
    split
    · rfl
    · split <;> (try split) <;> rfl
  · unfold processVersion
    dsimp only
    split <;> rfl
  · unfold processWatch
    split
    · rfl
    · split <;> rfl

theorem dropStale_mode (v : GpsdUnit) :
  (dropStale v).mode = v.mode
  := by
  rcases dropStale_cases v with h | h | h <;> rw [h]

theorem evalMode_mode (w : GpsdUnit) :
  (evalMode w).1.mode = w.mode
  := by
  have hs : ∀ u, (evalSerial u).1.mode = u.mode := fun u => by
    unfold evalSerial; split <;> rfl
  have ht : ∀ u, (evalStrict u).1.mode = u.mode := fun u => by
    unfold evalStrict; split <;> rfl
  have hc : (ppsCredit w).mode = w.mode := by
    unfold ppsCredit; split <;> rfl
  unfold evalMode evalAuto
  split
  · exact ht w
  · split
    · rfl
    · dsimp only
      split
      · exact (hs _).trans hc
      · exact (ht _).trans hc
  · exact hs w

/-- In `IBT` mode the evaluation feeds at most the waiting serial time, and leaves none. -/
theorem evalMode_dropStale_serial {v : GpsdUnit} (h1 : v.mode ≠ 1) (h2 : v.mode ≠ 2) :
  (evalMode (dropStale v)).1.flIbt = false ∧ (evalMode (dropStale v)).2.length ≤ 1 ∧
    ∀ s ∈ (evalMode (dropStale v)).2,
      v.flIbt = true ∧ s.stamp = v.ibtStamp ∧ s.recvt = v.ibtRecvt
  := by
  refine ⟨?_, ?_⟩
  · rw [evalMode_of_serial (by rwa [dropStale_mode]) (by rwa [dropStale_mode]), evalSerial]
    split
    · rfl
    · exact Bool.eq_false_iff.2 ‹_›
  cases hv : v.flIbt
  · rw [dropStale_of_not_ibt hv, evalMode_of_not_ibt hv]
    simp
  · rw [evalMode_dropStale_ibt hv h1 h2]
    split <;> simp

/-- An evaluation in `IBT` mode feeds the primary peer at most one sample, read from record
`n` when the waiting serial time was. -/
theorem fresh_of_serial {v : GpsdUnit} {n : Nat} (h1 : v.mode ≠ 1) (h2 : v.mode ≠ 2)
    (hsrc : v.flIbt = true → v.ibtStamp.src = n ∧ v.ibtRecvt.src = n) :
  (evalMode (dropStale v)).2.length ≤ 1 ∧
    ∀ s ∈ (evalMode (dropStale v)).2, s.stamp.src = n ∧ s.recvt.src = n
  := by
  obtain ⟨-, hlen, hmem⟩ := evalMode_dropStale_serial h1 h2
  refine ⟨hlen, fun s hs => ?_⟩
  obtain ⟨hibt, hst, hrt⟩ := hmem s hs
  rw [hst, hrt]
  exact hsrc hibt

section Idle

variable {up : GpsdUnit}

theorem IbtIdle.parseRecord (h : IbtIdle up) (E : Ext) (rec : Option JsonCtx) (rtime : Stamped)
    (f : Bool) :
  IbtIdle (gpsdParseRecord E up rec rtime f).1
  := by
  unfold gpsdParseRecord
  rcases rec with _ | jctx
  · exact h
  dsimp only
  rcases jsonObjectLookupString jctx 0 (cbytes "class") with _ | clsid
  · exact h
  dsimp only
  cases processRecord E up jctx clsid rtime f with
  | none => exact h
  | some u' =>
    obtain ⟨a, c, he, -⟩ := gpsdEvaluate_primary u'
    intro h1 h2
    rw [he, evalMode_mode, dropStale_mode] at h1 h2
    rw [he]
    exact (evalMode_dropStale_serial h1 h2).1

theorem IbtIdle.step (h : IbtIdle up) (E : Ext) (i : Nat) (e : Event)
    (he : e.startsSecondary = false) :
  IbtIdle (e.step E up i).1
  := by
  cases e with
  | record rec rtime f => exact h.parseRecord E rec _ f
  | control peer cfgMode fudge1 fudge2 =>
    show IbtIdle (gpsdControl up peer cfgMode fudge1 fudge2)
    unfold gpsdControl
    split
    · exact h
    · dsimp only
      split
      · intro _ _
        rw [enterOpmode_eq]
      · exact h
  | stopSocket => exact fun _ _ => rfl
  | start unit peer cfgMode =>
    show IbtIdle (startOpmode up unit peer cfgMode)
    have hu : ¬ unit ≥ 128 := by simpa [Event.startsSecondary] using he
    intro _ _
    rw [startOpmode, if_neg hu, enterOpmode_eq]

theorem IbtIdle.run (h : IbtIdle up) (E : Ext) (i : Nat) (es : List Event)
    (hes : ∀ e ∈ es, e.startsSecondary = false) :
  IbtIdle (run E up i es).1
  := run_invariant E (fun _ u _ => IbtIdle u) (fun e => e.startsSecondary = false)
    (fun i _ _ e he hu => hu.step E i e he) es hes i up [] h

/-- An event that finds the unit idle in `IBT` mode feeds the primary peer at most one sample,
read from the event's own record. -/
theorem IbtIdle.fresh (h : IbtIdle up) (h1 : up.mode ≠ 1) (h2 : up.mode ≠ 2) (E : Ext)
    (n : Nat) (e : Event) :
  ((e.step E up n).2.filter Sample.primary).length ≤ 1 ∧
    ∀ s ∈ (e.step E up n).2.filter Sample.primary, s.stamp.src = n ∧ s.recvt.src = n
  := by
  cases e with
  | record rec rtime f =>
    dsimp only [Event.step]
    unfold gpsdParseRecord
    rcases rec with _ | jctx
    · simp
    dsimp only
    rcases jsonObjectLookupString jctx 0 (cbytes "class") with _ | clsid
    · simp
    dsimp only
    cases hp : processRecord E up jctx clsid ⟨rtime, n⟩ f with
    | none => simp
    | some u' =>
      obtain ⟨a, c, -, he, -⟩ := gpsdEvaluate_primary u'
      have hm := processRecord_mode hp
      rw [he]
      refine fresh_of_serial (by dsimp only; rw [hm]; exact h1) (by dsimp only; rw [hm]; exact h2)
        fun hibt => ?_
      have hv := (processRecord_writes hp).flIbt hibt
      rw [h h1 h2] at hv
      simpa only [Vouched, Bool.false_eq_true, and_false, false_or] using hv
  | control => simp [Event.step]
  | stopSocket => simp [Event.step]
  | start => simp [Event.step]

end Idle

/-- In `IBT` mode no serial time is fed late: along every run without a start of a secondary
peer, from a unit that holds no serial time in `IBT` mode, an event that finds the unit in
`IBT` mode feeds the primary peer at most one sample, and both its time stamps were read from
the event's own record. -/
theorem run_ibt_own_record (E : Ext) (up : GpsdUnit) (i : Nat) (pre : List Event) (e : Event)
    (hidle : IbtIdle up) (hpre : ∀ x ∈ pre, x.startsSecondary = false)
    (h1 : (run E up i pre).1.mode ≠ 1) (h2 : (run E up i pre).1.mode ≠ 2) :
  ((e.step E (run E up i pre).1 (i + pre.length)).2.filter Sample.primary).length ≤ 1 ∧
    ∀ s ∈ (e.step E (run E up i pre).1 (i + pre.length)).2.filter Sample.primary,
      s.stamp.src = i + pre.length ∧ s.recvt.src = i + pre.length
  := (hidle.run E i pre hpre).fresh h1 h2 E _ e

/-- After the start of a primary peer in `IBT` mode, a `TPV` record with a fix feeds one
sample, read from it. -/
theorem run_ibt_own_record_start :
    let E : Ext := ⟨fun _ => some (0, 0), fun _ => 0⟩
    IbtIdle GpsdUnit.zero ∧ (∀ x ∈ [Event.start 0 0 0], x.startsSecondary = false) ∧
    (run E GpsdUnit.zero 0 [.start 0 0 0]).1.mode ≠ 1 ∧
    (run E GpsdUnit.zero 0 [.start 0 0 0]).1.mode ≠ 2 ∧
    (((Event.record (some tpvFix) (2 ^ 32) false).step E (run E GpsdUnit.zero 0 [.start 0 0 0]).1
        1).2.filter Sample.primary).length = 1 ∧
    ∀ s ∈ ((Event.record (some tpvFix) (2 ^ 32) false).step E
        (run E GpsdUnit.zero 0 [.start 0 0 0]).1 1).2.filter Sample.primary,
      s.stamp.src = 0 + [Event.start 0 0 0].length ∧ s.recvt.src = 0 + [Event.start 0 0 0].length
    := by
  intro E
  have hidle : IbtIdle GpsdUnit.zero := fun _ _ => rfl
  have hpre : ∀ x ∈ [Event.start 0 0 0], x.startsSecondary = false := by decide
  have h1 : (run E GpsdUnit.zero 0 [.start 0 0 0]).1.mode ≠ 1 := by decide
  have h2 : (run E GpsdUnit.zero 0 [.start 0 0 0]).1.mode ≠ 2 := by decide
  exact ⟨hidle, hpre, h1, h2, by decide,
    (run_ibt_own_record E GpsdUnit.zero 0 [.start 0 0 0] (.record (some tpvFix) (2 ^ 32) false)
      hidle hpre h1 h2).2⟩

/-! ### The secondary peer along a run -/

/-- The unit has its secondary peer, and no pulse waits for it. -/
def SecIdle (up : GpsdUnit) : Prop :=
  up.ppsPeer.isSome = true ∧ up.flPps2 = false

/-- The secondary feed of a unit with a secondary peer feeds it at most one sample, read from
record `n` when the waiting pulse was. -/
theorem fresh_of_feed {w : GpsdUnit} {n : Nat} (hpeer : w.ppsPeer.isSome = true)
    (hsrc : w.flPps2 = true → w.ppsStamp2.src = n ∧ w.ppsRecvt2.src = n) :
  (feedSecondary w).2.length ≤ 1 ∧
    ∀ s ∈ (feedSecondary w).2, s.stamp.src = n ∧ s.recvt.src = n
  := by
  unfold feedSecondary evalPpsSecondary
  rw [if_pos hpeer]
  split
  · simpa using hsrc ‹_›
  · simp

section SecIdle

variable {up : GpsdUnit}

theorem SecIdle.parseRecord (h : SecIdle up) (E : Ext) (rec : Option JsonCtx) (rtime : Stamped)
    (f : Bool) :
  SecIdle (gpsdParseRecord E up rec rtime f).1
  := by
  unfold gpsdParseRecord
  rcases rec with _ | jctx
  · exact h
  dsimp only
  rcases jsonObjectLookupString jctx 0 (cbytes "class") with _ | clsid
  · exact h
  dsimp only
  cases hp : processRecord E up jctx clsid rtime f with
  | none => exact h
  | some u' =>
    obtain ⟨a, c, he, -⟩ := gpsdEvaluate_primary u'
    have hpeer : u'.ppsPeer.isSome = true := by rw [processRecord_ppsPeer hp]; exact h.1
    rw [he]
    constructor
    · rw [(evalMode_keeps _).1, (dropStale_keeps _).1]
      exact hpeer
    · rw [(evalMode_keeps _).2.2, (dropStale_keeps _).2.2]
      exact if_pos hpeer

theorem SecIdle.step (h : SecIdle up) (E : Ext) (i : Nat) (e : Event) :
  SecIdle (e.step E up i).1
  := by
  cases e with
  | record rec rtime f => exact h.parseRecord E rec _ f
  | control peer cfgMode fudge1 fudge2 =>
    show SecIdle (gpsdControl up peer cfgMode fudge1 fudge2)
    have hk := gpsdControl_keeps up peer cfgMode fudge1 fudge2
    exact ⟨by rw [hk.1]; exact h.1, by rw [hk.2.2]; exact h.2⟩
  | stopSocket => exact h
  | start unit peer cfgMode =>
    show SecIdle (startOpmode up unit peer cfgMode)
    unfold startOpmode
    dsimp only
    split
    · exact ⟨rfl, h.2⟩
    · rw [enterOpmode_eq]
      exact h

theorem SecIdle.run (h : SecIdle up) (E : Ext) (i : Nat) (es : List Event) :
  SecIdle (run E up i es).1
  := run_invariant E (fun _ u _ => SecIdle u) (fun _ => True) (fun i _ _ e _ hu => hu.step E i e)
    es (fun _ _ => trivial) i up [] h

/-- An event that finds the unit with its secondary peer and no pulse waiting feeds the
secondary peer at most one sample, read from the event's own record. -/
theorem SecIdle.fresh (h : SecIdle up) (E : Ext) (n : Nat) (e : Event) :
  ((e.step E up n).2.filter fun s => !s.primary).length ≤ 1 ∧
    ∀ s ∈ (e.step E up n).2.filter fun s => !s.primary, s.stamp.src = n ∧ s.recvt.src = n
  := by
  cases e with
  | record rec rtime f =>
    dsimp only [Event.step]
    unfold gpsdParseRecord
    rcases rec with _ | jctx
    · simp
    dsimp only
    rcases jsonObjectLookupString jctx 0 (cbytes "class") with _ | clsid
    · simp
    dsimp only
    cases hp : processRecord E up jctx clsid ⟨rtime, n⟩ f with
    | none => simp
    | some u' =>
      obtain ⟨a, c, -, -, he⟩ := gpsdEvaluate_primary u'
      rw [he]
      refine fresh_of_feed (by dsimp only; rw [processRecord_ppsPeer hp]; exact h.1)
        fun hf => ?_
      have hv := (processRecord_writes hp).flPps2 hf
      rw [h.2] at hv
      simpa only [Vouched, Bool.false_eq_true, and_false, false_or] using hv
  | control => simp [Event.step]
  | stopSocket => simp [Event.step]
  | start => simp [Event.step]

end SecIdle

/-- Once the unit has its secondary peer and no pulse waits for it, no pulse is fed to the
secondary peer late: along every run of events, each event feeds the secondary peer at most
one sample, and both its time stamps were read from the event's own record. -/
theorem run_secondary_own_record (E : Ext) (up : GpsdUnit) (i : Nat) (pre : List Event)
    (e : Event) (hpeer : up.ppsPeer.isSome = true) (hpps : up.flPps2 = false) :
  ((e.step E (run E up i pre).1 (i + pre.length)).2.filter fun s => !s.primary).length ≤ 1 ∧
    ∀ s ∈ (e.step E (run E up i pre).1 (i + pre.length)).2.filter fun s => !s.primary,
      s.stamp.src = i + pre.length ∧ s.recvt.src = i + pre.length
  := (SecIdle.run ⟨hpeer, hpps⟩ E i pre).fresh E _ e

/-- A unit whose secondary peer was started before any pulse came, after a lost connection:
a PPS record feeds the secondary peer one sample, read from it. -/
theorem run_secondary_own_record_started :
    let E : Ext := ⟨fun _ => none, fun _ => 0⟩
    let up : GpsdUnit := startOpmode GpsdUnit.zero 128 0 0
    up.ppsPeer.isSome = true ∧ up.flPps2 = false ∧
    (((Event.record (some ppsPulse) (2 ^ 32) false).step E (run E up 0 [.stopSocket]).1 1).2.filter
        (fun s => !s.primary)).length = 1 ∧
    ∀ s ∈ ((Event.record (some ppsPulse) (2 ^ 32) false).step E
        (run E up 0 [.stopSocket]).1 1).2.filter (fun s => !s.primary),
      s.stamp.src = 0 + [Event.stopSocket].length ∧ s.recvt.src = 0 + [Event.stopSocket].length
    := by
  intro E up
  have hpeer : up.ppsPeer.isSome = true := rfl
  have hpps : up.flPps2 = false := rfl
  exact ⟨hpeer, hpps, by decide,
    (run_secondary_own_record E up 0 [.stopSocket] (.record (some ppsPulse) (2 ^ 32) false) hpeer
      hpps).2⟩

/-! ### The start of a secondary peer -/

/-- A `VERSION` or `WATCH` record sets the protocol fields or the watch flag, and nothing
the evaluation reads. -/
theorem processRecord_notice {E : Ext} {up : GpsdUnit} {jctx : JsonCtx} {clsid : List UInt8}
    {rtime : Stamped} {f : Bool} (hcls : clsid = cbytes "VERSION" ∨ clsid = cbytes "WATCH") :
  ∃ a b c d w, processRecord E up jctx clsid rtime f =
    some { up with protoVersion := a, flVers := b, pfNsec := c, pfToff := d, flWatch := w }
  := by
  rcases hcls with rfl | rfl
  · obtain ⟨a, b, c, d, h⟩ := processVersion_eq up jctx
    refine ⟨a, b, c, d, up.flWatch, ?_⟩
    rw [processRecord, if_neg (by decide), if_neg (by decide), if_neg (by decide), if_pos rfl, h]
  · obtain ⟨w, h⟩ := processWatch_eq up jctx
    refine ⟨up.protoVersion, up.flVers, up.pfNsec, up.pfToff, w, ?_⟩
    rw [processRecord, if_neg (by decide), if_neg (by decide), if_neg (by decide),
      if_neg (by decide), if_pos rfl, h]

/-- In `IBT` mode the evaluation feeds the waiting serial time, unless a waiting pulse was
received later. -/
theorem evalMode_dropStale_ibtMode {v : GpsdUnit} (h1 : v.mode ≠ 1) (h2 : v.mode ≠ 2) :
  (evalMode (dropStale v)).2
    = if v.flIbt = true ∧ ¬(v.flPps = true ∧ lfpsint (v.ibtLocal.val - v.ppsLocal.val) < 0)
      then [⟨.serial, v.ibtStamp, v.ibtRecvt, v.ibtPrec⟩] else []
  := by
  cases hv : v.flIbt
  · rw [dropStale_of_not_ibt hv, evalMode_of_not_ibt hv, if_neg (by simp)]
  · rw [evalMode_dropStale_ibt hv h1 h2]
    simp only [true_and, ite_not]

/-- With a secondary peer and outside `STRICT` and `AUTO` mode, `gpsd_parse` feeds the
secondary peer the waiting pulse and the primary peer the waiting serial time, unless a
waiting pulse was received later. -/
theorem gpsdEvaluate_ibtMode {u : GpsdUnit} (hpeer : u.ppsPeer.isSome = true) (h1 : u.mode ≠ 1)
    (h2 : u.mode ≠ 2) :
  (gpsdEvaluate u).2 =
    (if u.flPps2 then [⟨.ppsSecondary, u.ppsStamp2, u.ppsRecvt2, u.ppsPrec⟩] else []) ++
      if u.flIbt = true ∧ ¬(u.flPps = true ∧ lfpsint (u.ibtLocal.val - u.ppsLocal.val) < 0)
      then [⟨.serial, u.ibtStamp, u.ibtRecvt, u.ibtPrec⟩] else []
  := by
  obtain ⟨a, c, hf⟩ := feedSecondary_fst { u with tcRecv := u.tcRecv + 1 }
  show (feedSecondary _).2 ++ (evalMode (dropStale (feedSecondary _).1)).2 = _
  rw [hf, evalMode_dropStale_ibtMode ?_ ?_, feedSecondary, if_pos hpeer, evalPpsSecondary]
  exacts [congrArg (· ++ _) (apply_ite Prod.snd _ _ _), h1, h2]

/-- The start of a secondary peer sets the unit's operation mode without leaving the old one,
and keeps a pulse received before the unit had a secondary peer: when the peer is configured
for `IBT` mode, the next `VERSION` or `WATCH` record feeds the secondary peer the pulse that
waited and the primary peer the serial time that waited, in whatever mode it was read. -/
theorem run_start_secondary (E : Ext) (up : GpsdUnit) (i unit : Nat) (peer : PeerId)
    (cfgMode : Nat) (jctx : JsonCtx) (rtime : LFp) (f : Bool) (hunit : 128 ≤ unit)
    (h1 : cfgMode % 4 ≠ 1) (h2 : cfgMode % 4 ≠ 2)
    (hcls : jsonObjectLookupString jctx 0 (cbytes "class") = some (cbytes "VERSION") ∨
      jsonObjectLookupString jctx 0 (cbytes "class") = some (cbytes "WATCH")) :
  (run E up i [.start unit peer cfgMode, .record (some jctx) rtime f]).2 =
    (if up.flPps2 then [⟨.ppsSecondary, up.ppsStamp2, up.ppsRecvt2, up.ppsPrec⟩] else []) ++
      if up.flIbt = true ∧ ¬(up.flPps = true ∧ lfpsint (up.ibtLocal.val - up.ppsLocal.val) < 0)
      then [⟨.serial, up.ibtStamp, up.ibtRecvt, up.ibtPrec⟩] else []
  := by
  obtain ⟨clsid, hc, hk⟩ : ∃ clsid, jsonObjectLookupString jctx 0 (cbytes "class") = some clsid ∧
      (clsid = cbytes "VERSION" ∨ clsid = cbytes "WATCH") :=
    hcls.elim (fun h => ⟨_, h, .inl rfl⟩) (fun h => ⟨_, h, .inr rfl⟩)
  have hs : startOpmode up unit peer cfgMode
      = { up with mode := if cfgMode % 4 > 2 then 0 else cfgMode % 4, ppsPeer := some peer } :=
    if_pos hunit
  obtain ⟨a, b, c, d, w, hp⟩ :=
    @processRecord_notice E (startOpmode up unit peer cfgMode) jctx clsid ⟨rtime, i + 1⟩ f hk
  simp only [run, Event.step, List.nil_append, List.append_nil]
  rw [gpsdParseRecord, hc]
  dsimp only
  rw [hp, hs]
  exact gpsdEvaluate_ibtMode rfl (by dsimp only; split <;> omega) (by dsimp only; split <;> omega)

/-- A unit in `STRICT` mode holding a serial time, and a pulse that came before it had a
secondary peer, when a secondary peer configured for `IBT` mode starts and GPSD greets with
`{"class":"VERSION"}`: both are fed, the serial time with the secondary's operation mode. -/
theorem run_start_secondary_strict :
  let toks : List Token := [⟨.object, 0, 19, 1⟩, ⟨.string, 2, 7, 1⟩, ⟨.string, 10, 17, 0⟩]
  let version : JsonCtx :=
    ⟨nulTerminate (cbytes "\x7b\"class\":\"VERSION\"\x7d" ++ [0]) toks, 3, toks⟩
  let E : Ext := ⟨fun _ => none, fun _ => 0⟩
  let up : GpsdUnit := { GpsdUnit.zero with mode := 1, flIbt := true, flPps2 := true }
  128 ≤ 128 ∧ 0 % 4 ≠ 1 ∧ 0 % 4 ≠ 2 ∧
  jsonObjectLookupString version 0 (cbytes "class") = some (cbytes "VERSION") ∧
  (run E up 0 [.start 128 1 0, .record (some version) 0 false]).2
    = [⟨.ppsSecondary, up.ppsStamp2, up.ppsRecvt2, up.ppsPrec⟩,
       ⟨.serial, up.ibtStamp, up.ibtRecvt, up.ibtPrec⟩]
  := by
  intro toks version E up
  have hcls : jsonObjectLookupString version 0 (cbytes "class") = some (cbytes "VERSION") := by
    decide
  exact ⟨le_rfl, by decide, by decide, hcls,
    (run_start_secondary E up 0 128 1 0 version 0 false le_rfl (by decide) (by decide)
      (.inl hcls)).trans rfl⟩

end GpsdJson
