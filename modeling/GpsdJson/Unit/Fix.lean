import GpsdJson.Unit.Feed

/-!
# No sample without a fix

A TPV record without a usable fix makes `process_tpv` set `fl_nosync` and clear `fl_ibt` and
`fl_pps`.  While `fl_nosync` is set, `process_pps` and `process_toff` only count their
records, and the evaluations find nothing to feed.  The secondary peer's pulse is fed by the
record that brought it, so once the secondary peer is started no pulse waits for it.
Hence, when all peers are started before the first record, no sample is fed from a TPV
record without a fix up to the next TPV record with one (`run_noFix_feeds_nothing`).
-/

namespace GpsdJson

/-! ### Fixes -/

/-- The fix test of `process_tpv`: a `mode` of at least 2 and a `time` member. -/
def tpvHasFix (jctx : JsonCtx) : Prop :=
  2 ≤ toCInt (jsonObjectLookupIntDefault jctx 0 (cbytes "mode") 0) ∧
    jsonObjectLookupString jctx 0 (cbytes "time") ≠ none

instance (jctx : JsonCtx) : Decidable (tpvHasFix jctx) :=
  inferInstanceAs (Decidable (_ ∧ _))

/-- A TPV record with a usable fix. -/
def Event.fixTpv : Event → Prop
  | .record (some jctx) _ _ =>
    jsonObjectLookupString jctx 0 (cbytes "class") = some (cbytes "TPV") ∧ tpvHasFix jctx
  | _ => False

/-- A TPV record without a usable fix. -/
def Event.noFixTpv : Event → Prop
  | .record (some jctx) _ _ =>
    jsonObjectLookupString jctx 0 (cbytes "class") = some (cbytes "TPV") ∧ ¬ tpvHasFix jctx
  | _ => False

/-- A record, parsed or not. -/
def Event.isRecord : Event → Prop
  | .record .. => True
  | _ => False

/-- The start of a peer. -/
def Event.isStart : Event → Prop
  | .start .. => True
  | _ => False

/-! ### What the processing does without a fix -/

/-- `process_tpv` on a record without a fix clears the serial and PPS flags and sets
`fl_nosync`. -/
theorem processTpv_of_not_fix {jctx : JsonCtx} (h : ¬ tpvHasFix jctx) (E : Ext) (up : GpsdUnit)
    (rtime : Stamped) :
  processTpv E up jctx rtime
    = { up with tcIbtRecv := if up.pfToff then up.tcIbtRecv else up.tcIbtRecv + 1,
                tcNosync := up.tcNosync + 1, flIbt := false, flPps := false,
                flNosync := true }
  := by
  unfold processTpv tpvHasFix at *
  rw [if_pos (or_iff_not_imp_left.mpr fun hm => not_ne_iff.mp fun ht => h ⟨by omega, ht⟩)]

/-- With `fl_nosync` set, `process_pps` only counts the record. -/
theorem processPps_of_nosync {up : GpsdUnit} (h : up.flNosync = true) (jctx : JsonCtx)
    (rtime : Stamped) (clkFlag2 : Bool) :
  processPps up jctx rtime clkFlag2 = { up with tcPpsRecv := up.tcPpsRecv + 1 }
  := by
  simp [processPps, h]

/-- With `fl_nosync` set, `process_toff` only counts the record and notes that TOFF
records come. -/
theorem processToff_of_nosync {up : GpsdUnit} (h : up.flNosync = true) (jctx : JsonCtx)
    (rtime : Stamped) :
  processToff up jctx rtime = { up with tcIbtRecv := up.tcIbtRecv + 1, pfToff := true }
  := by
  simp [processToff, h]

/-- Without a serial time stamp vouched for, the staleness check changes nothing. -/
theorem dropStale_of_not_ibt {up : GpsdUnit} (h : up.flIbt = false) :
  dropStale up = up
  := by
  simp [dropStale, h]

/-- Without a serial time stamp vouched for, no operation mode feeds the primary peer. -/
theorem evalMode_of_not_ibt {up : GpsdUnit} (h : up.flIbt = false) :
  evalMode up = (up, [])
  := by
  unfold evalMode
  split <;> simp [evalStrict, evalAuto, evalSerial, h]

/-- With no pulse waiting, the secondary peer is fed nothing. -/
theorem feedSecondary_of_pulseFed {up : GpsdUnit} (h : up.ppsPeer.isSome → up.flPps2 = false) :
  feedSecondary up = (up, [])
  := by
  unfold feedSecondary
  split
  · simp [evalPpsSecondary, h ‹_›]
  · rfl

/-- After the secondary peer is fed, no pulse waits for it. -/
theorem feedSecondary_fed (up : GpsdUnit) :
  (feedSecondary up).1.ppsPeer.isSome → (feedSecondary up).1.flPps2 = false
  := by
  unfold feedSecondary evalPpsSecondary
  split
  · intro
    split
    · rfl
    · simpa using ‹¬ up.flPps2 = true›
  · exact fun hs => absurd hs ‹_›

/-! ### Units that feed nothing -/

/-- The unit has no fix: `fl_nosync` is set, and neither a serial time nor a PPS pulse is
vouched for. -/
structure NoFix (up : GpsdUnit) : Prop where
  nosync : up.flNosync = true
  ibt : up.flIbt = false
  pps : up.flPps = false

/-- No pulse waits for the secondary peer. -/
def PulseFed (up : GpsdUnit) : Prop :=
  up.ppsPeer.isSome → up.flPps2 = false

/-- `up'` has the secondary peer, `fl_nosync` and `fl_pps2` of `up`. -/
def Keeps (up up' : GpsdUnit) : Prop :=
  up'.ppsPeer = up.ppsPeer ∧ up'.flNosync = up.flNosync ∧ up'.flPps2 = up.flPps2

theorem NoFix.of_frame {up up' : GpsdUnit} (h : NoFix up) (hf : Frame up up')
    (hk : Keeps up up') :
  NoFix up'
  := by
  refine ⟨hk.2.1.trans h.nosync, ?_, ?_⟩
  · cases h' : up'.flIbt
    · rfl
    · simpa [h.ibt] using hf.flIbt h'
  · cases h' : up'.flPps
    · rfl
    · simpa [h.pps] using hf.flPps h'

theorem Keeps.trans {up up' up'' : GpsdUnit} (h : Keeps up up') (h' : Keeps up' up'') :
  Keeps up up''
  := ⟨h'.1.trans h.1, h'.2.1.trans h.2.1, h'.2.2.trans h.2.2⟩

theorem PulseFed.of_keeps {up up' : GpsdUnit} (h : PulseFed up) (hk : Keeps up up') :
  PulseFed up'
  := by
  intro hs
  rw [hk.2.2]
  exact h (hk.1 ▸ hs)

/-! ### Functions that keep the secondary peer and the fix -/

theorem gpsdControl_keeps (up : GpsdUnit) (peer : PeerId) (cfgMode : Nat) (fudge1 fudge2 : LFp) :
  Keeps up (gpsdControl up peer cfgMode fudge1 fudge2)
  := by
  unfold gpsdControl
  split
  · exact ⟨rfl, rfl, rfl⟩
  · dsimp only
    split
    · rw [enterOpmode_eq, leaveOpmode_eq]
      exact ⟨rfl, rfl, rfl⟩
    · exact ⟨rfl, rfl, rfl⟩

theorem processVersion_keeps (up : GpsdUnit) (jctx : JsonCtx) :
  Keeps up (processVersion up jctx)
  := by
  unfold processVersion
  dsimp only
  split <;> exact ⟨rfl, rfl, rfl⟩

theorem processWatch_keeps (up : GpsdUnit) (jctx : JsonCtx) :
  Keeps up (processWatch up jctx)
  := by
  unfold processWatch
  split
  · exact ⟨rfl, rfl, rfl⟩
  · split <;> exact ⟨rfl, rfl, rfl⟩

theorem dropStale_keeps (up : GpsdUnit) :
  Keeps up (dropStale up)
  := by
  unfold dropStale
  split
  · dsimp only
    split
    · exact ⟨rfl, rfl, rfl⟩
    · split <;> exact ⟨rfl, rfl, rfl⟩
  · exact ⟨rfl, rfl, rfl⟩

theorem evalMode_keeps (up : GpsdUnit) :
  Keeps up (evalMode up).1
  := by
  have hs : ∀ u, Keeps u (evalSerial u).1 := fun u => by
    unfold evalSerial; split <;> exact ⟨rfl, rfl, rfl⟩
  have ht : ∀ u, Keeps u (evalStrict u).1 := fun u => by
    unfold evalStrict; split <;> exact ⟨rfl, rfl, rfl⟩
  have hc : Keeps up (ppsCredit up) := by
    unfold ppsCredit; split <;> exact ⟨rfl, rfl, rfl⟩
  unfold evalMode evalAuto
  split
  · exact ht up
  · split
    · exact ⟨rfl, rfl, rfl⟩
    · dsimp only
      split
      · exact hc.trans (hs _)
      · exact hc.trans (ht _)
  · exact hs up

theorem processRecord_ppsPeer {E : Ext} {up up' : GpsdUnit} {jctx : JsonCtx}
    {clsid : List UInt8} {rtime : Stamped} {f : Bool}
    (h : processRecord E up jctx clsid rtime f = some up') :
  up'.ppsPeer = up.ppsPeer
  := by
  rcases processRecord_cases h with ⟨-, rfl⟩ | ⟨-, rfl⟩ | ⟨-, rfl⟩ | ⟨-, rfl⟩ | ⟨-, rfl⟩
  any_goals
    simp only [processTpv, processPps, processToff]
    split <;> (try split) <;> (try split) <;> rfl
  · exact (processVersion_keeps up jctx).1
  · exact (processWatch_keeps up jctx).1

/-- The evaluation after a record feeds the secondary peer every pulse, when it has one. -/
theorem gpsdEvaluate_pulseFed (up : GpsdUnit) :
  PulseFed (gpsdEvaluate up).1
  := by
  have hf := feedSecondary_fed { up with tcRecv := up.tcRecv + 1 }
  have hd := dropStale_keeps (feedSecondary { up with tcRecv := up.tcRecv + 1 }).1
  have he := evalMode_keeps (dropStale (feedSecondary { up with tcRecv := up.tcRecv + 1 }).1)
  exact PulseFed.of_keeps hf (hd.trans he)

/-- Without a fix and with no pulse waiting, the evaluation after a record only counts
it. -/
theorem gpsdEvaluate_of_noFix {up : GpsdUnit} (h : NoFix up) (hp : PulseFed up) :
  gpsdEvaluate up = ({ up with tcRecv := up.tcRecv + 1 }, [])
  := by
  have h' : NoFix { up with tcRecv := up.tcRecv + 1 } := ⟨h.nosync, h.ibt, h.pps⟩
  simp only [gpsdEvaluate, @feedSecondary_of_pulseFed { up with tcRecv := up.tcRecv + 1 } hp,
    dropStale_of_not_ibt h'.ibt, evalMode_of_not_ibt h'.ibt, List.append_nil]

/-- A record of a known class, processed by a unit without a fix and with no pulse waiting,
leaves it so, unless it is a TPV record with a fix. -/
theorem processRecord_noFix {E : Ext} {up up' : GpsdUnit} {jctx : JsonCtx}
    {clsid : List UInt8} {rtime : Stamped} {f : Bool} (h : NoFix up) (hp : PulseFed up)
    (he : processRecord E up jctx clsid rtime f = some up')
    (hfix : clsid = cbytes "TPV" → ¬ tpvHasFix jctx) :
  NoFix up' ∧ PulseFed up'
  := by
  rcases processRecord_cases he with ⟨h1, rfl⟩ | ⟨-, rfl⟩ | ⟨-, rfl⟩ | ⟨-, rfl⟩ | ⟨-, rfl⟩
  · rw [processTpv_of_not_fix (hfix h1)]
    exact ⟨⟨rfl, rfl, rfl⟩, hp⟩
  · rw [processPps_of_nosync h.nosync]
    exact ⟨⟨h.nosync, h.ibt, h.pps⟩, hp⟩
  · rw [processToff_of_nosync h.nosync]
    exact ⟨⟨h.nosync, h.ibt, h.pps⟩, hp⟩
  · exact ⟨h.of_frame (processVersion_frame _ _) (processVersion_keeps _ _),
      hp.of_keeps (processVersion_keeps _ _)⟩
  · exact ⟨h.of_frame (processWatch_frame _ _) (processWatch_keeps _ _),
      hp.of_keeps (processWatch_keeps _ _)⟩

/-! ### Runs -/

section Runs

variable (E : Ext) (i : Nat) {up : GpsdUnit}

/-- Every event but the start of a peer keeps the secondary peer without a waiting pulse. -/
theorem PulseFed.step (hp : PulseFed up) (e : Event) (hs : ¬ e.isStart) :
  PulseFed (e.step E up i).1
  := by
  cases e with
  | record rec rtime clkFlag2 =>
    simp only [Event.step, gpsdParseRecord]
    split
    · exact hp
    · split
      · exact hp
      · split
        · exact hp
        · exact gpsdEvaluate_pulseFed _
  | control peer cfgMode fudge1 fudge2 => exact hp.of_keeps (gpsdControl_keeps _ _ _ _ _)
  | stopSocket => exact hp
  | start unit peer cfgMode => exact absurd trivial hs

/-- Without a fix and with no pulse waiting, every event but the start of a peer and a TPV
record with a fix feeds nothing and leaves the unit so. -/
theorem NoFix.step (h : NoFix up) (hp : PulseFed up) (e : Event) (hs : ¬ e.isStart)
    (hf : ¬ e.fixTpv) :
  (e.step E up i).2 = [] ∧ NoFix (e.step E up i).1 ∧ PulseFed (e.step E up i).1
  := by
  cases e with
  | record rec rtime clkFlag2 =>
    simp only [Event.step, gpsdParseRecord]
    split
    · exact ⟨rfl, ⟨h.nosync, h.ibt, h.pps⟩, hp⟩
    · split
      · exact ⟨rfl, ⟨h.nosync, h.ibt, h.pps⟩, hp⟩
      · rename_i hcls
        split
        · exact ⟨rfl, h, hp⟩
        · obtain ⟨h', hp'⟩ := processRecord_noFix h hp ‹_›
            (fun ht hx => hf ⟨by rw [hcls, ht], hx⟩)
          rw [gpsdEvaluate_of_noFix h' hp']
          exact ⟨rfl, ⟨h'.nosync, h'.ibt, h'.pps⟩, hp'⟩
  | control peer cfgMode fudge1 fudge2 =>
    exact ⟨rfl, h.of_frame (gpsdControl_frame _ _ _ _ _) (gpsdControl_keeps _ _ _ _ _),
      hp.of_keeps (gpsdControl_keeps _ _ _ _ _)⟩
  | stopSocket => exact ⟨rfl, ⟨h.nosync, rfl, rfl⟩, hp⟩
  | start unit peer cfgMode => exact absurd trivial hs

/-- A TPV record without a fix, with no pulse waiting, feeds nothing and leaves the unit
without a fix. -/
theorem Event.step_noFixTpv (hp : PulseFed up) {e : Event} (he : e.noFixTpv) :
  (e.step E up i).2 = [] ∧ NoFix (e.step E up i).1 ∧ PulseFed (e.step E up i).1
  := by
  match e, he with
  | .record (some jctx) rtime clkFlag2, ⟨hcls, hfix⟩ =>
    have h' : NoFix (processTpv E up jctx ⟨rtime, i⟩) := by
      rw [processTpv_of_not_fix hfix]
      exact ⟨rfl, rfl, rfl⟩
    have hp' : PulseFed (processTpv E up jctx ⟨rtime, i⟩) := by
      rw [processTpv_of_not_fix hfix]
      exact hp
    have hrec : processRecord E up jctx (cbytes "TPV") ⟨rtime, i⟩ clkFlag2
        = some (processTpv E up jctx ⟨rtime, i⟩) := if_pos rfl
    have hstep : (Event.record (some jctx) rtime clkFlag2).step E up i
        = ({ processTpv E up jctx ⟨rtime, i⟩ with
              tcRecv := (processTpv E up jctx ⟨rtime, i⟩).tcRecv + 1 }, []) := by
      simp only [Event.step, gpsdParseRecord, hcls, hrec, gpsdEvaluate_of_noFix h' hp']
    rw [hstep]
    exact ⟨rfl, ⟨h'.nosync, h'.ibt, h'.pps⟩, hp'⟩

/-- With no pulse waiting, a TPV record without a fix and then any events but starts of
peers and TPV records with a fix feed nothing. -/
theorem run_noFixTpv (hp : PulseFed up) {e : Event} (he : e.noFixTpv) (mid : List Event)
    (hmid : ∀ x ∈ mid, ¬ x.isStart ∧ ¬ x.fixTpv) :
  (run E up i (e :: mid)).2 = []
  := by
  obtain ⟨hs, h', hp'⟩ := Event.step_noFixTpv E i hp he
  have hrun := run_invariant E (fun _ up ss => ss = [] ∧ NoFix up ∧ PulseFed up)
    (fun x => ¬ x.isStart ∧ ¬ x.fixTpv)
    (fun i up ss x hx hinv => by
      obtain ⟨hss, h, hp⟩ := hinv
      obtain ⟨hs, h', hp'⟩ := NoFix.step E i h hp x hx.1 hx.2
      exact ⟨by rw [hss, hs]; rfl, h', hp'⟩)
    mid hmid (i + 1) _ [] ⟨rfl, h', hp'⟩
  simp only [run, hs, List.nil_append]
  simpa using hrun.1

end Runs

/-- Let all peers of a unit start before its first record (`boot` has no record), from a
unit with no pulse for a secondary peer, as `gpsd_start` allocates it.  Then, whatever
records come first (`pre`), from a TPV record without a usable fix (`e`) up to the next TPV
record with one, whatever records, `gpsd_control` calls and lost connections come between
(`mid`), neither peer is fed a sample: the run feeds exactly what it fed before `e`. -/
theorem run_noFix_feeds_nothing (E : Ext) (u₀ : GpsdUnit) (h₀ : u₀.flPps2 = false) (i : Nat)
    (boot pre : List Event) (e : Event) (mid : List Event)
    (hboot : ∀ x ∈ boot, ¬ x.isRecord) (hpre : ∀ x ∈ pre, ¬ x.isStart) (he : e.noFixTpv)
    (hmid : ∀ x ∈ mid, ¬ x.isStart ∧ ¬ x.fixTpv) :
    (run E u₀ i (boot ++ pre ++ e :: mid)).2 = (run E u₀ i (boot ++ pre)).2
  := by
  have hb := run_invariant E (fun _ up _ => up.flPps2 = false) (fun x => ¬ x.isRecord)
    (fun i up ss x hx hu => by
      cases x with
      | record => exact absurd trivial hx
      | control => exact (gpsdControl_keeps _ _ _ _ _).2.2.trans hu
      | stopSocket => exact hu
      | start =>
        exact Bool.eq_false_iff.mpr fun h => by simpa [hu] using (startOpmode_frame _ _ _ _).flPps2 h)
    boot hboot i u₀ [] h₀
  have hp := run_invariant E (fun _ up _ => PulseFed up) (fun x => ¬ x.isStart)
    (fun i up ss x hx hp => hp.step E i x hx) pre hpre (i + boot.length) (run E u₀ i boot).1 []
    (fun _ => hb)
  rw [run_append E u₀ i (boot ++ pre), run_noFixTpv E _ ?_ he mid hmid, List.append_nil]
  rw [run_append]
  exact hp

/-- The record `{"class":"TPV","mode":1}` after two starts in `STRICT` mode and a TPV record,
followed by a PPS record, feeds nothing: the pulse finds `fl_nosync` set. -/
theorem run_noFix_feeds_nothing_mode_one :
    let toks : List Token := [⟨.object, 0, 24, 2⟩, ⟨.string, 2, 7, 1⟩, ⟨.string, 10, 13, 0⟩,
      ⟨.string, 16, 20, 1⟩, ⟨.primitive, 22, 23, 0⟩]
    let tpv : JsonCtx :=
      ⟨nulTerminate (cbytes "\x7b\"class\":\"TPV\",\"mode\":1\x7d" ++ [0]) toks, 5, toks⟩
    let E : Ext := ⟨fun _ => none, fun _ => 0⟩
    GpsdUnit.zero.flPps2 = false ∧
    (∀ x ∈ [Event.start 0 1 1, .start 128 2 1], ¬ x.isRecord) ∧
    (∀ x ∈ [Event.record (some tpv) 0 false], ¬ x.isStart) ∧
    (Event.record (some tpv) (2 ^ 32) false).noFixTpv ∧
    (∀ x ∈ [Event.record (some ppsPulse) (2 ^ 33) false], ¬ x.isStart ∧ ¬ x.fixTpv) ∧
    (run E GpsdUnit.zero 1 ([.start 0 1 1, .start 128 2 1] ++ [.record (some tpv) 0 false] ++
        .record (some tpv) (2 ^ 32) false :: [.record (some ppsPulse) (2 ^ 33) false])).2
      = (run E GpsdUnit.zero 1 ([.start 0 1 1, .start 128 2 1] ++ [.record (some tpv) 0 false])).2
  := by
  intro toks tpv E
  have hboot : ∀ x ∈ [Event.start 0 1 1, .start 128 2 1], ¬ x.isRecord := by
    simp [Event.isRecord]
  have hpre : ∀ x ∈ [Event.record (some tpv) 0 false], ¬ x.isStart := by simp [Event.isStart]
  have he : (Event.record (some tpv) (2 ^ 32) false).noFixTpv := by
    unfold Event.noFixTpv
    decide
  have hmid : ∀ x ∈ [Event.record (some ppsPulse) (2 ^ 33) false], ¬ x.isStart ∧ ¬ x.fixTpv := by
    simp only [List.mem_singleton, forall_eq, Event.isStart, Event.fixTpv, not_false_eq_true,
      true_and]
    exact fun h => absurd h.1 (by decide)
  exact ⟨rfl, hboot, hpre, he, hmid,
    run_noFix_feeds_nothing E GpsdUnit.zero rfl 1 _ _ _ _ hboot hpre he hmid⟩

end GpsdJson
