import GpsdJson.Unit.Run

/-!
# Every record feeds each peer at most once

A sample names the records its two time stamps were read from (the ghost index of
`Stamped`).  Over every run of events, whatever the operation modes and their switches by
`gpsd_control` and `gpsd_start`, the lost connections and the records in any order:

* no record is named by two samples of the primary peer, nor by two of the secondary peer;
* no stored time stamp reaches `refclock_process_offset` twice.

The invariant `FeedInv` says that a set flag vouches only for stamps that no sample of its
peer names.  `Frame` and `Writes` say once what a step can do to the stored stamps: the
evaluations keep them and only clear flags, and a record stores only stamps read from
itself.  The evaluations feed only stamps that their flags vouch for, and clear those flags.
-/

namespace GpsdJson

/-! ### Samples naming records -/

/-- Whether one of the two time stamps of `s` was read from record `k`. -/
def Sample.names (s : Sample) (k : Nat) : Bool :=
  s.stamp.src == k || s.recvt.src == k

/-- How many samples of `ss` for the primary peer (`b = true`) or for the secondary peer
(`b = false`) name record `k`. -/
def uses (ss : List Sample) (b : Bool) (k : Nat) : Nat :=
  ss.countP fun s => s.primary == b && s.names k

@[simp] theorem uses_nil (b : Bool) (k : Nat) :
  uses [] b k = 0
  := rfl

@[simp] theorem uses_append (ss ss' : List Sample) (b : Bool) (k : Nat) :
  uses (ss ++ ss') b k = uses ss b k + uses ss' b k
  := List.countP_append _ _ _

theorem uses_singleton (s : Sample) (b : Bool) (k : Nat) :
  uses [s] b k = if s.primary = b ∧ s.names k = true then 1 else 0
  := by
  simp [uses, List.countP_cons]

theorem uses_snoc_eq_zero {ss : List Sample} {s : Sample} {b : Bool} {k : Nat}
    (h₀ : uses ss b k = 0) (h : s.primary = b → s.names k = false) :
  uses (ss ++ [s]) b k = 0
  := by
  rw [uses_append, h₀, uses_singleton, if_neg]
  rintro ⟨hb, hk⟩
  simp [h hb] at hk

/-! ### The invariant -/

/-- The invariant of a run whose events so far were numbered below `n`, with unit `up`
and samples `ss`: the stored stamps and the samples come from those events; a set flag
vouches for stamps that no sample of its peer names; the PPS receive time that `fl_pps`
vouches for was read from another record than the serial stamps; and no record is named by
two samples of one peer. -/
structure FeedInv (n : Nat) (up : GpsdUnit) (ss : List Sample) : Prop where
  stored : up.ibtStamp.src < n ∧ up.ibtRecvt.src < n ∧ up.ppsRecvt.src < n ∧
    up.ppsStamp2.src < n ∧ up.ppsRecvt2.src < n
  fed : ∀ b k, n ≤ k → uses ss b k = 0
  ibt : up.flIbt → uses ss true up.ibtStamp.src = 0 ∧ uses ss true up.ibtRecvt.src = 0
  pps : up.flPps → uses ss true up.ppsRecvt.src = 0 ∧
    up.ppsRecvt.src ≠ up.ibtStamp.src ∧ up.ppsRecvt.src ≠ up.ibtRecvt.src
  pps2 : up.flPps2 → uses ss false up.ppsStamp2.src = 0 ∧ uses ss false up.ppsRecvt2.src = 0
  once : ∀ b k, uses ss b k ≤ 1

/-- A unit that vouches for no stamp, with stamps from events before `n`, and no samples. -/
theorem FeedInv.init {n : Nat} {up : GpsdUnit}
    (hflags : up.flIbt = false ∧ up.flPps = false ∧ up.flPps2 = false)
    (hsrc : up.ibtStamp.src < n ∧ up.ibtRecvt.src < n ∧ up.ppsRecvt.src < n ∧
      up.ppsStamp2.src < n ∧ up.ppsRecvt2.src < n) :
  FeedInv n up []
  := by
  obtain ⟨h1, h2, h3⟩ := hflags
  exact ⟨hsrc, by simp, by simp [h1], by simp [h2], by simp [h3], by simp⟩

/-! ### What a step can do -/

/-- `up'` stores the same time stamps as `up` and vouches for no more of them. -/
structure Frame (up up' : GpsdUnit) : Prop where
  stamps : up'.ibtStamp = up.ibtStamp ∧ up'.ibtRecvt = up.ibtRecvt ∧
    up'.ppsRecvt = up.ppsRecvt ∧ up'.ppsStamp2 = up.ppsStamp2 ∧ up'.ppsRecvt2 = up.ppsRecvt2
  flIbt : up'.flIbt → up.flIbt
  flPps : up'.flPps → up.flPps
  flPps2 : up'.flPps2 → up.flPps2

theorem Frame.refl (up : GpsdUnit) :
  Frame up up
  := ⟨⟨rfl, rfl, rfl, rfl, rfl⟩, id, id, id⟩

/-- The stamp `x'` after the event numbered `n` is the stamp `x` before it, vouched for by
`flag`, or was read from the event's record. -/
def Vouched (n : Nat) (flag : Bool) (x x' : Stamped) : Prop :=
  x' = x ∧ flag = true ∨ x'.src = n

/-- What the event numbered `n` may do to the stored time stamps: each is kept or read from
the event's record; a flag is set only over stamps it vouched for before or that are new;
and the serial stamps and the PPS receive time are not both replaced. -/
structure Writes (n : Nat) (up up' : GpsdUnit) : Prop where
  stamps : (up'.ibtStamp = up.ibtStamp ∨ up'.ibtStamp.src = n) ∧
    (up'.ibtRecvt = up.ibtRecvt ∨ up'.ibtRecvt.src = n) ∧
    (up'.ppsRecvt = up.ppsRecvt ∨ up'.ppsRecvt.src = n) ∧
    (up'.ppsStamp2 = up.ppsStamp2 ∨ up'.ppsStamp2.src = n) ∧
    (up'.ppsRecvt2 = up.ppsRecvt2 ∨ up'.ppsRecvt2.src = n)
  flIbt : up'.flIbt →
    Vouched n up.flIbt up.ibtStamp up'.ibtStamp ∧ Vouched n up.flIbt up.ibtRecvt up'.ibtRecvt
  flPps : up'.flPps → Vouched n up.flPps up.ppsRecvt up'.ppsRecvt
  flPps2 : up'.flPps2 →
    Vouched n up.flPps2 up.ppsStamp2 up'.ppsStamp2 ∧ Vouched n up.flPps2 up.ppsRecvt2 up'.ppsRecvt2
  oneSide : up'.ibtStamp = up.ibtStamp ∧ up'.ibtRecvt = up.ibtRecvt ∨ up'.ppsRecvt = up.ppsRecvt

theorem Frame.writes {up up' : GpsdUnit} (h : Frame up up') (n : Nat) :
  Writes n up up'
  := by
  obtain ⟨⟨a1, a2, a3, a4, a5⟩, f1, f2, f3⟩ := h
  exact ⟨⟨.inl a1, .inl a2, .inl a3, .inl a4, .inl a5⟩,
    fun hf => ⟨.inl ⟨a1, f1 hf⟩, .inl ⟨a2, f1 hf⟩⟩, fun hf => .inl ⟨a3, f2 hf⟩,
    fun hf => ⟨.inl ⟨a4, f3 hf⟩, .inl ⟨a5, f3 hf⟩⟩, .inl ⟨a1, a2⟩⟩

/-! ### What each function can do -/

theorem gpsdControl_frame (up : GpsdUnit) (peer : PeerId) (cfgMode : Nat) (fudge1 fudge2 : LFp) :
  Frame up (gpsdControl up peer cfgMode fudge1 fudge2)
  := by
  unfold gpsdControl
  split
  · exact ⟨⟨rfl, rfl, rfl, rfl, rfl⟩, id, id, id⟩
  · dsimp only
    split
    · rw [enterOpmode_eq, leaveOpmode_eq]
      exact ⟨⟨rfl, rfl, rfl, rfl, rfl⟩, by simp, by simp, id⟩
    · exact ⟨⟨rfl, rfl, rfl, rfl, rfl⟩, id, id, id⟩

theorem stopSocketUnit_frame (up : GpsdUnit) :
  Frame up (stopSocketUnit up)
  := ⟨⟨rfl, rfl, rfl, rfl, rfl⟩, by simp [stopSocketUnit], by simp [stopSocketUnit], id⟩

theorem startOpmode_frame (up : GpsdUnit) (unit : Nat) (peer : PeerId) (cfgMode : Nat) :
  Frame up (startOpmode up unit peer cfgMode)
  := by
  unfold startOpmode
  dsimp only
  split
  · exact ⟨⟨rfl, rfl, rfl, rfl, rfl⟩, id, id, id⟩
  · rw [enterOpmode_eq]
    exact ⟨⟨rfl, rfl, rfl, rfl, rfl⟩, by simp, by simp, id⟩

theorem processVersion_frame (up : GpsdUnit) (jctx : JsonCtx) :
  Frame up (processVersion up jctx)
  := by
  unfold processVersion
  dsimp only
  split <;> exact ⟨⟨rfl, rfl, rfl, rfl, rfl⟩, id, id, id⟩

theorem processWatch_frame (up : GpsdUnit) (jctx : JsonCtx) :
  Frame up (processWatch up jctx)
  := by
  unfold processWatch
  split
  · exact Frame.refl up
  · split <;> exact ⟨⟨rfl, rfl, rfl, rfl, rfl⟩, id, id, id⟩

theorem processTpv_writes (E : Ext) (up : GpsdUnit) (jctx : JsonCtx) (t : LFp) (n : Nat) :
  Writes n up (processTpv E up jctx ⟨t, n⟩)
  := by
  unfold processTpv
  dsimp only
  split
  · apply Frame.writes
    exact ⟨⟨rfl, rfl, rfl, rfl, rfl⟩, by simp, by simp, id⟩
  · split
    · apply Frame.writes
      exact ⟨⟨rfl, rfl, rfl, rfl, rfl⟩, id, id, id⟩
    · split
      · refine ⟨⟨?_, ?_, ?_, ?_, ?_⟩, ?_, ?_, ?_, ?_⟩ <;> simp +contextual [Vouched]
      · apply Frame.writes
        exact ⟨⟨rfl, rfl, rfl, rfl, rfl⟩, by simp, id, id⟩

theorem processPps_writes (up : GpsdUnit) (jctx : JsonCtx) (t : LFp) (n : Nat) (f : Bool) :
  Writes n up (processPps up jctx ⟨t, n⟩ f)
  := by
  unfold processPps
  dsimp only
  split
  · apply Frame.writes
    exact ⟨⟨rfl, rfl, rfl, rfl, rfl⟩, id, id, id⟩
  · split
    · apply Frame.writes
      exact ⟨⟨rfl, rfl, rfl, rfl, rfl⟩, id, id, id⟩
    · split
      · refine ⟨⟨?_, ?_, ?_, ?_, ?_⟩, ?_, ?_, ?_, ?_⟩ <;> simp +contextual [Vouched]
      · refine ⟨⟨?_, ?_, ?_, ?_, ?_⟩, ?_, ?_, ?_, ?_⟩ <;> simp +contextual [Vouched]

theorem processToff_writes (up : GpsdUnit) (jctx : JsonCtx) (t : LFp) (n : Nat) :
  Writes n up (processToff up jctx ⟨t, n⟩)
  := by
  unfold processToff
  dsimp only
  split
  · apply Frame.writes
    exact ⟨⟨rfl, rfl, rfl, rfl, rfl⟩, id, id, id⟩
  · split
    · apply Frame.writes
      exact ⟨⟨rfl, rfl, rfl, rfl, rfl⟩, id, id, id⟩
    · split
      · refine ⟨⟨?_, ?_, ?_, ?_, ?_⟩, ?_, ?_, ?_, ?_⟩ <;> simp +contextual [Vouched]
      · refine ⟨⟨?_, ?_, ?_, ?_, ?_⟩, ?_, ?_, ?_, ?_⟩ <;> simp +contextual [Vouched]

/-- A record of a known class stores only time stamps read from itself. -/
theorem processRecord_writes {E : Ext} {up up' : GpsdUnit} {jctx : JsonCtx}
    {clsid : List UInt8} {t : LFp} {n : Nat} {f : Bool}
    (h : processRecord E up jctx clsid ⟨t, n⟩ f = some up') :
  Writes n up up'
  := by
  rcases processRecord_cases h with ⟨-, rfl⟩ | ⟨-, rfl⟩ | ⟨-, rfl⟩ | ⟨-, rfl⟩ | ⟨-, rfl⟩
  exacts [processTpv_writes E up jctx t n, processPps_writes up jctx t n f,
    processToff_writes up jctx t n, (processVersion_frame up jctx).writes n,
    (processWatch_frame up jctx).writes n]

/-! ### Steps keep the invariant -/

section Steps

variable {n : Nat} {up up' : GpsdUnit} {ss : List Sample}

theorem FeedInv.frame (h : FeedInv n up ss) (hf : Frame up up') :
  FeedInv n up' ss
  := by
  obtain ⟨⟨a1, a2, a3, a4, a5⟩, f1, f2, f3⟩ := hf
  obtain ⟨hst, hfed, hibt, hpps, hpps2, honce⟩ := h
  refine ⟨by rwa [a1, a2, a3, a4, a5], hfed, fun hf => ?_, fun hf => ?_, fun hf => ?_, honce⟩
  · rw [a1, a2]; exact hibt (f1 hf)
  · rw [a1, a2, a3]; exact hpps (f2 hf)
  · rw [a4, a5]; exact hpps2 (f3 hf)

private theorem src_lt_of_kept {x x' : Stamped} (h : x' = x ∨ x'.src = n) (hx : x.src < n) :
  x'.src < n + 1
  := by
  rcases h with rfl | h <;> omega

private theorem uses_of_vouched (hfed : ∀ b, uses ss b n = 0) {b flag : Bool} {x x' : Stamped}
    (hv : Vouched n flag x x') (hx : flag = true → uses ss b x.src = 0) :
  uses ss b x'.src = 0
  := by
  rcases hv with ⟨rfl, hf⟩ | h
  · exact hx hf
  · rw [h]; exact hfed b

/-- The event numbered `n` keeps the invariant, with `n + 1` events seen, by what it
stores. -/
theorem FeedInv.writes (h : FeedInv n up ss) (hw : Writes n up up') :
  FeedInv (n + 1) up' ss
  := by
  obtain ⟨⟨s1, s2, s3, s4, s5⟩, hfed, hibt, hpps, hpps2, honce⟩ := h
  obtain ⟨⟨t1, t2, t3, t4, t5⟩, w1, w2, w3, wside⟩ := hw
  have fresh : ∀ b, uses ss b n = 0 := fun b => hfed b n le_rfl
  refine ⟨⟨src_lt_of_kept t1 s1, src_lt_of_kept t2 s2, src_lt_of_kept t3 s3,
      src_lt_of_kept t4 s4, src_lt_of_kept t5 s5⟩,
    fun b k hk => hfed b k (by omega), fun hf => ?_, fun hf => ?_, fun hf => ?_, honce⟩
  · exact ⟨uses_of_vouched fresh (w1 hf).1 fun h => (hibt h).1,
      uses_of_vouched fresh (w1 hf).2 fun h => (hibt h).2⟩
  · refine ⟨uses_of_vouched fresh (w2 hf) fun h => (hpps h).1, ?_⟩
    rcases w2 hf with ⟨hx, hflag⟩ | hx
    · have := (hpps hflag).2
      rcases t1 with h1 | h1 <;> rcases t2 with h2 | h2 <;> simp only [hx, h1, h2] <;> omega
    · rcases wside with ⟨h1, h2⟩ | h3
      · rw [hx, h1, h2]; omega
      · rw [h3] at hx; omega
  · exact ⟨uses_of_vouched fresh (w3 hf).1 fun h => (hpps2 h).1,
      uses_of_vouched fresh (w3 hf).2 fun h => (hpps2 h).2⟩

/-- Feeding a sample `s` whose stamps come from events before `n` and are named by no
sample of its peer, while moving to a unit `up'` that keeps the stamps and vouches on the
peer's side for none that `s` names, keeps the invariant. -/
theorem FeedInv.feed (h : FeedInv n up ss) (hf : Frame up up') (s : Sample)
    (hs : s.stamp.src < n ∧ s.recvt.src < n)
    (hfree : uses ss s.primary s.stamp.src = 0 ∧ uses ss s.primary s.recvt.src = 0)
    (hibt : up'.flIbt → s.primary →
      s.names up'.ibtStamp.src = false ∧ s.names up'.ibtRecvt.src = false)
    (hpps : up'.flPps → s.primary → s.names up'.ppsRecvt.src = false)
    (hpps2 : up'.flPps2 → s.primary = false →
      s.names up'.ppsStamp2.src = false ∧ s.names up'.ppsRecvt2.src = false) :
  FeedInv n up' (ss ++ [s])
  := by
  obtain ⟨hst, hfed, hi, hp, hp2, honce⟩ := h.frame hf
  refine ⟨hst, fun b k hk => uses_snoc_eq_zero (hfed b k hk) fun _ => ?_,
    fun hfl => ⟨uses_snoc_eq_zero (hi hfl).1 fun hb => (hibt hfl hb).1,
      uses_snoc_eq_zero (hi hfl).2 fun hb => (hibt hfl hb).2⟩,
    fun hfl => ⟨uses_snoc_eq_zero (hp hfl).1 (hpps hfl), (hp hfl).2⟩,
    fun hfl => ⟨uses_snoc_eq_zero (hp2 hfl).1 fun hb => (hpps2 hfl hb).1,
      uses_snoc_eq_zero (hp2 hfl).2 fun hb => (hpps2 hfl hb).2⟩, fun b k => ?_⟩
  · simp only [Sample.names, Bool.or_eq_false_iff, beq_eq_false_iff_ne, ne_eq]
    omega
  · rw [uses_append, uses_singleton]
    split
    · obtain ⟨rfl, hk⟩ := ‹s.primary = b ∧ s.names k = true›
      simp only [Sample.names, Bool.or_eq_true, beq_iff_eq] at hk
      rcases hk with rfl | rfl <;> simp [hfree]
    · simpa using honce b k

/-- `eval_serial` feeds the serial stamps that `fl_ibt` vouches for, and clears it. -/
theorem FeedInv.evalSerial (h : FeedInv n up ss) :
  FeedInv n (evalSerial up).1 (ss ++ (evalSerial up).2)
  := by
  unfold GpsdJson.evalSerial
  split
  · dsimp only
    refine h.feed ?_ ⟨.serial, up.ibtStamp, up.ibtRecvt, up.ibtPrec⟩ ⟨h.stored.1, h.stored.2.1⟩
      (h.ibt ‹_›) (by simp) (fun hf _ => ?_) (by simp [Sample.primary])
    · exact ⟨⟨rfl, rfl, rfl, rfl, rfl⟩, by simp, id, id⟩
    · have := (h.pps hf).2
      simp only [Sample.names, Bool.or_eq_false_iff, beq_eq_false_iff_ne, ne_eq]
      omega
  · simpa using h

/-- `eval_strict` feeds the serial reference time and the PPS receive time that `fl_ibt`
and `fl_pps` vouch for, and clears both. -/
theorem FeedInv.evalStrict (h : FeedInv n up ss) :
  FeedInv n (evalStrict up).1 (ss ++ (evalStrict up).2)
  := by
  unfold GpsdJson.evalStrict
  split
  · obtain ⟨hi, hp⟩ := Bool.and_eq_true_iff.mp ‹_›
    dsimp only
    refine h.feed ?_ ⟨.strict, up.ibtStamp, up.ppsRecvt, up.ppsPrec⟩ ⟨h.stored.1, h.stored.2.2.1⟩
      ⟨(h.ibt hi).1, (h.pps hp).1⟩ (by simp) (by simp) (by simp [Sample.primary])
    exact ⟨⟨rfl, rfl, rfl, rfl, rfl⟩, by simp, by simp, id⟩
  · simpa using h

/-- `eval_pps_secondary` feeds the pulse that `fl_pps2` vouches for, and clears it. -/
theorem FeedInv.evalPpsSecondary (h : FeedInv n up ss) :
  FeedInv n (evalPpsSecondary up).1 (ss ++ (evalPpsSecondary up).2)
  := by
  unfold GpsdJson.evalPpsSecondary
  split
  · dsimp only
    refine h.feed ?_ ⟨.ppsSecondary, up.ppsStamp2, up.ppsRecvt2, up.ppsPrec⟩
      ⟨h.stored.2.2.2.1, h.stored.2.2.2.2⟩ (h.pps2 ‹_›) (by simp [Sample.primary])
      (by simp [Sample.primary]) (by simp)
    exact ⟨⟨rfl, rfl, rfl, rfl, rfl⟩, id, id, by simp⟩
  · simpa using h

theorem ppsCredit_frame (up : GpsdUnit) :
  Frame up (ppsCredit up)
  := by
  unfold ppsCredit
  split <;> exact ⟨⟨rfl, rfl, rfl, rfl, rfl⟩, id, id, id⟩

theorem FeedInv.evalAuto (h : FeedInv n up ss) :
  FeedInv n (evalAuto up).1 (ss ++ (evalAuto up).2)
  := by
  unfold GpsdJson.evalAuto
  split
  · simpa using h
  · have h' := h.frame (ppsCredit_frame up)
    dsimp only
    split
    · exact h'.evalSerial
    · exact h'.evalStrict

theorem FeedInv.evalMode (h : FeedInv n up ss) :
  FeedInv n (evalMode up).1 (ss ++ (evalMode up).2)
  := by
  unfold GpsdJson.evalMode
  split
  · exact h.evalStrict
  · exact h.evalAuto
  · exact h.evalSerial

theorem dropStale_frame (up : GpsdUnit) :
  Frame up (dropStale up)
  := by
  unfold dropStale
  split
  · dsimp only
    split
    · exact ⟨⟨rfl, rfl, rfl, rfl, rfl⟩, id, by simp, id⟩
    · split
      · exact ⟨⟨rfl, rfl, rfl, rfl, rfl⟩, by simp, id, id⟩
      · exact Frame.refl up
  · exact Frame.refl up

theorem FeedInv.feedSecondary (h : FeedInv n up ss) :
  FeedInv n (feedSecondary up).1 (ss ++ (feedSecondary up).2)
  := by
  unfold GpsdJson.feedSecondary
  split
  · exact h.evalPpsSecondary
  · simpa using h

/-- The evaluation after a processed record keeps the invariant. -/
theorem FeedInv.gpsdEvaluate (h : FeedInv n up ss) :
  FeedInv n (gpsdEvaluate up).1 (ss ++ (gpsdEvaluate up).2)
  := by
  have h1 : Frame up { up with tcRecv := up.tcRecv + 1 } := ⟨⟨rfl, rfl, rfl, rfl, rfl⟩, id, id, id⟩
  have h2 := (h.frame h1).feedSecondary
  simpa only [GpsdJson.gpsdEvaluate, List.append_assoc]
    using (h2.frame (dropStale_frame _)).evalMode

/-- Every event keeps the invariant. -/
theorem FeedInv.step {i : Nat} (h : FeedInv i up ss) (E : Ext) (e : Event) :
  FeedInv (i + 1) (e.step E up i).1 (ss ++ (e.step E up i).2)
  := by
  have quiet : ∀ {u}, Frame up u → FeedInv (i + 1) u (ss ++ []) := fun hf => by
    simpa using h.writes (hf.writes i)
  cases e with
  | record rec rtime clkFlag2 =>
    simp only [Event.step, gpsdParseRecord]
    split
    · exact quiet ⟨⟨rfl, rfl, rfl, rfl, rfl⟩, id, id, id⟩
    · split
      · exact quiet ⟨⟨rfl, rfl, rfl, rfl, rfl⟩, id, id, id⟩
      · split
        · exact quiet (Frame.refl up)
        · exact (h.writes (processRecord_writes ‹_›)).gpsdEvaluate
  | control peer cfgMode fudge1 fudge2 => exact quiet (gpsdControl_frame _ _ _ _ _)
  | stopSocket => exact quiet (stopSocketUnit_frame _)
  | start unit peer cfgMode => exact quiet (startOpmode_frame _ _ _ _)

/-- Every run keeps the invariant. -/
theorem FeedInv.run {i : Nat} (h : FeedInv i up ss) (E : Ext) (es : List Event) :
  FeedInv (i + es.length) (run E up i es).1 (ss ++ (run E up i es).2)
  := run_invariant E FeedInv (fun _ => True) (fun _ _ _ e _ h => h.step E e) es
    (fun _ _ => trivial) i up ss h

end Steps

/-! ### No time stamp is fed twice -/

/-- Where the unit stored a time stamp that a sample passes. -/
inductive Slot where
  | ibtStamp
  | ibtRecvt
  | ppsRecvt
  | ppsStamp2
  | ppsRecvt2
  deriving DecidableEq, Repr

/-- Whether a slot holds a time stamp for the primary peer. -/
def Slot.primary : Slot → Bool
  | .ppsStamp2 | .ppsRecvt2 => false
  | _ => true

/-- The stored time stamps a sample passes to `refclock_process_offset`, each as the record
it was read from and the slot it was stored in: `eval_serial` passes `ibt_stamp` and
`ibt_recvt`, `eval_strict` passes `ibt_stamp` and `pps_recvt`, and `eval_pps_secondary`
passes `pps_stamp2` and `pps_recvt2`. -/
def Sample.stamps (s : Sample) : List (Nat × Slot) :=
  match s.feed with
  | .serial => [(s.stamp.src, .ibtStamp), (s.recvt.src, .ibtRecvt)]
  | .strict => [(s.stamp.src, .ibtStamp), (s.recvt.src, .ppsRecvt)]
  | .ppsSecondary => [(s.stamp.src, .ppsStamp2), (s.recvt.src, .ppsRecvt2)]

theorem Sample.nodup_stamps (s : Sample) :
  s.stamps.Nodup
  := by
  unfold Sample.stamps
  split <;> simp

/-- A stored time stamp passed by a sample is on the sample's peer's side and read from a
record the sample names. -/
theorem Sample.of_mem_stamps {s : Sample} {x : Nat × Slot} (hx : x ∈ s.stamps) :
  x.2.primary = s.primary ∧ s.names x.1 = true
  := by
  obtain ⟨feed, stamp, recvt, prec⟩ := s
  cases feed <;>
    rcases List.mem_pair.mp hx with rfl | rfl <;> simp [Slot.primary, Sample.primary, Sample.names]

/-- When no record is named by two samples of one peer, no stored time stamp is passed by two
samples. -/
theorem nodup_stamps_of_uses {ss : List Sample} (h : ∀ b k, uses ss b k ≤ 1) :
  (ss.flatMap Sample.stamps).Nodup
  := by
  induction ss with
  | nil => simp
  | cons s ss ih =>
    have hcons : ∀ b k, uses (s :: ss) b k = uses [s] b k + uses ss b k := fun b k =>
      uses_append [s] ss b k
    rw [List.flatMap_cons, List.nodup_append]
    refine ⟨s.nodup_stamps, ih fun b k => by have := h b k; have := hcons b k; omega, ?_⟩
    intro x hx hx'
    obtain ⟨s', hs', hx'⟩ := List.mem_flatMap.mp hx'
    obtain ⟨hb, hk⟩ := Sample.of_mem_stamps hx
    obtain ⟨hb', hk'⟩ := Sample.of_mem_stamps hx'
    have h1 : uses [s] s.primary x.1 = 1 := by simp [uses_singleton, hk]
    have h2 : 0 < uses ss s.primary x.1 :=
      List.countP_pos_iff.mpr ⟨s', hs', by simp [← hb, hb', hk']⟩
    have := h s.primary x.1
    have := hcons s.primary x.1
    omega

/-- From a unit that vouches for no time stamp, whose stamps were read before event `i`,
along every run of events numbered from `i`: no record is named by two samples of the
primary peer, nor by two samples of the secondary peer, and no stored time stamp is passed
to `refclock_process_offset` twice. -/
theorem run_feeds_once (E : Ext) (u₀ : GpsdUnit) (i : Nat)
    (hflags : u₀.flIbt = false ∧ u₀.flPps = false ∧ u₀.flPps2 = false)
    (hsrc : u₀.ibtStamp.src < i ∧ u₀.ibtRecvt.src < i ∧ u₀.ppsRecvt.src < i ∧
      u₀.ppsStamp2.src < i ∧ u₀.ppsRecvt2.src < i)
    (es : List Event) :
    (∀ b k, uses (run E u₀ i es).2 b k ≤ 1) ∧ ((run E u₀ i es).2.flatMap Sample.stamps).Nodup
  := by
  have h := (FeedInv.init hflags hsrc).run E es
  rw [List.nil_append] at h
  exact ⟨h.once, nodup_stamps_of_uses h.once⟩

/-- A `TPV` record with a fix, `{"class":"TPV","mode":2,"time":"Z"}`, as `json_parse_record`
leaves it: the text with a NUL behind each token, and its seven tokens. -/
def tpvFix : JsonCtx :=
  let toks : List Token := [⟨.object, 0, 35, 3⟩, ⟨.string, 2, 7, 1⟩, ⟨.string, 10, 13, 0⟩,
    ⟨.string, 16, 20, 1⟩, ⟨.primitive, 22, 23, 0⟩, ⟨.string, 25, 29, 1⟩, ⟨.string, 32, 33, 0⟩]
  ⟨nulTerminate (cbytes "\x7b\"class\":\"TPV\",\"mode\":2,\"time\":\"Z\"\x7d" ++ [0]) toks, 7, toks⟩

/-- A `PPS` record,
`{"class":"PPS","real_sec":6,"real_musec":0,"clock_sec":5,"clock_musec":0}`, as
`json_parse_record` leaves it. -/
def ppsPulse : JsonCtx :=
  let toks : List Token := [⟨.object, 0, 73, 5⟩, ⟨.string, 2, 7, 1⟩, ⟨.string, 10, 13, 0⟩,
    ⟨.string, 16, 24, 1⟩, ⟨.primitive, 26, 27, 0⟩, ⟨.string, 29, 39, 1⟩,
    ⟨.primitive, 41, 42, 0⟩, ⟨.string, 44, 53, 1⟩, ⟨.primitive, 55, 56, 0⟩,
    ⟨.string, 58, 69, 1⟩, ⟨.primitive, 71, 72, 0⟩]
  ⟨nulTerminate (cbytes ("\x7b\"class\":\"PPS\",\"real_sec\":6,\"real_musec\":0," ++
    "\"clock_sec\":5,\"clock_musec\":0\x7d") ++ [0]) toks, 11, toks⟩

/-- The unit as `gpsd_start` allocates it, through the start of a primary peer in `IBT` mode
and two `TPV` records with a fix, numbered `2` and `3`: each feeds a sample of its own. -/
theorem run_feeds_once_zero :
  (GpsdUnit.zero.flIbt = false ∧ GpsdUnit.zero.flPps = false ∧ GpsdUnit.zero.flPps2 = false) ∧
  (GpsdUnit.zero.ibtStamp.src < 1 ∧ GpsdUnit.zero.ibtRecvt.src < 1 ∧
    GpsdUnit.zero.ppsRecvt.src < 1 ∧ GpsdUnit.zero.ppsStamp2.src < 1 ∧
    GpsdUnit.zero.ppsRecvt2.src < 1) ∧
  ((run ⟨fun _ => some (0, 0), fun _ => 0⟩ GpsdUnit.zero 1
      [.start 0 1 0, .record (some tpvFix) (2 ^ 32) false,
        .record (some tpvFix) (2 ^ 33) false]).2.map fun s => s.stamp.src) = [2, 3] ∧
  (∀ b k, uses (run ⟨fun _ => some (0, 0), fun _ => 0⟩ GpsdUnit.zero 1
      [.start 0 1 0, .record (some tpvFix) (2 ^ 32) false,
        .record (some tpvFix) (2 ^ 33) false]).2 b k ≤ 1) ∧
  ((run ⟨fun _ => some (0, 0), fun _ => 0⟩ GpsdUnit.zero 1
      [.start 0 1 0, .record (some tpvFix) (2 ^ 32) false,
        .record (some tpvFix) (2 ^ 33) false]).2.flatMap Sample.stamps).Nodup
  := ⟨⟨rfl, rfl, rfl⟩, by decide, by decide, run_feeds_once _ _ 1 ⟨rfl, rfl, rfl⟩ (by decide) _⟩

end GpsdJson
