import GpsdJson.Unit.Feed

/-!
# What the peers are fed

A reference time waits in the unit until an evaluation feeds it, and a newer record of its
kind overwrites it; a flag that vouches for it is set only together with a fresh time.  So
no peer is fed a reference time older than one it was fed before: along every run of events,
whatever the operation modes and their switches, the records that the reference times of
one peer's samples were read from increase strictly.  With the fact that no record is named
twice, each peer sees its reference times as a subsequence of the records, in order.  The
precisions fed with them come from `clamped_precision`.

* `InOrder`: the reference times of a list of samples were read from increasing records.
* `OrderInv`: the samples so far are in order for each peer and come from earlier events,
  and a set flag vouches for a reference time read after every one its peer was fed.  The
  relations `Frame` and `Writes` say what a step does to the stored stamps.
* `run_samples_in_order`: every run keeps each peer's samples in order.
* `run_prec_range`: every precision fed with a sample lies between `-32` and `0`, so the
  `int8_t` cast of `peer->precision` loses nothing.
-/

namespace GpsdJson

/-- The reference times of `ss` were read from strictly increasing records. -/
def InOrder (ss : List Sample) : Prop :=
  ss.Pairwise fun a b => a.stamp.src < b.stamp.src

/-- The invariant of a run whose events so far were numbered below `n`, with unit `up` and
samples `ss`: each peer's samples are in order and were read before `n`, the stored reference
times too, and a set flag vouches for a reference time read after every one its peer was
fed. -/
structure OrderInv (n : Nat) (up : GpsdUnit) (ss : List Sample) : Prop where
  sorted : ∀ b, InOrder (ss.filter fun s => s.primary == b)
  fed : ∀ s ∈ ss, s.stamp.src < n
  stored : up.ibtStamp.src < n ∧ up.ppsStamp2.src < n
  ibt : up.flIbt → ∀ s ∈ ss, s.primary = true → s.stamp.src < up.ibtStamp.src
  pps2 : up.flPps2 → ∀ s ∈ ss, s.primary = false → s.stamp.src < up.ppsStamp2.src

section Steps

variable {n : Nat} {up up' : GpsdUnit} {ss : List Sample}

theorem OrderInv.init (hibt : up.ibtStamp.src < n) (hpps2 : up.ppsStamp2.src < n) :
  OrderInv n up []
  := ⟨fun _ => List.Pairwise.nil, fun _ h => absurd h (List.not_mem_nil _), ⟨hibt, hpps2⟩,
    fun _ _ h => absurd h (List.not_mem_nil _), fun _ _ h => absurd h (List.not_mem_nil _)⟩

theorem OrderInv.frame (h : OrderInv n up ss) (hf : Frame up up') :
  OrderInv n up' ss
  := by
  obtain ⟨⟨a1, -, -, a4, -⟩, f1, -, f3⟩ := hf
  exact ⟨h.sorted, h.fed, by rw [a1, a4]; exact h.stored, fun hfl => a1 ▸ h.ibt (f1 hfl),
    fun hfl => a4 ▸ h.pps2 (f3 hfl)⟩

/-- A stamp vouched for after the event numbered `n` was vouched for before or read from the
event's record, so it was read after every sample that came before it. -/
private theorem lt_of_vouched {flag : Bool} {x x' : Stamped} {b : Bool}
    (hv : Vouched n flag x x') (hfed : ∀ s ∈ ss, s.stamp.src < n)
    (hx : flag = true → ∀ s ∈ ss, s.primary = b → s.stamp.src < x.src) :
  ∀ s ∈ ss, s.primary = b → s.stamp.src < x'.src
  := by
  rcases hv with ⟨rfl, hf⟩ | h
  · exact hx hf
  · exact fun s hs _ => h ▸ hfed s hs

/-- The event numbered `n` keeps the invariant, with `n + 1` events seen, by what it
stores. -/
theorem OrderInv.writes (h : OrderInv n up ss) (hw : Writes n up up') :
  OrderInv (n + 1) up' ss
  := by
  obtain ⟨⟨t1, -, -, t4, -⟩, w1, -, w3, -⟩ := hw
  refine ⟨h.sorted, fun s hs => Nat.lt_succ_of_lt (h.fed s hs), ⟨?_, ?_⟩,
    fun hf => lt_of_vouched (w1 hf).1 h.fed h.ibt, fun hf => lt_of_vouched (w3 hf).1 h.fed h.pps2⟩
  · rcases t1 with h1 | h1 <;> rw [h1]
    exacts [Nat.lt_succ_of_lt h.stored.1, n.lt_succ_self]
  · rcases t4 with h4 | h4 <;> rw [h4]
    exacts [Nat.lt_succ_of_lt h.stored.2, n.lt_succ_self]

/-- Feeding a sample `s` read before `n` and after every sample of its peer, while moving to a
unit `up'` that keeps the stamps and vouches on the peer's side only for times read after `s`,
keeps the invariant. -/
theorem OrderInv.feed (h : OrderInv n up ss) (hf : Frame up up') (s : Sample)
    (hs : s.stamp.src < n) (hnew : ∀ t ∈ ss, t.primary = s.primary → t.stamp.src < s.stamp.src)
    (hibt : up'.flIbt → s.primary = true → s.stamp.src < up'.ibtStamp.src)
    (hpps2 : up'.flPps2 → s.primary = false → s.stamp.src < up'.ppsStamp2.src) :
  OrderInv n up' (ss ++ [s])
  := by
  obtain ⟨hsort, hfed, hst, hi, hp⟩ := h.frame hf
  have hlast : ∀ t ∈ ss ++ [s], t = s ∨ t ∈ ss := fun t ht => by
    rcases List.mem_append.1 ht with ht | ht
    · exact .inr ht
    · exact .inl (List.mem_singleton.1 ht)
  refine ⟨fun b => ?_, fun t ht => ?_, hst, fun hfl t ht htp => ?_, fun hfl t ht htp => ?_⟩
  · rw [InOrder, List.filter_append, List.pairwise_append]
    refine ⟨hsort b, List.Pairwise.sublist (List.filter_sublist _) (List.pairwise_singleton _ _),
      fun a ha c hc => ?_⟩
    obtain ⟨ha, hab⟩ := List.mem_filter.1 ha
    obtain ⟨hc, hcb⟩ := List.mem_filter.1 hc
    rw [List.mem_singleton.1 hc] at hcb ⊢
    exact hnew a ha (by rw [beq_iff_eq] at hab hcb; rw [hab, hcb])
  · rcases hlast t ht with rfl | ht
    · exact hs
    · exact hfed t ht
  · rcases hlast t ht with rfl | ht
    · exact hibt hfl htp
    · exact hi hfl t ht htp
  · rcases hlast t ht with rfl | ht
    · exact hpps2 hfl htp
    · exact hp hfl t ht htp

/-- `eval_serial` feeds the serial reference time that `fl_ibt` vouches for, and clears it. -/
theorem OrderInv.evalSerial (h : OrderInv n up ss) :
  OrderInv n (evalSerial up).1 (ss ++ (evalSerial up).2)
  := by
  unfold GpsdJson.evalSerial
  split
  · dsimp only
    refine h.feed ?_ ⟨.serial, up.ibtStamp, up.ibtRecvt, up.ibtPrec⟩ h.stored.1 (h.ibt ‹_›)
      (fun hf => absurd hf Bool.false_ne_true) (fun _ hp => by simp [Sample.primary] at hp)
    exact ⟨⟨rfl, rfl, rfl, rfl, rfl⟩, by simp, id, id⟩
  · simpa using h

/-- `eval_strict` feeds the serial reference time that `fl_ibt` vouches for, and clears it. -/
theorem OrderInv.evalStrict (h : OrderInv n up ss) :
  OrderInv n (evalStrict up).1 (ss ++ (evalStrict up).2)
  := by
  unfold GpsdJson.evalStrict
  split
  · dsimp only
    refine h.feed ?_ ⟨.strict, up.ibtStamp, up.ppsRecvt, up.ppsPrec⟩ h.stored.1
      (h.ibt (Bool.and_eq_true_iff.mp ‹_›).1) (fun hf => absurd hf Bool.false_ne_true)
      (fun _ hp => by simp [Sample.primary] at hp)
    exact ⟨⟨rfl, rfl, rfl, rfl, rfl⟩, by simp, by simp, id⟩
  · simpa using h

/-- `eval_pps_secondary` feeds the pulse that `fl_pps2` vouches for, and clears it. -/
theorem OrderInv.evalPpsSecondary (h : OrderInv n up ss) :
  OrderInv n (evalPpsSecondary up).1 (ss ++ (evalPpsSecondary up).2)
  := by
  unfold GpsdJson.evalPpsSecondary
  split
  · dsimp only
    refine h.feed ?_ ⟨.ppsSecondary, up.ppsStamp2, up.ppsRecvt2, up.ppsPrec⟩ h.stored.2
      (h.pps2 ‹_›) (fun _ hp => by simp [Sample.primary] at hp)
      (fun hf => absurd hf Bool.false_ne_true)
    exact ⟨⟨rfl, rfl, rfl, rfl, rfl⟩, id, id, by simp⟩
  · simpa using h

theorem OrderInv.evalMode (h : OrderInv n up ss) :
  OrderInv n (evalMode up).1 (ss ++ (evalMode up).2)
  := by
  unfold GpsdJson.evalMode GpsdJson.evalAuto
  split
  · exact h.evalStrict
  · split
    · simpa using h
    · have h' := h.frame (ppsCredit_frame up)
      dsimp only
      split
      · exact h'.evalSerial
      · exact h'.evalStrict
  · exact h.evalSerial

/-- The evaluation after a processed record keeps the invariant. -/
theorem OrderInv.gpsdEvaluate (h : OrderInv n up ss) :
  OrderInv n (gpsdEvaluate up).1 (ss ++ (gpsdEvaluate up).2)
  := by
  have h1 : Frame up { up with tcRecv := up.tcRecv + 1 } := ⟨⟨rfl, rfl, rfl, rfl, rfl⟩, id, id, id⟩
  have h2 : OrderInv n (feedSecondary { up with tcRecv := up.tcRecv + 1 }).1
      (ss ++ (feedSecondary { up with tcRecv := up.tcRecv + 1 }).2) := by
    unfold GpsdJson.feedSecondary
    split
    · exact (h.frame h1).evalPpsSecondary
    · simpa using h.frame h1
  simpa only [GpsdJson.gpsdEvaluate, List.append_assoc]
    using (h2.frame (dropStale_frame _)).evalMode

/-- Every event keeps the invariant. -/
theorem OrderInv.step {i : Nat} (h : OrderInv i up ss) (E : Ext) (e : Event) :
  OrderInv (i + 1) (e.step E up i).1 (ss ++ (e.step E up i).2)
  := by
  have quiet : ∀ {u}, Frame up u → OrderInv (i + 1) u (ss ++ []) := fun hf => by
    simpa using h.writes (hf.writes i)
  cases e with
  | record rec rtime clkFlag2 =>
    simp only [Event.step, gpsdParseRecord]
    split
    · exact quiet ⟨⟨rfl, rfl, rfl, rfl, rfl⟩, id, id, id⟩
    · split
      · exact quiet ⟨⟨rfl, rfl, rfl, rfl, rfl⟩, id, id, id⟩
      · split
        · exact quiet (Frame.refl up)
        · exact (h.writes (processRecord_writes ‹_›)).gpsdEvaluate
  | control peer cfgMode fudge1 fudge2 => exact quiet (gpsdControl_frame _ _ _ _ _)
  | stopSocket => exact quiet (stopSocketUnit_frame _)
  | start unit peer cfgMode => exact quiet (startOpmode_frame _ _ _ _)

end Steps

/-- No peer is fed a reference time older than one it was fed before: along every run of
events, from a unit whose stored reference times were read before the run, the records that
the reference times of each peer's samples (`b = true` for the primary peer, `b = false` for
the secondary one) were read from increase strictly. -/
theorem run_samples_in_order (E : Ext) (up : GpsdUnit) (i : Nat) (es : List Event)
    (hibt : up.ibtStamp.src < i) (hpps2 : up.ppsStamp2.src < i) (b : Bool) :
  InOrder ((run E up i es).2.filter fun s => s.primary == b)
  := by
  have h := run_invariant E OrderInv (fun _ => True) (fun _ _ _ e _ h => h.step E e) es
    (fun _ _ => trivial) i up [] (OrderInv.init hibt hpps2)
  simpa using h.sorted b

/-- A fresh unit, whose stamps are those of record `0`, started in `IBT` mode and fed two
`TPV` records with a fix, with the run numbered from `1`: their samples come in the order of
the records. -/
theorem run_samples_in_order_fresh :
  let E : Ext := ⟨fun _ => some (0, 0), fun _ => 0⟩
  GpsdUnit.zero.ibtStamp.src < 1 ∧ GpsdUnit.zero.ppsStamp2.src < 1 ∧
    ((run E GpsdUnit.zero 1 [.start 0 0 0, .record (some tpvFix) (2 ^ 32) false,
        .record (some tpvFix) (2 ^ 33) false]).2.map fun s => s.stamp.src) = [2, 3] ∧
    InOrder ((run E GpsdUnit.zero 1 [.start 0 0 0, .record (some tpvFix) (2 ^ 32) false,
        .record (some tpvFix) (2 ^ 33) false]).2.filter fun s => s.primary == true)
  := ⟨by decide, by decide, by decide,
    run_samples_in_order _ GpsdUnit.zero 1 _ (by decide) (by decide) true⟩

/-! ### Precision -/

/-- A precision in the range `clamped_precision` gives, from `-32` to `0`, which an
`int8_t` holds. -/
def PrecRange (p : Int) : Prop :=
  -32 ≤ p ∧ p ≤ 0

instance (p : Int) : Decidable (PrecRange p) :=
  inferInstanceAs (Decidable (_ ∧ _))

theorem clampedPrecision_range (r : Int) :
  PrecRange (clampedPrecision r)
  := by
  unfold PrecRange clampedPrecision
  dsimp only
  split <;> split <;> omega

/-- The precisions the unit stores for its serial times and its pulses are in range. -/
def PrecInv (up : GpsdUnit) : Prop :=
  PrecRange up.ibtPrec ∧ PrecRange up.ppsPrec

instance (up : GpsdUnit) : Decidable (PrecInv up) :=
  inferInstanceAs (Decidable (_ ∧ _))

section Precision

variable {up : GpsdUnit}

theorem PrecInv.processRecord {E : Ext} {jctx : JsonCtx} {clsid : List UInt8} {rtime : Stamped}
    {f : Bool} {up' : GpsdUnit} (h : PrecInv up)
    (hp : processRecord E up jctx clsid rtime f = some up') :
  PrecInv up'
  := by
  rcases processRecord_cases hp with ⟨-, rfl⟩ | ⟨-, rfl⟩ | ⟨-, rfl⟩ | ⟨-, rfl⟩ | ⟨-, rfl⟩
  · rw [processTpv]
    dsimp only
    by_cases hfix : toCInt (jsonObjectLookupIntDefault jctx 0 (cbytes "mode") 0) < 2 ∨
        jsonObjectLookupString jctx 0 (cbytes "time") = none
    · rw [if_pos hfix]
      exact h
    rw [if_neg hfix]
    refine ⟨clampedPrecision_range _, ?_⟩
    by_cases ht : up.pfToff = true
    · rw [if_pos ht]
      exact h.2
    rw [if_neg ht]
    cases convertAsciiTime E ((jsonObjectLookupString jctx 0 (cbytes "time")).getD []) <;>
      exact h.2
  · unfold processPps
    dsimp only
    split
    · exact h
    · split
      · exact h
      · split
        · exact h
        · exact ⟨h.1, clampedPrecision_range _⟩
  · unfold processToff
    dsimp only
    split
    · exact h
    · split
      · exact h
      · split <;> exact h
  · unfold processVersion
    dsimp only
    split <;> exact h
  · unfold processWatch
    split
    · exact h
    · split <;> exact h

/-- Every evaluation feeds its samples the stored precisions, and changes none. -/
theorem PrecInv.gpsdEvaluate (h : PrecInv up) :
  PrecInv (gpsdEvaluate up).1 ∧ ∀ s ∈ (gpsdEvaluate up).2, PrecRange s.prec
  := by
  have none : ∀ s ∈ ([] : List Sample), PrecRange s.prec := fun _ h => absurd h (List.not_mem_nil _)
  have hs : ∀ u, PrecInv u → PrecInv (evalSerial u).1 ∧ ∀ s ∈ (evalSerial u).2, PrecRange s.prec :=
    fun u h => by
      unfold evalSerial
      split
      · exact ⟨h, List.forall_mem_singleton.2 h.1⟩
      · exact ⟨h, none⟩
  have ht : ∀ u, PrecInv u → PrecInv (evalStrict u).1 ∧ ∀ s ∈ (evalStrict u).2, PrecRange s.prec :=
    fun u h => by
      unfold evalStrict
      split
      · exact ⟨h, List.forall_mem_singleton.2 h.2⟩
      · exact ⟨h, none⟩
  have hm : ∀ u, PrecInv u → PrecInv (evalMode u).1 ∧ ∀ s ∈ (evalMode u).2, PrecRange s.prec :=
    fun u h => by
      have hc : PrecInv (ppsCredit u) := by
        unfold ppsCredit
        split <;> exact h
      unfold evalMode evalAuto
      split
      · exact ht u h
      · split
        · exact ⟨h, none⟩
        · dsimp only
          split
          · exact hs _ hc
          · exact ht _ hc
      · exact hs u h
  have hf : ∀ u, PrecInv u → PrecInv (feedSecondary u).1 ∧
      ∀ s ∈ (feedSecondary u).2, PrecRange s.prec := fun u h => by
    unfold feedSecondary evalPpsSecondary
    split
    · split
      · exact ⟨h, List.forall_mem_singleton.2 h.2⟩
      · exact ⟨h, none⟩
    · exact ⟨h, none⟩
  have hd : ∀ u, PrecInv u → PrecInv (dropStale u) := fun u h => by
    rcases dropStale_cases u with h' | h' | h' <;> rw [h'] <;> exact h
  obtain ⟨h1, h1s⟩ := hf _ (show PrecInv { up with tcRecv := up.tcRecv + 1 } from h)
  obtain ⟨he, hes⟩ := hm _ (hd _ h1)
  exact ⟨he, fun s hs => (List.mem_append.1 hs).elim (h1s s) (hes s)⟩

theorem PrecInv.step (h : PrecInv up) (E : Ext) (i : Nat) (e : Event) :
  PrecInv (e.step E up i).1 ∧ ∀ s ∈ (e.step E up i).2, PrecRange s.prec
  := by
  have quiet : ∀ {u : GpsdUnit}, PrecInv u → PrecInv u ∧ ∀ s ∈ ([] : List Sample), PrecRange s.prec :=
    fun hu => ⟨hu, fun _ h => absurd h (List.not_mem_nil _)⟩
  cases e with
  | record rec rtime clkFlag2 =>
    simp only [Event.step, gpsdParseRecord]
    split
    · exact quiet h
    · split
      · exact quiet h
      · split
        · exact quiet h
        · exact (h.processRecord ‹_›).gpsdEvaluate
  | control peer cfgMode fudge1 fudge2 =>
    refine quiet ?_
    show PrecInv (gpsdControl up peer cfgMode fudge1 fudge2)
    unfold gpsdControl
    split
    · exact h
    · dsimp only
      split
      · rw [enterOpmode_eq, leaveOpmode_eq]
        exact h
      · exact h
  | stopSocket => exact quiet h
  | start unit peer cfgMode =>
    refine quiet ?_
    show PrecInv (startOpmode up unit peer cfgMode)
    unfold startOpmode
    dsimp only
    split
    · exact h
    · rw [enterOpmode_eq]
      exact h

end Precision

/-- Every precision the driver gives a peer with a sample (`peer->precision`, set from
`ibt_prec` or `pps_prec` through an `int8_t` cast) lies between `-32` and `0`, so the cast
loses nothing: along every run of events, from a unit whose stored precisions lie there. -/
theorem run_prec_range (E : Ext) (up : GpsdUnit) (i : Nat) (es : List Event) (h : PrecInv up) :
  ∀ s ∈ (run E up i es).2, PrecRange s.prec
  := by
  have := run_invariant E (fun _ u ss => PrecInv u ∧ ∀ s ∈ ss, PrecRange s.prec) (fun _ => True)
    (fun i u ss e _ hu => ⟨(hu.1.step E i e).1, fun s hs => (List.mem_append.1 hs).elim
      (hu.2 s) ((hu.1.step E i e).2 s)⟩) es (fun _ _ => trivial) i up []
    ⟨h, fun _ h => absurd h (List.not_mem_nil _)⟩
  simpa using this.2

/-- A fresh unit holds precision `0` for both kinds of time; a `TPV` record whose `ept`
gives `2 ^ -40` feeds a sample of precision `-32`, where `clamped_precision` stops. -/
theorem run_prec_range_fresh :
  let E : Ext := ⟨fun _ => some (0, 0), fun _ => -40⟩
  PrecInv GpsdUnit.zero ∧
    ((run E GpsdUnit.zero 1 [.start 0 0 0, .record (some tpvFix) (2 ^ 32) false]).2.map
      fun s => s.prec) = [-32] ∧
    ∀ s ∈ (run E GpsdUnit.zero 1 [.start 0 0 0, .record (some tpvFix) (2 ^ 32) false]).2,
      PrecRange s.prec
  := by
  intro E
  have h : PrecInv GpsdUnit.zero := by decide
  exact ⟨h, by decide, run_prec_range E GpsdUnit.zero 1 _ h⟩

end GpsdJson
