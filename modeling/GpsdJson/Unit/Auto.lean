import GpsdJson.Unit.Fix

/-!
# The PPS credit of `AUTO` mode

In the operation mode `AUTO`, `eval_auto` keeps a credit `ppscount` for the PPS signal:
every serial time stamp it evaluates earns `PPS_INCCOUNT` when a pulse came with it and
loses `PPS_DECCOUNT` when none did, within `0 .. PPS_MAXCOUNT`.  The unit leaves raw serial
mode (`fl_rawibt`) only at full credit and enters it only at none, which, as the source
says, "reduces the chance of rapid alternation between raw and PPS-augmented time stamps".

* `gpsdParseRecord_credit`: a record changes the credit and the mode at most by one step of
  `eval_auto`'s account (`ppsCredit`).
* `run_rawibt_hysteresis`: along every run of records, from any unit, raw serial mode is
  left only after enough records to earn full credit from where the credit stood, and
  entered only after enough records to spend all of it: at least 20 records after raw
  serial mode was entered with no credit, and at least 60 after it was left with full
  credit.
-/

namespace GpsdJson

/-! ### One record -/

/-- `up'` has the PPS credit and the raw serial mode of `up`. -/
def SameCredit (up up' : GpsdUnit) : Prop :=
  up'.ppscount = up.ppscount ∧ up'.flRawibt = up.flRawibt

theorem SameCredit.trans {up up' up'' : GpsdUnit} (h : SameCredit up up')
    (h' : SameCredit up' up'') :
  SameCredit up up''
  := ⟨h'.1.trans h.1, h'.2.trans h.2⟩

/-- What a record can do to the credit and the mode: leave them, or take one step of
`eval_auto`'s account from them. -/
def CreditStep (up up' : GpsdUnit) : Prop :=
  SameCredit up up' ∨ ∃ u, SameCredit up u ∧ SameCredit (ppsCredit u) up'

theorem SameCredit.creditStep {up up' up'' : GpsdUnit} (h : SameCredit up up')
    (h' : CreditStep up' up'') :
  CreditStep up up''
  := by
  rcases h' with h' | ⟨u, hu, hu'⟩
  · exact .inl (h.trans h')
  · exact .inr ⟨u, h.trans hu, hu'⟩

/-- One step of the account keeps the credit in range, moves it by at most `PPS_INCCOUNT`
up and `PPS_DECCOUNT` down, leaves raw serial mode only at full credit, and enters it only
at none. -/
theorem ppsCredit_bounds {u : GpsdUnit} (hc : u.ppscount ≤ ppsMaxcount) :
  (ppsCredit u).ppscount ≤ ppsMaxcount ∧
    (ppsCredit u).ppscount ≤ u.ppscount + ppsInccount ∧
    u.ppscount ≤ (ppsCredit u).ppscount + ppsDeccount ∧
    (u.flRawibt = true → (ppsCredit u).flRawibt = false →
      (ppsCredit u).ppscount = ppsMaxcount) ∧
    (u.flRawibt = false → (ppsCredit u).flRawibt = true → (ppsCredit u).ppscount = 0)
  := by
  unfold ppsCredit
  split
  · dsimp only
    simp only [ppsMaxcount, ppsInccount, ppsDeccount] at hc ⊢
    refine ⟨Nat.min_le_left _ _, Nat.min_le_right _ _, by omega, fun hr hr' => ?_,
      fun hr => by simp [hr]⟩
    by_contra hne
    simp [hr, hne] at hr'
  · dsimp only
    simp only [ppsMaxcount, ppsInccount, ppsDeccount] at hc ⊢
    refine ⟨by omega, by omega, by omega, fun hr => by simp [hr], fun hr hr' => ?_⟩
    by_contra hne
    simp [hr, hne] at hr'

theorem CreditStep.bounds {up up' : GpsdUnit} (h : CreditStep up up')
    (hc : up.ppscount ≤ ppsMaxcount) :
  up'.ppscount ≤ ppsMaxcount ∧ up'.ppscount ≤ up.ppscount + ppsInccount ∧
    up.ppscount ≤ up'.ppscount + ppsDeccount ∧
    (up.flRawibt = true → up'.flRawibt = false → up'.ppscount = ppsMaxcount) ∧
    (up.flRawibt = false → up'.flRawibt = true → up'.ppscount = 0)
  := by
  rcases h with ⟨h1, h2⟩ | ⟨u, ⟨hu1, hu2⟩, ⟨h1, h2⟩⟩
  · rw [h1, h2]
    exact ⟨hc, by omega, by omega, fun hr hr' => absurd (hr.symm.trans hr') (by decide),
      fun hr hr' => absurd (hr.symm.trans hr') (by decide)⟩
  · rw [← hu1] at hc
    obtain ⟨b1, b2, b3, b4, b5⟩ := ppsCredit_bounds hc
    rw [← hu1, ← hu2, h1, h2]
    exact ⟨b1, b2, b3, b4, b5⟩

theorem evalMode_credit (up : GpsdUnit) :
  CreditStep up (evalMode up).1
  := by
  have hs : ∀ u, SameCredit u (evalSerial u).1 := fun u => by
    unfold evalSerial; split <;> exact ⟨rfl, rfl⟩
  have ht : ∀ u, SameCredit u (evalStrict u).1 := fun u => by
    unfold evalStrict; split <;> exact ⟨rfl, rfl⟩
  unfold evalMode evalAuto
  split
  · exact .inl (ht up)
  · split
    · exact .inl ⟨rfl, rfl⟩
    · dsimp only
      split
      · exact .inr ⟨up, ⟨rfl, rfl⟩, hs _⟩
      · exact .inr ⟨up, ⟨rfl, rfl⟩, ht _⟩
  · exact .inl (hs up)

theorem gpsdEvaluate_credit (up : GpsdUnit) :
  CreditStep up (gpsdEvaluate up).1
  := by
  have hf : SameCredit up (feedSecondary { up with tcRecv := up.tcRecv + 1 }).1 := by
    unfold feedSecondary evalPpsSecondary
    split <;> (try split) <;> exact ⟨rfl, rfl⟩
  have hd : ∀ u, SameCredit u (dropStale u) := fun u => by
    unfold dropStale
    split
    · dsimp only
      split
      · exact ⟨rfl, rfl⟩
      · split <;> exact ⟨rfl, rfl⟩
    · exact ⟨rfl, rfl⟩
  exact (hf.trans (hd _)).creditStep (evalMode_credit _)

/-- The `process_*` functions leave both PPS counters and the raw serial mode alone. -/
theorem processRecord_counters {E : Ext} {up up' : GpsdUnit} {jctx : JsonCtx}
    {clsid : List UInt8} {rtime : Stamped} {f : Bool}
    (h : processRecord E up jctx clsid rtime f = some up') :
  SameCredit up up' ∧ up'.ppscount2 = up.ppscount2
  := by
  rcases processRecord_cases h with ⟨-, rfl⟩ | ⟨-, rfl⟩ | ⟨-, rfl⟩ | ⟨-, rfl⟩ | ⟨-, rfl⟩
  · unfold processTpv; dsimp only
    split <;> (try split) <;> (try split) <;> exact ⟨⟨rfl, rfl⟩, rfl⟩
  · unfold processPps; dsimp only
    split <;> (try split) <;> (try split) <;> exact ⟨⟨rfl, rfl⟩, rfl⟩
  · unfold processToff; dsimp only
    split <;> (try split) <;> (try split) <;> exact ⟨⟨rfl, rfl⟩, rfl⟩
  · unfold processVersion; dsimp only
    split <;> exact ⟨⟨rfl, rfl⟩, rfl⟩
  · unfold processWatch
    split <;> (try split) <;> exact ⟨⟨rfl, rfl⟩, rfl⟩

/-- A record changes the PPS credit and the raw serial mode at most by one step of
`eval_auto`'s account. -/
theorem gpsdParseRecord_credit (E : Ext) (up : GpsdUnit) (rec : Option JsonCtx)
    (rtime : Stamped) (clkFlag2 : Bool) :
  CreditStep up (gpsdParseRecord E up rec rtime clkFlag2).1
  := by
  unfold gpsdParseRecord
  split
  · exact .inl ⟨rfl, rfl⟩
  · split
    · exact .inl ⟨rfl, rfl⟩
    · split
      · exact .inl ⟨rfl, rfl⟩
      · exact (processRecord_counters ‹_›).1.creditStep (gpsdEvaluate_credit _)

/-! ### Runs of records -/

/-- The credit and the mode after `k` records, from the credit `c` in raw serial mode `r`:
the credit is in range and no farther from `c` than `k` records move it, and the mode left
`r` only if `k` records could cover the distance to the end of the range where it flips. -/
structure Account (c : Nat) (r : Bool) (k : Nat) (up : GpsdUnit) : Prop where
  le_max : up.ppscount ≤ ppsMaxcount
  le_up : up.ppscount ≤ c + ppsInccount * k
  le_down : c ≤ up.ppscount + ppsDeccount * k
  left : r = true → up.flRawibt = false → ppsMaxcount ≤ c + ppsInccount * k
  entered : r = false → up.flRawibt = true → c ≤ ppsDeccount * k

theorem Account.init {up : GpsdUnit} (hc : up.ppscount ≤ ppsMaxcount) :
  Account up.ppscount up.flRawibt 0 up
  := ⟨hc, by simp, by simp, fun hr hr' => absurd (hr.symm.trans hr') (by decide),
    fun hr hr' => absurd (hr.symm.trans hr') (by decide)⟩

theorem Account.step {c : Nat} {r : Bool} {k : Nat} {up up' : GpsdUnit} (h : Account c r k up)
    (hs : CreditStep up up') :
  Account c r (k + 1) up'
  := by
  obtain ⟨b1, b2, b3, b4, b5⟩ := hs.bounds h.le_max
  obtain ⟨-, hu, hd, hl, he⟩ := h
  refine ⟨b1, ?_, ?_, fun hr hr' => ?_, fun hr hr' => ?_⟩
  all_goals simp only [ppsMaxcount, ppsInccount, ppsDeccount] at *
  · omega
  · omega
  · cases hf : up.flRawibt
    · have := hl hr hf; omega
    · have := b4 hf hr'; omega
  · cases hf : up.flRawibt
    · have := b5 hf hr'; omega
    · have := he hr hf; omega

theorem Account.run {c : Nat} {r : Bool} (E : Ext) {up : GpsdUnit} (i : Nat) (es : List Event)
    (hes : ∀ e ∈ es, e.isRecord) (h : Account c r 0 up) :
  Account c r es.length (run E up i es).1
  := by
  have hstep : ∀ j u (ss : List Sample) (e : Event), e.isRecord →
      (∃ k, j = i + k ∧ Account c r k u) → ∃ k, j + 1 = i + k ∧ Account c r k (e.step E u j).1 := by
    rintro j u - e he ⟨k, rfl, hacc⟩
    cases e with
    | record rec rtime clkFlag2 =>
      exact ⟨k + 1, rfl, hacc.step (gpsdParseRecord_credit E u rec _ clkFlag2)⟩
    | _ => cases he
  obtain ⟨k, hk, hacc⟩ := run_invariant E (fun j u _ => ∃ k, j = i + k ∧ Account c r k u)
    Event.isRecord hstep es hes i up [] ⟨0, rfl, h⟩
  rwa [show k = es.length by omega] at hacc

/-- Along every run of records, from a unit whose PPS credit is in range, raw serial mode
is left only if the records could earn full credit from the credit at the start, at
`PPS_INCCOUNT` a record, and entered only if they could spend all of it, at
`PPS_DECCOUNT` a record. -/
theorem run_rawibt_hysteresis (E : Ext) (up : GpsdUnit) (i : Nat) (es : List Event)
    (hes : ∀ e ∈ es, e.isRecord) (hc : up.ppscount ≤ ppsMaxcount) :
  (up.flRawibt = true → (run E up i es).1.flRawibt = false →
      ppsMaxcount ≤ up.ppscount + ppsInccount * es.length) ∧
    (up.flRawibt = false → (run E up i es).1.flRawibt = true →
      up.ppscount ≤ ppsDeccount * es.length)
  := have h := Account.run E i es hes (Account.init hc)
  ⟨h.left, h.entered⟩

/-- In `AUTO` mode with raw serial time and no credit, two `TPV` records with a fix feed two
serial samples and leave the mode as it is. -/
theorem run_rawibt_hysteresis_two_lines :
  ((∀ e ∈ [Event.record (some tpvFix) (2 ^ 32) false, .record (some tpvFix) (2 ^ 33) false],
      e.isRecord) ∧ GpsdUnit.zero.ppscount ≤ ppsMaxcount) ∧
    (run ⟨fun _ => some (0, 0), fun _ => 0⟩ { GpsdUnit.zero with mode := 2, flRawibt := true } 0
        [.record (some tpvFix) (2 ^ 32) false, .record (some tpvFix) (2 ^ 33) false]).2.length
      = 2 ∧
    ({ GpsdUnit.zero with mode := 2, flRawibt := true }.flRawibt = true →
      (run ⟨fun _ => some (0, 0), fun _ => 0⟩ { GpsdUnit.zero with mode := 2, flRawibt := true }
        0 [.record (some tpvFix) (2 ^ 32) false,
          .record (some tpvFix) (2 ^ 33) false]).1.flRawibt = false →
      ppsMaxcount ≤ GpsdUnit.zero.ppscount + ppsInccount * 2)
  := ⟨⟨by simp [Event.isRecord], by decide⟩, by decide,
    (run_rawibt_hysteresis _ { GpsdUnit.zero with mode := 2, flRawibt := true } 0 _
      (by simp [Event.isRecord]) (by decide)).1⟩

end GpsdJson
