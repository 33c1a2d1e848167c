import GpsdJson.Json.Record

/-!
# Integer members

`strtojint` converts an optionally signed run of decimal digits, saturating at the limits
of a `long` of `w` bits and reporting through `errno` like `strtol`.  `json_object_lookup_int`
applies it to the text of a primitive member and accepts the result only when the whole
text was consumed, and `get_binary_time` reads a seconds and a fraction member that way and
trusts `errno` to tell whether both were integers.

`errno` is passed in and returned explicitly.  ntpd's targets have a 64-bit `long`.
-/

namespace GpsdJson

/-- The width of `long` on ntpd's (LP64) targets. -/
def longBits : Nat := 64

/-! ### `strtojint` -/

/-- The digit loop of `strtojint` on the text `s`: the accumulator is a `json_uint` of `w`
bits, `ovf` is bit 0 of `flags`, and `n` counts the digits consumed. -/
def strtojintDigits (w limitLo limitHi : Nat) : List UInt8 → Nat → Bool → Nat → Nat × Bool × Nat
  | [], accu, ovf, n => (accu, ovf, n)
  | ch :: s, accu, ovf, n =>
    if isDigit ch then
      let ovf := ovf || decide (accu > limitLo)
      let accu := (accu * 10 + (ch - 0x30).toNat) % 2 ^ w
      strtojintDigits w limitLo limitHi s accu (ovf || decide (accu > limitHi)) (n + 1)
    else (accu, ovf, n)

/-- The value of a run of decimal digits. -/
def digitsValue (ds : List UInt8) : Nat :=
  ds.foldl (fun v d => v * 10 + (d - 0x30).toNat) 0

/-- `strtojint(cp, &ep)` for a `long` of `w` bits: the value, the offset of `ep` in `cp`,
and `errno` afterwards. -/
def strtojint (w : Nat) (cp : List UInt8) (errno : Nat) : Int × Nat × Nat :=
  let (neg, sgn) : Bool × Nat := match cp with
    | 0x2D :: _ => (true, 1)
    | 0x2B :: _ => (false, 1)
    | _ => (false, 0)
  let limitHi := if neg then 2 ^ (w - 1) else 2 ^ (w - 1) - 1
  let (accu, ovf, n) := strtojintDigits w (limitHi / 10) limitHi (cp.drop sgn) 0 false 0
  let (ep, errno) := if n ≠ 0 then (sgn + n, errno) else (0, einval)
  let (accu, errno) := if ovf then (limitHi, erange) else (accu, errno)
  (if neg ∧ accu ≠ 0 then -((accu - 1 : Nat) : Int) - 1 else accu, ep, errno)

/-- The sign flag and the accumulator of `strtojint` at its `return`, after the range
check has replaced an overflowed accumulator by `limit_hi`. -/
def strtojintAccu (w : Nat) (cp : List UInt8) : Bool × Nat :=
  let (neg, sgn) : Bool × Nat := match cp with
    | 0x2D :: _ => (true, 1)
    | 0x2B :: _ => (false, 1)
    | _ => (false, 0)
  let limitHi := if neg then 2 ^ (w - 1) else 2 ^ (w - 1) - 1
  let (accu, ovf, _) := strtojintDigits w (limitHi / 10) limitHi (cp.drop sgn) 0 false 0
  (neg, if ovf then limitHi else accu)

/-- The values of the signed operations of `strtojint` on `cp`, in order: for a `-`,
`JSON_INT_MIN + 1` and its negation in `limit_hi`; at the `return`, the conversion of the
accumulator to `json_int`, and for a negative result the negation and the decrement. -/
def strtojintSignedOps (w : Nat) (cp : List UInt8) : List Int :=
  let (neg, accu) := strtojintAccu w cp
  let jsonIntMin : Int := -2 ^ (w - 1)
  (if neg then [jsonIntMin + 1, -(jsonIntMin + 1)] else []) ++
    if neg ∧ accu ≠ 0 then
      [((accu - 1 : Nat) : Int), -((accu - 1 : Nat) : Int), -((accu - 1 : Nat) : Int) - 1]
    else [(accu : Int)]

/-- The reference for `strtojint` on `s`, after the contract of the conversion: `s` is an
optional sign `σ`, the maximal run `D` of decimal digits after it, and a rest.  Without
digits it returns `0`, leaves `ep` at `s` and sets `EINVAL`.  Otherwise `ep` is just past
`D`, and with `v` the value of `D` it returns `σ v` when a `long` of `w` bits holds it, and
`LONG_MAX` or `LONG_MIN` by the sign with `ERANGE` when not. -/
def strtojintRef (w : Nat) (s : List UInt8) (errno : Nat) : Int × Nat × Nat :=
  let (σ, sgn) : Int × Nat := match s with
    | 0x2D :: _ => (-1, 1)
    | 0x2B :: _ => (1, 1)
    | _ => (1, 0)
  let D := (s.drop sgn).takeWhile isDigit
  let v := σ * digitsValue D
  if D = [] then (0, 0, einval)
  else if -2 ^ (w - 1) ≤ v ∧ v ≤ 2 ^ (w - 1) - 1 then (v, sgn + D.length, errno)
  else (if σ < 0 then -2 ^ (w - 1) else 2 ^ (w - 1) - 1, sgn + D.length, erange)

theorem digit_toNat_lt {ch : UInt8} (h : isDigit ch = true) :
  (ch - 0x30).toNat < 10
  := by
  simp only [isDigit, Bool.and_eq_true, decide_eq_true_eq] at h
  rw [UInt8.toNat_sub_of_le _ _ h.1]
  simp only [UInt8.le_def, BitVec.le_def] at h
  change ch.toBitVec.toNat - 48 < 10
  simp at h
  omega

/-- What the digit loop keeps, `V` being the value of the digits read: without the overflow
bit the accumulator is `V`, at most `limit_hi`; with it, `V` exceeds `limit_hi`. -/
def DigitsInv (limitHi V accu : Nat) (ovf : Bool) : Prop :=
  if ovf then limitHi < V else accu = V ∧ V ≤ limitHi

/-- One digit `d` keeps the invariant, as long as an accumulator up to `limit_hi / 10` takes
a digit without wrapping. -/
theorem DigitsInv.step {w L V accu d : Nat} {ovf : Bool} (hw : L / 10 * 10 + 9 < 2 ^ w)
    (h : DigitsInv L V accu ovf) (hd : d < 10) :
  DigitsInv L (V * 10 + d) ((accu * 10 + d) % 2 ^ w)
    (ovf || decide (accu > L / 10) || decide ((accu * 10 + d) % 2 ^ w > L))
  := by
  cases ovf with
  | true =>
    simp only [DigitsInv, if_pos, Bool.true_or] at h ⊢
    omega
  | false =>
    obtain ⟨rfl, hV⟩ := h
    by_cases hlo : accu > L / 10
    · simp only [DigitsInv, hlo, decide_True, Bool.false_or, Bool.true_or, if_true]
      omega
    · rw [Nat.mod_eq_of_lt (by omega)]
      by_cases hhi : accu * 10 + d > L
      · simp [DigitsInv, hhi]
      · simp only [DigitsInv, hlo, hhi, decide_False, Bool.or_false, Bool.false_eq_true, if_false,
          true_and]
        omega

/-- The digit loop reads the run `ds` of digits and stops at `r`, which does not start with
a digit. -/
theorem strtojintDigits_run {w L : Nat} (hw : L / 10 * 10 + 9 < 2 ^ w) {r : List UInt8}
    (hr : ∀ c ∈ r.head?, isDigit c = false) (ds : List UInt8) (hds : ∀ d ∈ ds, isDigit d = true)
    (V accu : Nat) (ovf : Bool) (n : Nat) (h : DigitsInv L V accu ovf) :
  ∃ accu' ovf', strtojintDigits w (L / 10) L (ds ++ r) accu ovf n = (accu', ovf', n + ds.length) ∧
    DigitsInv L (ds.foldl (fun v d => v * 10 + (d - 0x30).toNat) V) accu' ovf'
  := by
  induction ds generalizing V accu ovf n with
  | nil =>
    refine ⟨accu, ovf, ?_, h⟩
    cases r with
    | nil => rfl
    | cons c r => simp [strtojintDigits, hr c rfl]
  | cons d ds ih =>
    have hd := hds d (List.mem_cons_self _ _)
    obtain ⟨accu', ovf', heq, h'⟩ := ih (fun x hx => hds x (List.mem_cons_of_mem _ hx)) _ _ _
      (n + 1) (h.step hw (digit_toNat_lt hd))
    refine ⟨accu', ovf', ?_, h'⟩
    rw [List.cons_append, strtojintDigits, if_pos hd, heq]
    simp only [List.length_cons]
    congr 2
    omega

/-- From the start, the digit loop reads the maximal run of digits of `body`. -/
theorem strtojintDigits_value {w L : Nat} (hw : L / 10 * 10 + 9 < 2 ^ w) (body : List UInt8) :
  ∃ accu ovf, strtojintDigits w (L / 10) L body 0 false 0
      = (accu, ovf, (body.takeWhile isDigit).length) ∧
    DigitsInv L (digitsValue (body.takeWhile isDigit)) accu ovf
  := by
  have hr : ∀ c ∈ (body.dropWhile isDigit).head?, isDigit c = false := fun c hc => by
    have := List.head?_dropWhile_not isDigit body
    rw [Option.mem_def.mp hc] at this
    exact this
  have := strtojintDigits_run hw hr (body.takeWhile isDigit) (fun _ => List.mem_takeWhile_imp)
    0 0 false 0 (by simp [DigitsInv])
  rwa [List.takeWhile_append_dropWhile, Nat.zero_add] at this

/-- From 4 bits on, both limits leave room for one more digit below `2 ^ w`. -/
theorem limitHi_fits {w : Nat} (hw : 4 ≤ w) (neg : Bool) :
  8 ≤ 2 ^ (w - 1) ∧ 2 ^ w = 2 * 2 ^ (w - 1) ∧
    (if neg then 2 ^ (w - 1) else 2 ^ (w - 1) - 1) / 10 * 10 + 9 < 2 ^ w
  := by
  have hP : 8 ≤ 2 ^ (w - 1) :=
    calc 8 = 2 ^ 3 := rfl
      _ ≤ 2 ^ (w - 1) := Nat.pow_le_pow_right (by decide) (by omega)
  have h2 : 2 ^ w = 2 * 2 ^ (w - 1) := by
    rw [← Nat.pow_succ']
    congr 1
    omega
  exact ⟨hP, h2, by split <;> omega⟩

theorem strtojint_eq_strtojintRef {w : Nat} (hw : 4 ≤ w) (s : List UInt8) (errno : Nat) :
  strtojint w s errno = strtojintRef w s errno
  := by
  unfold strtojint strtojintRef
  split
  rename_i neg sgn hsign
  have hσ : (match s with | 0x2D :: _ => ((-1 : Int), 1) | 0x2B :: _ => (1, 1) | _ => (1, 0))
      = (if neg then -1 else 1, sgn) := by
    revert hsign
    split <;> intro h <;> cases h <;> rfl
  rw [hσ]
  obtain ⟨hP, h2, hfit⟩ := limitHi_fits hw neg
  obtain ⟨accu, ovf, hrun, hinv⟩ := strtojintDigits_value hfit (s.drop sgn)
  simp only [hrun]
  clear hrun hσ hsign
  generalize List.takeWhile isDigit (List.drop sgn s) = D at *
  have hv0 : D = [] → digitsValue D = 0 := by rintro rfl; rfl
  have hlen : D.length = 0 ↔ D = [] := List.length_eq_zero
  generalize digitsValue D = v at *
  rw [show (2 : Int) ^ (w - 1) = ((2 ^ (w - 1) : Nat) : Int) by push_cast; rfl]
  generalize 2 ^ (w - 1) = P at *
  by_cases hD : D = []
  · obtain rfl := hv0 hD
    subst hD
    cases ovf <;> simp only [DigitsInv, if_true, if_false, Bool.false_eq_true] at hinv
    · obtain ⟨rfl, -⟩ := hinv
      cases neg <;> rfl
    · omega
  · rw [if_pos (fun h => hD (hlen.mp h)), if_neg hD]
    cases neg <;> cases ovf <;>
      simp only [DigitsInv, if_true, if_false, Bool.false_eq_true, false_and, true_and, one_mul,
        neg_one_mul] at hinv ⊢ <;>
      split_ifs <;> simp only [Prod.mk.injEq, true_and, and_true] <;> omega

/-- The accumulator `strtojint` hands to its signed `return` is at most `limit_hi`. -/
theorem strtojintAccu_le {w : Nat} (hw : 4 ≤ w) (cp : List UInt8) :
  (strtojintAccu w cp).2 ≤ if (strtojintAccu w cp).1 then 2 ^ (w - 1) else 2 ^ (w - 1) - 1
  := by
  unfold strtojintAccu
  split
  rename_i neg sgn _
  obtain ⟨accu, ovf, hrun, hinv⟩ := strtojintDigits_value (limitHi_fits hw neg).2.2 (cp.drop sgn)
  simp only [hrun]
  cases neg <;> cases ovf <;> simp only [DigitsInv, if_true, if_false, Bool.false_eq_true] at hinv ⊢
    <;> omega

theorem strtojintSignedOps_range {w : Nat} (hw : 4 ≤ w) (cp : List UInt8) :
  ∀ x ∈ strtojintSignedOps w cp, -2 ^ (w - 1) ≤ x ∧ x ≤ 2 ^ (w - 1) - 1
  := by
  have hle := strtojintAccu_le hw cp
  have hP := (limitHi_fits hw false).1
  unfold strtojintSignedOps
  generalize strtojintAccu w cp = p at hle
  obtain ⟨neg, accu⟩ := p
  rw [show (2 : Int) ^ (w - 1) = ((2 ^ (w - 1) : Nat) : Int) by push_cast; rfl]
  generalize 2 ^ (w - 1) = P at *
  intro x hx
  cases neg <;> simp only [if_true, if_false, Bool.false_eq_true, List.nil_append, true_and,
    false_and, List.mem_append, List.mem_cons, List.mem_singleton] at hle hx
  all_goals (try split_ifs at hx) <;> simp at hx <;> omega

/-- The last signed operation of `strtojint` gives the value it returns. -/
theorem strtojintSignedOps_getLast (w : Nat) (cp : List UInt8) (errno : Nat) :
  (strtojintSignedOps w cp).getLast? = some (strtojint w cp errno).1
  := by
  have hret : (strtojint w cp errno).1 = if (strtojintAccu w cp).1 ∧ (strtojintAccu w cp).2 ≠ 0
      then -(((strtojintAccu w cp).2 - 1 : Nat) : Int) - 1 else ((strtojintAccu w cp).2 : Int) := by
    unfold strtojint strtojintAccu
    split
    rename_i neg sgn _
    dsimp only
    generalize strtojintDigits w _ _ (List.drop sgn cp) 0 false 0 = r
    obtain ⟨accu, ovf, n⟩ := r
    cases ovf <;> rfl
  rw [hret]
  unfold strtojintSignedOps
  generalize strtojintAccu w cp = p
  obtain ⟨neg, accu⟩ := p
  dsimp only
  split_ifs <;> simp

/-- For a `long` of any width from 4 bits on (every `long` has at least 32), `strtojint`
meets its contract `strtojintRef` on every text, and none of its signed operations leaves
the range of a `long`. -/
theorem strtojint_eq_ref (w : Nat) (hw : 4 ≤ w) (s : List UInt8) (errno : Nat) :
  strtojint w s errno = strtojintRef w s errno ∧
    ∀ x ∈ strtojintSignedOps w s, -2 ^ (w - 1) ≤ x ∧ x ≤ 2 ^ (w - 1) - 1
  := ⟨strtojint_eq_strtojintRef hw s errno, strtojintSignedOps_range hw s⟩

/-- `LONG_MIN` itself, on a 64-bit `long`. -/
theorem strtojint_eq_ref_long_min :
  4 ≤ 64 ∧ (strtojint 64 (cbytes "-9223372036854775808") 0
      = strtojintRef 64 (cbytes "-9223372036854775808") 0 ∧
    ∀ x ∈ strtojintSignedOps 64 (cbytes "-9223372036854775808"),
      -2 ^ (64 - 1) ≤ x ∧ x ≤ 2 ^ (64 - 1) - 1)
  := ⟨by decide, strtojint_eq_ref 64 (by decide) _ _⟩

example : strtojint 64 (cbytes "-9223372036854775809x") 0 = (-2 ^ 63, 20, erange) := by decide

/-! ### Integer lookups -/

/-- `json_object_lookup_int`: the value and `errno` afterwards. -/
def jsonObjectLookupInt (ctx : JsonCtx) (tid : Int) (key : List UInt8) (errno : Nat) :
    Int × Nat :=
  match jsonObjectLookupPrimitive ctx tid key with
  | some cp =>
    let (ret, ep, errno) := strtojint longBits cp errno
    if ep ≠ 0 ∧ ep = cp.length then (ret, errno) else (0, errno)
  | none => (0, einval)

/-- `json_object_lookup_int_default`.  Its callers never read the `errno` it may leave:
every reader of `errno` clears it first. -/
def jsonObjectLookupIntDefault (ctx : JsonCtx) (tid : Int) (key : List UInt8) (dflt : Int) :
    Int :=
  match jsonObjectLookupPrimitive ctx tid key with
  | some cp =>
    let (ret, ep, _) := strtojint longBits cp 0
    if ep ≠ 0 ∧ ep = cp.length then ret else dflt
  | none => dflt

/-- Modelled from the spec: libntp's `tspec_intv_to_lfp`, whose header is not among the
driver's sources.  The spec's timestamp is fixed point: the nanoseconds, normalised into
`[0, 10^9)` with the carry moved into the seconds, become a 32-bit binary fraction, and the
result wraps like an `l_fp`.  The fraction is rounded down here, where libntp rounds it to
the nearest, so it can lie one unit (`2^-32` s) below libntp's. -/
def tspecIntvToLfp (sec nsec : Int) : LFp :=
  let s := sec + nsec / 1000000000
  let n := nsec % 1000000000
  UInt64.ofNat ((s * 2 ^ 32 + n * 2 ^ 32 / 1000000000) % 2 ^ 64).toNat

/-- Modelled from the spec: libntp's `tspec_stamp_to_lfp`, `tspec_intv_to_lfp` with the
seconds moved from the Unix to the NTP epoch (`JAN_1970`). -/
def tspecStampToLfp (sec nsec : Int) : LFp :=
  tspecIntvToLfp (sec + 2208988800) nsec

/-- `get_binary_time`: the time stamp of the members `timeName` (seconds) and `fracName`
(the fraction, in units of `fscale` nanoseconds), or `none` when `errno` is set after
reading them. -/
def getBinaryTime (jctx : JsonCtx) (timeName fracName : List UInt8) (fscale : Int) :
    Option LFp :=
  let (sec, errno) := jsonObjectLookupInt jctx 0 timeName 0
  let (nsec, errno) := jsonObjectLookupInt jctx 0 fracName errno
  if errno = 0 then some (tspecStampToLfp sec (nsec * fscale)) else none

/-! ### Texts that are not integers -/

/-- The integer that an optionally signed, non-empty run of decimal digits denotes, when it
lies in the range of a `long` of `w` bits. -/
def decimalValue (w : Nat) (s : List UInt8) : Option Int :=
  let (neg, ds) : Bool × List UInt8 := match s with
    | 0x2D :: ds => (true, ds)
    | 0x2B :: ds => (false, ds)
    | ds => (false, ds)
  let v : Int := ds.foldl (fun a d => 10 * a + (d - 0x30).toNat) 0
  let v := if neg then -v else v
  if ds ≠ [] ∧ ds.all isDigit ∧ -2 ^ (w - 1) ≤ v ∧ v ≤ 2 ^ (w - 1) - 1 then some v else none

/-- In the record `{"real_sec":1.5,"real_nsec":0}` the member `real_sec` is the number
`1.5`, which is no integer.  `strtojint` stops at the `.` without touching `errno`, so
`json_object_lookup_int` returns `0` and leaves `errno = 0`, and `get_binary_time` accepts
the pair as the time stamp of second `0`. -/
theorem jsonObjectLookupInt_fraction :
  ∃ ctx, jsonParseTokens (cbytes "\x7b\"real_sec\":1.5,\"real_nsec\":0\x7d") 5
      [⟨.object, 0, 30, 2⟩, ⟨.string, 2, 10, 1⟩, ⟨.primitive, 12, 15, 0⟩,
        ⟨.string, 17, 26, 1⟩, ⟨.primitive, 28, 29, 0⟩] = some ctx ∧
    jsonObjectLookupPrimitive ctx 0 (cbytes "real_sec") = some (cbytes "1.5") ∧
    decimalValue longBits (cbytes "1.5") = none ∧
    jsonObjectLookupInt ctx 0 (cbytes "real_sec") 0 = (0, 0) ∧
    getBinaryTime ctx (cbytes "real_sec") (cbytes "real_nsec") 1 = some (tspecStampToLfp 0 0)
  := ⟨_, rfl, by decide⟩

end GpsdJson
