import GpsdJson.Basic

/-!
# Dumping a raw buffer

`log_data`, compiled with `DEBUG` and run at `debug > 1`, escapes a raw buffer into the
stack array `s_lbuf` of `MAX_PDU_LEN` chars and prints it: a backslash is doubled, a
printable byte kept, and any other byte written as a backslash and its `%#.2x` rendering
by `snprintf`, given the room left before `dtop`, ten bytes short of the end.

* `PduBuf` is the array, whatever the stack held before; `storeByte` fails outside it and
  `cString` fails when no NUL stops the read inside it.
* `escape` is what the dump is for: the escape of every byte of the buffer, one after the
  other.
* `logData_safe`: for every buffer, every former content of the array and every `isprint`,
  no store leaves the array, the trailing NUL included, and the printed text is a prefix of
  `escape`, also when `snprintf` truncates the last escape and returns more than it wrote.
* `logData_fits`: when the escaping fits before `dtop`, the printed text is all of it.
* `unescape` reads a dump back, one byte after the other (`readByte`);
  `logData_unescape`: when the escaping fits, the printed text reads back to the buffer, so
  the dump loses nothing and is unambiguous, whatever `isprint` says.
-/

namespace GpsdJson

/-! ### The array and its stores -/

/-- `char s_lbuf[MAX_PDU_LEN]`: its bytes, whatever the stack held before. -/
structure PduBuf where
  bytes : List UInt8
  length_eq : bytes.length = maxPduLen

/-- `*dptr = b` at offset `off` of `s_lbuf`; `none` for a store outside the array. -/
def storeByte (m : PduBuf) (off : Nat) (b : UInt8) : Option PduBuf :=
  if off < maxPduLen then some ⟨m.bytes.set off b, by rw [List.length_set, m.length_eq]⟩
  else none

/-- The stores of `bs` at the offsets from `off` on. -/
def storeBytes (m : PduBuf) (off : Nat) : List UInt8 → Option PduBuf
  | [] => some m
  | b :: bs => (storeByte m off b).bind fun m => storeBytes m (off + 1) bs

/-- `snprintf(dst, size, ...)` of the text `s`: it stores at most `size - 1` bytes of `s`
and a NUL, and returns the length of the whole of `s`. -/
def snprintf (m : PduBuf) (dst size : Nat) (s : List UInt8) : Option PduBuf × Nat :=
  (if size = 0 then some m else storeBytes m dst (s.take (size - 1) ++ [0]), s.length)

/-- The `%s` of `printf` on `s_lbuf`: the bytes before the first NUL, or `none` when the
array holds none and the read would run past it. -/
def cString (m : PduBuf) : Option (List UInt8) :=
  if 0 ∈ m.bytes then some (m.bytes.takeWhile fun b => b != 0) else none

/-! ### The escapes -/

/-- The lower-case hex digit of `n < 16`. -/
def hexDigit (n : Nat) : UInt8 :=
  if n < 10 then 0x30 + n.toUInt8 else 0x61 + (n - 10).toUInt8

/-- `%#.2x` of a byte: two lower-case hex digits, after `0x` unless the value is zero. -/
def formatHex (b : UInt8) : List UInt8 :=
  let ds := [hexDigit (b.toNat / 16), hexDigit (b.toNat % 16)]
  if b = 0 then ds else 0x30 :: 0x78 :: ds

/-- The escape of one byte, as the loop writes it when there is room. -/
def escapeByte (isprint : UInt8 → Bool) (c : UInt8) : List UInt8 :=
  if c = 0x5C then [0x5C, 0x5C] else if isprint c then [c] else 0x5C :: formatHex c

/-- The escaping of a whole buffer. -/
def escape (isprint : UInt8 → Bool) (buf : List UInt8) : List UInt8 :=
  buf.flatMap (escapeByte isprint)

@[simp]
theorem escape_nil (isprint : UInt8 → Bool) :
  escape isprint [] = []
  := rfl

@[simp]
theorem escape_cons (isprint : UInt8 → Bool) (c : UInt8) (s : List UInt8) :
  escape isprint (c :: s) = escapeByte isprint c ++ escape isprint s
  := rfl

theorem length_formatHex (b : UInt8) :
  (formatHex b).length ≤ 4
  := by
  unfold formatHex
  split <;> simp

/-! ### The loop -/

/-- `dtop`: ten bytes short of the end of `s_lbuf`, room for a hex escape and a NUL. -/
def logDtop : Nat := maxPduLen - 10

/-- The escaping loop of `log_data` from offset `dptr` of `s_lbuf` over the bytes left of
the buffer: the array and the final `dptr`, or `none` at a store outside the array. -/
def logDataLoop (isprint : UInt8 → Bool) (m : PduBuf) (dptr : Nat) :
    List UInt8 → Option (PduBuf × Nat)
  | [] => some (m, dptr)
  | c :: s =>
    if dptr < logDtop then
      if c = 0x5C then
        (storeBytes m dptr [0x5C, 0x5C]).bind fun m => logDataLoop isprint m (dptr + 2) s
      else if isprint c then
        (storeByte m dptr c).bind fun m => logDataLoop isprint m (dptr + 1) s
      else
        let (m?, n) := snprintf m dptr (logDtop - dptr) (0x5C :: formatHex c)
        m?.bind fun m => logDataLoop isprint m (dptr + n) s
    else some (m, dptr)

/-- `log_data` at `debug > 1`: the text it prints between the quotes, or `none` at a store
outside `s_lbuf` or a read past it.  `isprint` is the C library's, in the locale in use. -/
def logData (isprint : UInt8 → Bool) (lbuf : PduBuf) (buf : List UInt8) :
    Option (List UInt8) :=
  (logDataLoop isprint lbuf 0 buf).bind fun (m, dptr) => (storeByte m dptr 0).bind cString

/-! ### Stores behind a prefix -/

/-- A store right after a prefix of the array extends it by the byte stored. -/
theorem storeByte_extend {m : PduBuf} {P : List UInt8} (hP : P <+: m.bytes)
    (hl : P.length < maxPduLen) (b : UInt8) :
  ∃ m', storeByte m P.length b = some m' ∧ P ++ [b] <+: m'.bytes
  := by
  obtain ⟨r, hr⟩ := hP
  have hlen := m.length_eq
  rw [← hr, List.length_append] at hlen
  obtain _ | ⟨x, r⟩ := r
  · simp at hlen; omega
  · refine ⟨_, if_pos hl, ?_⟩
    simp only [← hr, List.set_append_right _ _ le_rfl, Nat.sub_self, List.set_cons_zero]
    exact ⟨r, by simp⟩

/-- A store at or after the end of a prefix of the array keeps the prefix. -/
theorem storeByte_keep {m : PduBuf} {Q : List UInt8} (hQ : Q <+: m.bytes) {off : Nat}
    (hoff : Q.length ≤ off) (hl : off < maxPduLen) (b : UInt8) :
  ∃ m', storeByte m off b = some m' ∧ Q <+: m'.bytes
  := by
  obtain ⟨r, hr⟩ := hQ
  refine ⟨_, if_pos hl, ?_⟩
  simp only [← hr, List.set_append_right _ _ hoff]
  exact List.prefix_append _ _

/-- Stores of `bs` right after a prefix of the array extend it by `bs`. -/
theorem storeBytes_extend (bs : List UInt8) :
    ∀ {m : PduBuf} {P : List UInt8}, P <+: m.bytes → P.length + bs.length ≤ maxPduLen →
  ∃ m', storeBytes m P.length bs = some m' ∧ P ++ bs <+: m'.bytes
  := by
  induction bs with
  | nil => exact fun hP _ => ⟨_, rfl, by simpa using hP⟩
  | cons b bs ih =>
    intro m P hP hl
    simp only [List.length_cons] at hl
    obtain ⟨m₁, h₁, hP₁⟩ := storeByte_extend hP (by omega) b
    obtain ⟨m₂, h₂, hP₂⟩ := ih hP₁ (by simp; omega)
    refine ⟨m₂, ?_, by simpa using hP₂⟩
    simp only [storeBytes, h₁, Option.some_bind]
    simpa using h₂

/-- The text up to the first NUL of an array that holds `P` and then a NUL. -/
theorem cString_of_prefix {m : PduBuf} {P : List UInt8} (h : P ++ [0] <+: m.bytes) :
  cString m = some (P.takeWhile fun b => b != 0)
  := by
  obtain ⟨r, hr⟩ := h
  have hmem : (0 : UInt8) ∈ m.bytes := by simp [← hr]
  rw [cString, if_pos hmem, ← hr, List.append_assoc, List.takeWhile_append]
  split
  case isTrue h => simpa using ((List.takeWhile_prefix _).eq_of_length h).symm
  case isFalse => rfl

/-! ### Safety of the loop -/

/-- Once `dptr` has reached `dtop` the loop stops. -/
theorem logDataLoop_stop (isprint : UInt8 → Bool) (m : PduBuf) {dptr : Nat}
    (h : logDtop ≤ dptr) (s : List UInt8) :
  logDataLoop isprint m dptr s = some (m, dptr)
  := by
  cases s with
  | nil => rfl
  | cons c s => simp only [logDataLoop, if_neg (Nat.not_lt.2 h)]

theorem length_escapeByte (isprint : UInt8 → Bool) (c : UInt8) :
  0 < (escapeByte isprint c).length ∧ (escapeByte isprint c).length ≤ 5
  := by
  have := length_formatHex c
  unfold escapeByte
  split_ifs <;> simp [this]

/-- One step of the loop that writes the whole escape of its byte: a backslash or a
printable byte, stored directly, or a hex escape that `snprintf` has room for. -/
theorem logDataLoop_cons {isprint : UInt8 → Bool} {m : PduBuf} {E : List UInt8}
    (hE : E <+: m.bytes) {c : UInt8} (s : List UInt8) (hroom : E.length < logDtop)
    (hfull : c = 0x5C ∨ isprint c = true ∨ E.length + (escapeByte isprint c).length < logDtop) :
  ∃ m₁, E ++ escapeByte isprint c <+: m₁.bytes ∧
    logDataLoop isprint m E.length (c :: s)
      = logDataLoop isprint m₁ (E ++ escapeByte isprint c).length s
  := by
  have hdtop : logDtop + 10 = maxPduLen := rfl
  simp only [logDataLoop, if_pos hroom]
  unfold escapeByte at hfull ⊢
  split_ifs at hfull ⊢ with hc hp
  case pos =>
    obtain ⟨m₁, h₁, hE₁⟩ := storeBytes_extend [0x5C, 0x5C] hE (by simp; omega)
    exact ⟨m₁, hE₁, by simp [h₁]⟩
  case pos =>
    obtain ⟨m₁, h₁, hE₁⟩ := storeByte_extend hE (by omega) c
    exact ⟨m₁, hE₁, by simp [h₁]⟩
  have ht : E.length + (0x5C :: formatHex c).length < logDtop := by simpa [hc, hp] using hfull
  generalize 0x5C :: formatHex c = t at ht ⊢
  simp only [snprintf, if_neg (show logDtop - E.length ≠ 0 by omega),
    List.take_of_length_le (show t.length ≤ logDtop - E.length - 1 by omega)]
  obtain ⟨m₁, h₁, hE₁⟩ := storeBytes_extend (t ++ [0]) hE (by simp; omega)
  exact ⟨m₁, List.IsPrefix.trans (by simp) hE₁, by simp [h₁]⟩

/-- The loop from the end of a prefix `E` of the array, over the bytes `s`: it makes no store
outside the array, ends with `dptr` inside it, and leaves in the array a prefix `P` of `E`
followed by the escape of `s`, either at `dptr` or, after a truncated escape, before `dptr`
and with a NUL after it. -/
theorem logDataLoop_spec (isprint : UInt8 → Bool) (s : List UInt8) :
    ∀ {m : PduBuf} {E : List UInt8}, E <+: m.bytes → E.length < maxPduLen →
  ∃ m' d P, logDataLoop isprint m E.length s = some (m', d) ∧
    P <+: E ++ escape isprint s ∧ d < maxPduLen ∧
    ((P <+: m'.bytes ∧ P.length = d) ∨ (P ++ [0] <+: m'.bytes ∧ P.length < d))
  := by
  induction s with
  | nil => exact fun hE hl => ⟨_, _, _, rfl, by simp, hl, .inl ⟨hE, rfl⟩⟩
  | cons c s ih =>
    intro m E hE hl
    by_cases hroom : E.length < logDtop
    case neg =>
      exact ⟨m, _, E, logDataLoop_stop isprint m (Nat.not_lt.1 hroom) _,
        List.prefix_append _ _, hl, .inl ⟨hE, rfl⟩⟩
    have hdtop : logDtop + 10 = maxPduLen := rfl
    have hlen := length_escapeByte isprint c
    by_cases hfull : c = 0x5C ∨ isprint c = true ∨
        E.length + (escapeByte isprint c).length < logDtop
    case pos =>
      obtain ⟨m₁, hE₁, hrun⟩ := logDataLoop_cons hE s hroom hfull
      obtain ⟨m', d, P, hrun', hP, hd, hcases⟩ := ih hE₁ (by simp; omega)
      exact ⟨m', d, P, hrun.trans hrun', by simpa using hP, hd, hcases⟩
    -- a hex escape with no room left: `snprintf` cuts it short and the loop stops
    simp only [not_or] at hfull
    obtain ⟨hc, hp, hlong⟩ := hfull
    have hesc : escapeByte isprint c = 0x5C :: formatHex c := by simp [escapeByte, hc, hp]
    rw [hesc] at hlen hlong
    simp only [logDataLoop, if_pos hroom, if_neg hc, if_neg hp, escape_cons, hesc]
    generalize 0x5C :: formatHex c = t at hlen hlong ⊢
    simp only [snprintf, if_neg (show logDtop - E.length ≠ 0 by omega)]
    have htake : (t.take (logDtop - E.length - 1)).length = logDtop - E.length - 1 :=
      List.length_take_of_le (by omega)
    obtain ⟨m₁, h₁, hE₁⟩ := storeBytes_extend (t.take (logDtop - E.length - 1) ++ [0]) hE
      (by simp only [List.length_append, htake, List.length_singleton]; omega)
    refine ⟨m₁, E.length + t.length, E ++ t.take (logDtop - E.length - 1), ?_, ?_, by omega,
      .inr ⟨by rwa [List.append_assoc], by simp only [List.length_append, htake]; omega⟩⟩
    · simp only [h₁, Option.some_bind]
      exact logDataLoop_stop isprint m₁ (by omega) s
    · simpa using (List.take_prefix _ t).trans (List.prefix_append t (escape isprint s))

/-- For every buffer, whatever `s_lbuf` held before and whatever `isprint` says, `log_data`
stores only inside `s_lbuf`, its trailing NUL included, finds the end of the text it prints
inside it, and prints a prefix of the escaping of the buffer. -/
theorem logData_safe (isprint : UInt8 → Bool) (lbuf : PduBuf) (buf : List UInt8) :
  ∃ out, logData isprint lbuf buf = some out ∧ out <+: escape isprint buf
  := by
  obtain ⟨m, d, P, hrun, hP, hd, hcases⟩ :=
    @logDataLoop_spec isprint buf lbuf [] List.nil_prefix (by decide)
  have hnul : ∃ m', storeByte m d 0 = some m' ∧ P ++ [0] <+: m'.bytes := by
    rcases hcases with ⟨hPm, rfl⟩ | ⟨hPm, hlt⟩
    · exact storeByte_extend hPm hd 0
    · exact storeByte_keep hPm (by simp; omega) hd 0
  obtain ⟨m', hstore, hm'⟩ := hnul
  refine ⟨_, ?_, (List.takeWhile_prefix fun b => b != 0).trans (by simpa using hP)⟩
  simp only [logData, List.length_nil] at hrun ⊢
  simp only [hrun, Option.some_bind, hstore, cString_of_prefix hm']

/-! ### The whole escaping when it fits -/

/-- No escape holds a NUL, as long as NUL is not printable. -/
theorem zero_not_mem_escape {isprint : UInt8 → Bool} (h0 : isprint 0 = false)
    (buf : List UInt8) :
  ∀ b ∈ escape isprint buf, b ≠ 0
  := by
  have hhex : ∀ n, n < 16 → hexDigit n ≠ 0 := by decide
  have hdigits :
      ∀ c : UInt8, ∀ b ∈ [hexDigit (c.toNat / 16), hexDigit (c.toNat % 16)], b ≠ 0 := by
    intro c b hb
    have : c.toNat < 256 := c.toNat_lt_size
    simp only [List.mem_cons, List.mem_singleton, List.not_mem_nil, or_false] at hb
    rcases hb with rfl | rfl
    · exact hhex _ (by omega)
    · exact hhex _ (Nat.mod_lt _ (by decide))
  simp only [escape, List.mem_flatMap]
  rintro b ⟨c, -, hb⟩
  unfold escapeByte formatHex at hb
  split_ifs at hb with h1 h2 h3
  · simp only [List.mem_cons, List.mem_singleton, List.not_mem_nil, or_false, or_self] at hb
    rw [hb]
    decide
  · rw [List.mem_singleton] at hb
    rintro rfl
    rw [← hb, h0] at h2
    exact Bool.false_ne_true h2
  · rcases List.mem_cons.1 hb with rfl | hb
    · decide
    · exact hdigits c b hb
  · rcases List.mem_cons.1 hb with rfl | hb
    · decide
    rcases List.mem_cons.1 hb with rfl | hb
    · decide
    rcases List.mem_cons.1 hb with rfl | hb
    · decide
    · exact hdigits c b hb

/-- When the escape of the bytes `s` fits before `dtop`, the loop writes all of it after
the prefix `E` and ends right behind it. -/
theorem logDataLoop_fits (isprint : UInt8 → Bool) (s : List UInt8) :
    ∀ {m : PduBuf} {E : List UInt8}, E <+: m.bytes →
      E.length + (escape isprint s).length < logDtop →
  ∃ m', logDataLoop isprint m E.length s = some (m', (E ++ escape isprint s).length) ∧
    E ++ escape isprint s <+: m'.bytes
  := by
  induction s with
  | nil => exact fun {m _} hE _ => ⟨m, by simp [logDataLoop], by simpa using hE⟩
  | cons c s ih =>
    intro m E hE hl
    have hlen := length_escapeByte isprint c
    simp only [escape_cons, List.length_append] at hl
    obtain ⟨m₁, hE₁, hrun⟩ :=
      @logDataLoop_cons isprint _ _ hE c s (by omega) (.inr (.inr (by omega)))
    obtain ⟨m', hrun', hm'⟩ := ih hE₁ (by simp; omega)
    exact ⟨m', by simpa [hrun] using hrun', by simpa using hm'⟩

/-- Without a printable NUL, the escaping holds no NUL, so a C string ends only behind it. -/
theorem takeWhile_escape {isprint : UInt8 → Bool} (h0 : isprint 0 = false) (buf : List UInt8) :
  (escape isprint buf).takeWhile (fun b => b != 0) = escape isprint buf
  := List.takeWhile_eq_self_iff.2 fun b hb => bne_iff_ne.2 (zero_not_mem_escape h0 buf b hb)

/-- When the escaping of the buffer fits before `dtop`, `log_data` stores all of it and a
NUL, and prints it up to its first NUL. -/
theorem logData_eq_takeWhile (isprint : UInt8 → Bool) (lbuf : PduBuf) (buf : List UInt8)
    (hfit : (escape isprint buf).length < logDtop) :
  logData isprint lbuf buf = some ((escape isprint buf).takeWhile fun b => b != 0)
  := by
  have hdtop : logDtop + 10 = maxPduLen := rfl
  obtain ⟨m, hrun, hm⟩ :=
    @logDataLoop_fits isprint buf lbuf [] List.nil_prefix (by simpa using hfit)
  simp only [List.nil_append, List.length_nil] at hrun hm
  obtain ⟨m', hstore, hm'⟩ := storeByte_extend hm (by omega) 0
  simp only [logData, hrun, Option.some_bind, hstore, cString_of_prefix hm']

/-- When the escaping of the buffer fits before `dtop` and NUL is not printable (it is a
control character in every locale), `log_data` prints the whole escaping. -/
theorem logData_fits (isprint : UInt8 → Bool) (h0 : isprint 0 = false) (lbuf : PduBuf)
    (buf : List UInt8) (hfit : (escape isprint buf).length < logDtop) :
  logData isprint lbuf buf = some (escape isprint buf)
  := by rw [logData_eq_takeWhile isprint lbuf buf hfit, takeWhile_escape h0]

/-- In the C locale, the line `{"class":"TPV"}` with a trailing newline is printed with the
newline as `\0x0a`. -/
theorem logData_fits_tpv :
  logData (fun c => 0x20 ≤ c && c ≤ 0x7E) ⟨List.replicate 8192 0, List.length_replicate _ _⟩
      (cbytes "\x7b\"class\":\"TPV\"\x7d\n")
    = some (escape (fun c => 0x20 ≤ c && c ≤ 0x7E) (cbytes "\x7b\"class\":\"TPV\"\x7d\n"))
  := logData_fits _ (by decide) _ _ (by decide)

/-- `A`, a backslash, a newline and a NUL, in the C locale: the backslash doubled, the
newline as `\0x0a`, the NUL as `\00`. -/
example :
    logData (fun c => 0x20 ≤ c && c ≤ 0x7E)
      ⟨List.replicate 8192 0xAA, List.length_replicate _ _⟩ [0x41, 0x5C, 0x0A, 0x00]
      = some (cbytes "A\\\\\\0x0a\\00")
  := by decide

/-! ### Reading the dump back -/

/-- The value of a lower-case hex digit. -/
def hexValue (d : UInt8) : Option Nat :=
  if 0x30 ≤ d ∧ d ≤ 0x39 then some (d.toNat - 0x30)
  else if 0x61 ≤ d ∧ d ≤ 0x66 then some (d.toNat - 0x57) else none

/-- Where a reader of a dump stands: between escapes, after a backslash, after `\0`, after
`\0x`, or after `\0x` and a first hex digit of value `hi`. -/
inductive ReadState where
  | plain
  | backslash
  | zero
  | hex
  | hexHi (hi : Nat)
  deriving DecidableEq, Repr

/-- A reader of the dump, which the driver itself never runs, takes one more byte: a doubled
backslash is a backslash, a backslash and `00` a NUL, a backslash, `0x` and two hex digits
the byte they spell, and any other byte itself.  `none` once the text holds no escape the
dump writes. -/
def readByte : Option (List UInt8 × ReadState) → UInt8 → Option (List UInt8 × ReadState)
  | none, _ => none
  | some (out, .plain), d => if d = 0x5C then some (out, .backslash) else some (out ++ [d], .plain)
  | some (out, .backslash), d =>
    if d = 0x5C then some (out ++ [0x5C], .plain) else if d = 0x30 then some (out, .zero) else none
  | some (out, .zero), d =>
    if d = 0x30 then some (out ++ [0], .plain) else if d = 0x78 then some (out, .hex) else none
  | some (out, .hex), d => (hexValue d).map fun hi => (out, .hexHi hi)
  | some (out, .hexHi hi), d => (hexValue d).map fun lo => (out ++ [(16 * hi + lo).toUInt8], .plain)

/-- A dump read back: the bytes, when the text ends between escapes. -/
def unescape (t : List UInt8) : Option (List UInt8) :=
  match t.foldl readByte (some ([], .plain)) with
  | some (out, .plain) => some out
  | _ => none

theorem hexValue_hexDigit :
  ∀ n < 16, hexValue (hexDigit n) = some n
  := by decide

/-- The escape of a byte reads back to the byte. -/
theorem readByte_escapeByte (isprint : UInt8 → Bool) (c : UInt8) (out : List UInt8) :
  (escapeByte isprint c).foldl readByte (some (out, .plain)) = some (out ++ [c], .plain)
  := by
  unfold escapeByte
  by_cases hb : c = 0x5C
  · subst hb
    rfl
  rw [if_neg hb]
  by_cases hp : isprint c = true
  · rw [if_pos hp]
    simp only [List.foldl, readByte, if_neg hb]
  rw [if_neg hp, formatHex]
  by_cases h0 : c = 0
  · subst h0
    rfl
  have hc : c.toNat < 256 := c.toNat_lt_size
  have hbyte : (16 * (c.toNat / 16) + c.toNat % 16).toUInt8 = c := by
    rw [Nat.div_add_mod]
    exact UInt8.eq_of_toBitVec_eq (BitVec.eq_of_toNat_eq (UInt8.toBitVec_eq_of_lt c.toNat_lt_size))
  rw [if_neg h0]
  show List.foldl readByte (some (out, .hex)) _ = _
  simp only [List.foldl, readByte, hexValue_hexDigit _ (show c.toNat / 16 < 16 by omega),
    hexValue_hexDigit _ (show c.toNat % 16 < 16 by omega), Option.map_some', hbyte]

theorem readByte_escape (isprint : UInt8 → Bool) (buf out : List UInt8) :
  (escape isprint buf).foldl readByte (some (out, .plain)) = some (out ++ buf, .plain)
  := by
  induction buf generalizing out with
  | nil => simp
  | cons c s ih =>
    rw [escape_cons, List.foldl_append, readByte_escapeByte, ih, List.append_assoc,
      List.singleton_append]

/-- The escaping of a buffer reads back to the buffer, whatever `isprint` says. -/
theorem unescape_escape (isprint : UInt8 → Bool) (buf : List UInt8) :
  unescape (escape isprint buf) = some buf
  := by
  rw [unescape, readByte_escape, List.nil_append]

/-- When the escaping of the buffer fits before `dtop`, the text `log_data` prints reads back
to the whole buffer: the dump shows the bytes received without loss or ambiguity. -/
theorem logData_unescape (isprint : UInt8 → Bool) (h0 : isprint 0 = false) (lbuf : PduBuf)
    (buf : List UInt8) (hfit : (escape isprint buf).length < logDtop) :
  (logData isprint lbuf buf).bind unescape = some buf
  := by
  rw [logData_eq_takeWhile isprint lbuf buf hfit, takeWhile_escape h0, Option.some_bind,
    unescape_escape]

/-- In the C locale, the dump of `A`, a backslash, a newline and a NUL reads back to them. -/
theorem logData_unescape_nul :
  (fun c : UInt8 => 0x20 ≤ c && c ≤ 0x7E) 0 = false ∧
  (escape (fun c => 0x20 ≤ c && c ≤ 0x7E) [0x41, 0x5C, 0x0A, 0x00]).length < logDtop ∧
  (logData (fun c => 0x20 ≤ c && c ≤ 0x7E)
    ⟨List.replicate 8192 0xAA, List.length_replicate _ _⟩ [0x41, 0x5C, 0x0A, 0x00]).bind
      unescape = some [0x41, 0x5C, 0x0A, 0x00]
  := ⟨by decide, by decide, logData_unescape _ (by decide) _ _ (by decide)⟩

end GpsdJson
