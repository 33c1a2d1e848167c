import GpsdJson.Basic
import Mathlib.Data.List.DropRight

/-!
# Assembling lines

GPSD sends a stream of newline-terminated JSON records, and the kernel cuts that stream into
reads at arbitrary places.  `gpsd_receive` copies the bytes of one read into the unit's
buffer, dropping leading blanks and keeping at most as many bytes as fit before `edst`; at a
newline it drops trailing blanks, terminates the text and hands it to `gpsd_parse`.  The
partial line at the end of a read stays in the buffer, its length in `buflen`.

`edst` is computed from `buffer + buflen`, not from `buffer`.  A read that starts on an
empty buffer cuts every line at `MAX_PDU_LEN - 1` bytes and stores nothing past the buffer
(`gpsdReceive_of_empty`).  A read that starts in the middle of a long line does not: it
extends the line past the end of the buffer (`gpsdReceive_overrun`).  Where every line fits,
the place of `edst` does not matter: however the stream is cut into reads, successive calls
hand on the lines without their blanks and store only inside the buffer
(`gpsdReceiveRun_fits`).
-/

namespace GpsdJson

/-- What `gpsd_receive` hands on: the texts it passes to `gpsd_parse` (the bytes
`buffer[0 .. buflen)` at each call) and the offset in `up->buffer` of every byte it
stores, terminating NULs included. -/
structure RecvOut where
  lines : List (List UInt8)
  writes : List Nat
  deriving DecidableEq, Repr

/-- One pass of the loop of `gpsd_receive` over the byte `ch`: `line` is
`buffer[0 .. pdst)` and `edst` the offset of `edst` in the buffer. -/
def receiveStep (edst : Nat) (st : List UInt8 × RecvOut) (ch : UInt8) : List UInt8 × RecvOut :=
  let (line, out) := st
  if ch = 0x0A then
    let t := line.rdropWhile leSpace
    ([], ⟨out.lines ++ [t], out.writes ++ [t.length]⟩)
  else if line.length < edst then
    if !leSpace ch || line ≠ [] then (line ++ [ch], ⟨out.lines, out.writes ++ [line.length]⟩)
    else (line, out)
  else (line, out)

/-- `gpsd_receive` for one read `chunk`, on a unit whose buffer holds the partial line
`line` (so `buflen = line.length`): the partial line it leaves and what it hands on. -/
def gpsdReceive (line chunk : List UInt8) : List UInt8 × RecvOut :=
  chunk.foldl (receiveStep (line.length + maxPduLen - 1)) (line, ⟨[], []⟩)

/-! ### A read that starts on an empty buffer -/

/-- The bytes a line keeps of the text `s` read so far: leading blanks dropped, at most `e`
bytes. -/
def cutLine (e : Nat) (s : List UInt8) : List UInt8 :=
  (s.dropWhile leSpace).take e

/-- The line a text `s` between two newlines is to become, stated directly rather than byte
by byte: leading blanks dropped, cut to its first `MAX_PDU_LEN - 1` bytes, trailing blanks
dropped. -/
def specLine (s : List UInt8) : List UInt8 :=
  (cutLine (maxPduLen - 1) s).rdropWhile leSpace

/-- A byte that is not a newline extends the kept text as `cutLine` says, storing at most
one byte, below `e`. -/
theorem receiveStep_cutLine {e : Nat} (he : 0 < e) (p : List UInt8) (out : RecvOut)
    {ch : UInt8} (hch : ch ≠ 0x0A) :
  ∃ w, (∀ i ∈ w, i < e) ∧
    receiveStep e (cutLine e p, out) ch = (cutLine e (p ++ [ch]), ⟨out.lines, out.writes ++ w⟩)
  := by
  simp only [cutLine, List.dropWhile_append, receiveStep, hch, if_false]
  by_cases hd : p.dropWhile leSpace = []
  · simp only [hd, List.take_nil, List.length_nil, List.isEmpty_nil, if_true, he, ne_eq,
      not_true_eq_false, Bool.or_false, decide_False]
    cases hs : leSpace ch
    · refine ⟨[0], by simpa using he, ?_⟩
      simp [List.dropWhile, hs, List.take_of_length_le (show [ch].length ≤ e by simpa)]
    · exact ⟨[], by simp, by simp [List.dropWhile, hs]⟩
  · have hne : (p.dropWhile leSpace).isEmpty = false := by simpa using hd
    simp only [hne, Bool.false_eq_true, if_false]
    by_cases hlen : (p.dropWhile leSpace).length < e
    · simp only [List.take_of_length_le hlen.le, if_pos hlen, hd, ne_eq, not_false_eq_true,
        decide_True, Bool.or_true, if_true, List.take_of_length_le (show
          (p.dropWhile leSpace ++ [ch]).length ≤ e by simpa using hlen)]
      exact ⟨[_], by simpa using hlen, rfl⟩
    · have h2 : ((p.dropWhile leSpace).take e).length = e := by simp; omega
      rw [h2, if_neg (lt_irrefl e), List.take_append_of_le_length (by omega)]
      exact ⟨[], by simp, by simp⟩

/-- The bytes of a text without newlines extend the kept text, storing only below `e`. -/
theorem foldl_receiveStep_cutLine {e : Nat} (he : 0 < e) (seg : List UInt8)
    (hseg : 0x0A ∉ seg) (p : List UInt8) (out : RecvOut) :
  ∃ w, (∀ i ∈ w, i < e) ∧
    seg.foldl (receiveStep e) (cutLine e p, out)
      = (cutLine e (p ++ seg), ⟨out.lines, out.writes ++ w⟩)
  := by
  induction seg generalizing p out with
  | nil => exact ⟨[], by simp, by simp⟩
  | cons ch seg ih =>
    simp only [List.mem_cons, not_or] at hseg
    obtain ⟨w, hw, hstep⟩ := receiveStep_cutLine he p out (Ne.symm hseg.1)
    obtain ⟨w', hw', hrest⟩ := ih hseg.2 (p ++ [ch]) ⟨out.lines, out.writes ++ w⟩
    refine ⟨w ++ w', fun i hi => ?_, ?_⟩
    · rcases List.mem_append.mp hi with hi | hi
      · exact hw i hi
      · exact hw' i hi
    · rw [List.foldl_cons, hstep, hrest]
      simp

/-- At a newline the kept text, without its trailing blanks, is handed on; its terminating
NUL is stored at an offset at most `e`, and the next line starts empty. -/
theorem receiveStep_cutLine_newline (e : Nat) (p : List UInt8) (out : RecvOut) :
  receiveStep e (cutLine e p, out) 0x0A
    = (cutLine e [], ⟨out.lines ++ [(cutLine e p).rdropWhile leSpace],
        out.writes ++ [((cutLine e p).rdropWhile leSpace).length]⟩) ∧
    ((cutLine e p).rdropWhile leSpace).length ≤ e
  := by
  refine ⟨by simp [receiveStep, cutLine], ?_⟩
  calc ((cutLine e p).rdropWhile leSpace).length
      ≤ (cutLine e p).length := (List.rdropWhile_prefix _ _).length_le
    _ ≤ e := by simp [cutLine]

/-- Newline-terminated texts, read with nothing kept, hand `gpsd_parse` their lines and keep
nothing, storing only inside `up->buffer`. -/
theorem foldl_receiveStep_lines (ls : List (List UInt8)) (hls : ∀ l ∈ ls, 0x0A ∉ l)
    (out : RecvOut) :
  ∃ w, (∀ i ∈ w, i < maxPduLen) ∧
    (ls.map (· ++ [0x0A])).flatten.foldl (receiveStep (maxPduLen - 1))
        (cutLine (maxPduLen - 1) [], out)
      = (cutLine (maxPduLen - 1) [], ⟨out.lines ++ ls.map specLine, out.writes ++ w⟩)
  := by
  induction ls generalizing out with
  | nil => exact ⟨[], by simp, by simp⟩
  | cons l ls ih =>
    have he : 0 < maxPduLen - 1 := by decide
    obtain ⟨w, hw, hl⟩ := foldl_receiveStep_cutLine he l (hls l (by simp)) [] out
    rw [List.nil_append] at hl
    obtain ⟨hnl, hlen⟩ := receiveStep_cutLine_newline (maxPduLen - 1) l ⟨out.lines, out.writes ++ w⟩
    obtain ⟨w', hw', hrest⟩ := ih (fun l' hl' => hls l' (by simp [hl'])) _
    refine ⟨w ++ [((cutLine (maxPduLen - 1) l).rdropWhile leSpace).length] ++ w', ?_, ?_⟩
    · intro i hi
      simp only [List.mem_append, List.mem_singleton] at hi
      rcases hi with (hi | rfl) | hi
      · exact Nat.lt_of_lt_of_le (hw i hi) (by decide)
      · exact Nat.lt_of_le_of_lt hlen (by decide)
      · exact hw' i hi
    · rw [List.map_cons, List.flatten_cons, List.foldl_append, List.foldl_append,
        hl, List.foldl_cons, List.foldl_nil, hnl, hrest]
      simp [specLine]

/-- A read that starts on an empty buffer stores only inside `up->buffer`, hands
`gpsd_parse` the line `specLine` gives for every newline-terminated text of the read, and leaves the
kept bytes of the unterminated rest in the buffer, at most `MAX_PDU_LEN - 1` of them.  Every
read is such a sequence of texts `ls`, each followed by a newline, and a rest. -/
theorem gpsdReceive_of_empty (ls : List (List UInt8)) (rest : List UInt8)
    (hls : ∀ l ∈ ls, 0x0A ∉ l) (hrest : 0x0A ∉ rest) :
  (gpsdReceive [] ((ls.map (· ++ [0x0A])).flatten ++ rest)).2.lines = ls.map specLine ∧
    (gpsdReceive [] ((ls.map (· ++ [0x0A])).flatten ++ rest)).1
      = cutLine (maxPduLen - 1) rest ∧
    ∀ i ∈ (gpsdReceive [] ((ls.map (· ++ [0x0A])).flatten ++ rest)).2.writes, i < maxPduLen
  := by
  obtain ⟨w, hw, hl⟩ := foldl_receiveStep_lines ls hls ⟨[], []⟩
  have he : 0 < maxPduLen - 1 := by decide
  obtain ⟨w', hw', hr⟩ := foldl_receiveStep_cutLine he rest hrest [] ⟨ls.map specLine, w⟩
  have hrun : gpsdReceive [] ((ls.map (· ++ [0x0A])).flatten ++ rest)
      = (cutLine (maxPduLen - 1) rest, ⟨ls.map specLine, w ++ w'⟩) := by
    show List.foldl (receiveStep ([].length + maxPduLen - 1))
      (cutLine (maxPduLen - 1) [], ⟨[], []⟩) _ = _
    rw [List.length_nil, Nat.zero_add, List.foldl_append, hl]
    simp only [List.nil_append] at hr ⊢
    rw [hr]
  rw [hrun]
  refine ⟨rfl, rfl, fun i hi => ?_⟩
  rcases List.mem_append.mp hi with hi | hi
  · exact hw i hi
  · exact Nat.lt_of_lt_of_le (hw' i hi) (by decide)

/-- Two lines, `{}` and `  x`, and an unterminated blank rest. -/
theorem gpsdReceive_of_empty_two_lines :
  ((∀ l ∈ [cbytes "\x7b\x7d", cbytes "  x"], (0x0A : UInt8) ∉ l) ∧ (0x0A : UInt8) ∉ [0x20]) ∧
    (gpsdReceive [] (([cbytes "\x7b\x7d", cbytes "  x"].map (· ++ [0x0A])).flatten ++ [0x20])).2.lines
      = [cbytes "\x7b\x7d", cbytes "  x"].map specLine
  := ⟨⟨by decide, by decide⟩, (gpsdReceive_of_empty _ _ (by decide) (by decide)).1⟩

/-! ### A read that starts inside a long line -/

/-- Bytes that are neither newlines nor blanks are appended one by one while they fit
before `edst`, each stored at the offset it lands on. -/
theorem foldl_receiveStep_replicate {edst n : Nat} {b : UInt8} (hb : b ≠ 0x0A)
    (hs : leSpace b = false) (line : List UInt8) (out : RecvOut)
    (h : line.length + n ≤ edst) :
  (List.replicate n b).foldl (receiveStep edst) (line, out)
    = (line ++ List.replicate n b, ⟨out.lines, out.writes ++ List.range' line.length n⟩)
  := by
  induction n generalizing line out with
  | zero => simp
  | succ n ih =>
    rw [List.replicate_succ, List.foldl_cons, receiveStep]
    simp only [hb, if_false, hs, Bool.not_false, Bool.true_or, if_true,
      if_pos (show line.length < edst by omega)]
    rw [ih _ _ (by simp; omega)]
    simp [List.range'_succ, List.replicate_succ', Nat.add_comm 1]

/-- Bytes that are not newlines are dropped once the line reaches `edst`. -/
theorem foldl_receiveStep_full {edst n : Nat} {b : UInt8} (hb : b ≠ 0x0A)
    (line : List UInt8) (out : RecvOut) (h : edst ≤ line.length) :
  (List.replicate n b).foldl (receiveStep edst) (line, out) = (line, out)
  := by
  induction n with
  | zero => rfl
  | succ n ih =>
    rw [List.replicate_succ, List.foldl_cons, receiveStep]
    simp only [hb, if_false, if_neg (show ¬line.length < edst by omega)]
    exact ih

/-- At a newline a line without trailing blanks is handed on whole, and its terminating
NUL stored at its length. -/
theorem receiveStep_newline {edst : Nat} {line : List UInt8}
    (hl : line.rdropWhile leSpace = line) (out : RecvOut) :
  receiveStep edst (line, out) 0x0A
    = ([], ⟨out.lines ++ [line], out.writes ++ [line.length]⟩)
  := by
  simp [receiveStep, hl]

theorem rdropWhile_replicate {b : UInt8} (hs : leSpace b = false) (n : Nat) :
  (List.replicate n b).rdropWhile leSpace = List.replicate n b
  := by
  cases n with
  | zero => exact List.rdropWhile_nil _
  | succ n => rw [List.replicate_succ', List.rdropWhile_concat_neg leSpace _ b (by simp [hs])]

/-- A read that starts in a line of `MAX_PDU_LEN - 1` bytes `b`, not blanks, runs past the
buffer.  Read in one piece, the stream `b^(MAX_PDU_LEN - 1 + k) '\n'` hands `gpsd_parse` its
first `MAX_PDU_LEN - 1` bytes.  Read as `b^(MAX_PDU_LEN - 1)` and then `b^k '\n'`, the
second read starts with `buflen = MAX_PDU_LEN - 1`, so its `edst` lies `MAX_PDU_LEN - 1`
bytes past the end of that line: it stores the `k` bytes at the offsets from
`MAX_PDU_LEN - 1` on and the NUL at `MAX_PDU_LEN - 1 + k`, outside `up->buffer`, and hands
on a line of `MAX_PDU_LEN - 1 + k` bytes. -/
theorem gpsdReceive_overrun {b : UInt8} (hb : b ≠ 0x0A) (hs : leSpace b = false) {k : Nat}
    (hk : 0 < k ∧ k ≤ maxPduLen - 1) :
  (gpsdReceive [] (List.replicate (maxPduLen - 1 + k) b ++ [0x0A])).2.lines
      = [List.replicate (maxPduLen - 1) b] ∧
    (gpsdReceive [] (List.replicate (maxPduLen - 1) b)).1 = List.replicate (maxPduLen - 1) b ∧
    (gpsdReceive (List.replicate (maxPduLen - 1) b) (List.replicate k b ++ [0x0A])).2
      = ⟨[List.replicate (maxPduLen - 1 + k) b],
          List.range' (maxPduLen - 1) k ++ [maxPduLen - 1 + k]⟩
  := by
  refine ⟨?_, ?_, ?_⟩
  · rw [gpsdReceive, List.replicate_add, List.append_assoc, List.foldl_append,
      foldl_receiveStep_replicate hb hs _ _ (by simp), List.foldl_append, List.nil_append,
      foldl_receiveStep_full hb _ _ (by simp), List.foldl_cons, List.foldl_nil,
      receiveStep_newline (rdropWhile_replicate hs _)]
    simp only [List.nil_append]
  · rw [gpsdReceive, foldl_receiveStep_replicate hb hs _ _ (by simp), List.nil_append]
  · rw [gpsdReceive, List.foldl_append,
      foldl_receiveStep_replicate hb hs _ _ (by simp; omega), List.foldl_cons, List.foldl_nil,
      ← List.replicate_add, receiveStep_newline (rdropWhile_replicate hs _)]
    simp

/-- The split stream `a^8191 | a a '\n'`: the second read stores at offsets `8191`, `8192`
and `8193` of the `8192`-byte buffer. -/
theorem gpsdReceive_overrun_two :
  ((0x61 : UInt8) ≠ 0x0A ∧ leSpace 0x61 = false ∧ 0 < 2 ∧ 2 ≤ maxPduLen - 1) ∧
    (gpsdReceive (List.replicate (maxPduLen - 1) 0x61) (List.replicate 2 0x61 ++ [0x0A])).2
      = ⟨[List.replicate (maxPduLen - 1 + 2) 0x61],
          List.range' (maxPduLen - 1) 2 ++ [maxPduLen - 1 + 2]⟩
  := ⟨⟨by decide, by decide, by decide, by decide⟩,
    (gpsdReceive_overrun (by decide) (by decide) ⟨by decide, by decide⟩).2.2⟩

/-! ### Successive reads -/

/-- `gpsd_receive` called once for each read of `chunks` on a unit whose buffer holds
`line`, each call starting on the buffer the last one left: the partial line left at the
end, and what all calls hand on. -/
def gpsdReceiveRun (line : List UInt8) : List (List UInt8) → List UInt8 × RecvOut
  | [] => (line, ⟨[], []⟩)
  | chunk :: chunks =>
    let r := gpsdReceive line chunk
    let r' := gpsdReceiveRun r.1 chunks
    (r'.1, ⟨r.2.lines ++ r'.2.lines, r.2.writes ++ r'.2.writes⟩)

/-- No byte of `c` meets a full line when the loop with end offset `e` runs over it from
`st`: each byte is a newline, a leading blank, or finds room. -/
def NoCut (e : Nat) : List UInt8 × RecvOut → List UInt8 → Prop
  | _, [] => True
  | st, ch :: c =>
    (ch = 0x0A ∨ (st.1 = [] ∧ leSpace ch = true) ∨ st.1.length < e) ∧
      NoCut e (receiveStep e st ch) c

/-- A byte that meets no full line is handled alike by every later end offset. -/
theorem receiveStep_edst {e e' : Nat} (he : e ≤ e') {q : List UInt8} {out : RecvOut}
    {ch : UInt8} (h : ch = 0x0A ∨ (q = [] ∧ leSpace ch = true) ∨ q.length < e) :
  receiveStep e' (q, out) ch = receiveStep e (q, out) ch
  := by
  simp only [receiveStep]
  by_cases hn : ch = 0x0A
  · simp [hn]
  rcases h with h | ⟨rfl, hs⟩ | h
  · exact absurd h hn
  · simp [hn, hs]
  · simp [hn, h, show q.length < e' by omega]

theorem foldl_receiveStep_edst {e e' : Nat} (he : e ≤ e') (c : List UInt8)
    (st : List UInt8 × RecvOut) (h : NoCut e st c) :
  c.foldl (receiveStep e') st = c.foldl (receiveStep e) st
  := by
  induction c generalizing st with
  | nil => rfl
  | cons ch c ih =>
    obtain ⟨q, out⟩ := st
    rw [List.foldl_cons, List.foldl_cons, receiveStep_edst he h.1, ih _ h.2]

theorem noCut_append (e : Nat) (c d : List UInt8) (st : List UInt8 × RecvOut) :
  NoCut e st (c ++ d) ↔ NoCut e st c ∧ NoCut e (c.foldl (receiveStep e) st) d
  := by
  induction c generalizing st with
  | nil => simp [NoCut]
  | cons ch c ih => simp [NoCut, ih, and_assoc]

/-- The loop only appends to what it hands on. -/
theorem receiveStep_out (e : Nat) (q : List UInt8) (out : RecvOut) (ch : UInt8) :
  receiveStep e (q, out) ch
    = ((receiveStep e (q, ⟨[], []⟩) ch).1,
        ⟨out.lines ++ (receiveStep e (q, ⟨[], []⟩) ch).2.lines,
          out.writes ++ (receiveStep e (q, ⟨[], []⟩) ch).2.writes⟩)
  := by
  simp only [receiveStep]
  split_ifs <;> simp

theorem foldl_receiveStep_out (e : Nat) (c q : List UInt8) (out : RecvOut) :
  c.foldl (receiveStep e) (q, out)
    = ((c.foldl (receiveStep e) (q, ⟨[], []⟩)).1,
        ⟨out.lines ++ (c.foldl (receiveStep e) (q, ⟨[], []⟩)).2.lines,
          out.writes ++ (c.foldl (receiveStep e) (q, ⟨[], []⟩)).2.writes⟩)
  := by
  induction c generalizing q out with
  | nil => simp
  | cons ch c ih =>
    rw [List.foldl_cons, List.foldl_cons, receiveStep_out]
    generalize receiveStep e (q, ⟨[], []⟩) ch = r
    obtain ⟨q', lines, writes⟩ := r
    rw [ih q' ⟨out.lines ++ lines, _⟩, ih q' ⟨lines, writes⟩]
    simp

theorem noCut_out (e : Nat) (c q : List UInt8) (out out' : RecvOut) :
  NoCut e (q, out) c ↔ NoCut e (q, out') c
  := by
  induction c generalizing q out out' with
  | nil => exact Iff.rfl
  | cons ch c ih =>
    simp only [NoCut]
    rw [receiveStep_out e q out ch, receiveStep_out e q out' ch]
    exact and_congr Iff.rfl (ih _ _ _)

/-- Where no byte of the stream meets a full line, reading it in pieces does what the loop
does over the whole stream with the end offset of an empty buffer. -/
theorem gpsdReceiveRun_eq_foldl (chunks : List (List UInt8)) (q : List UInt8)
    (h : NoCut (maxPduLen - 1) (q, ⟨[], []⟩) chunks.flatten) :
  gpsdReceiveRun q chunks = chunks.flatten.foldl (receiveStep (maxPduLen - 1)) (q, ⟨[], []⟩)
  := by
  induction chunks generalizing q with
  | nil => rfl
  | cons c cs ih =>
    rw [List.flatten_cons, noCut_append] at h
    have hc : gpsdReceive q c = c.foldl (receiveStep (maxPduLen - 1)) (q, ⟨[], []⟩) :=
      foldl_receiveStep_edst (by omega) c _ h.1
    rw [← hc] at h
    rw [List.flatten_cons, List.foldl_append, ← hc, gpsdReceiveRun]
    generalize gpsdReceive q c = r at h ⊢
    obtain ⟨q', lines, writes⟩ := r
    rw [foldl_receiveStep_out, ih q' ((noCut_out _ _ _ _ _).mp h.2)]

/-- The kept bytes of a text before a newline grow with the text. -/
theorem length_dropWhile_le_append (p s : List UInt8) :
  (p.dropWhile leSpace).length ≤ ((p ++ s).dropWhile leSpace).length
  := by
  rw [List.dropWhile_append]
  split
  · rename_i h
    rw [List.isEmpty_iff.mp h]
    exact Nat.zero_le _
  · simp

/-- A text without newlines whose kept bytes fit meets no full line. -/
theorem noCut_of_fits {e : Nat} (he : 0 < e) (seg : List UInt8) (hseg : 0x0A ∉ seg)
    (p : List UInt8) (out : RecvOut) (hfit : ((p ++ seg).dropWhile leSpace).length ≤ e) :
  NoCut e (cutLine e p, out) seg
  := by
  induction seg generalizing p out with
  | nil => trivial
  | cons ch seg ih =>
    simp only [List.mem_cons, not_or] at hseg
    have hle : ((p ++ [ch]).dropWhile leSpace).length ≤ e :=
      (length_dropWhile_le_append (p ++ [ch]) seg).trans (by simpa using hfit)
    have hcut : cutLine e p = p.dropWhile leSpace :=
      List.take_of_length_le ((length_dropWhile_le_append p [ch]).trans hle)
    obtain ⟨w, -, hstep⟩ := receiveStep_cutLine he p out (Ne.symm hseg.1)
    refine ⟨?_, ?_⟩
    · rw [hcut]
      dsimp only
      rw [List.dropWhile_append] at hle
      by_cases hd : p.dropWhile leSpace = []
      · cases hs : leSpace ch
        · exact .inr (.inr (by simp [hd, he]))
        · exact .inr (.inl ⟨hd, rfl⟩)
      · have hne : (p.dropWhile leSpace).isEmpty = false := by simpa using hd
        simp only [hne, Bool.false_eq_true, if_false, List.length_append,
          List.length_singleton] at hle
        exact .inr (.inr (by omega))
    · rw [hstep]
      exact ih hseg.2 (p ++ [ch]) _ (by simpa using hfit)

/-- A stream of lines that fit, each followed by a newline, and a rest that fits meets no
full line. -/
theorem noCut_lines (ls : List (List UInt8))
    (hls : ∀ l ∈ ls, 0x0A ∉ l ∧ (l.dropWhile leSpace).length < maxPduLen) (rest : List UInt8)
    (hrest : 0x0A ∉ rest ∧ (rest.dropWhile leSpace).length < maxPduLen) (out : RecvOut) :
  NoCut (maxPduLen - 1) (cutLine (maxPduLen - 1) [], out)
    ((ls.map (· ++ [0x0A])).flatten ++ rest)
  := by
  have he : 0 < maxPduLen - 1 := by decide
  induction ls generalizing out with
  | nil => exact noCut_of_fits he rest hrest.1 [] out (by simpa using Nat.le_sub_one_of_lt hrest.2)
  | cons l ls ih =>
    have hl := hls l (List.mem_cons_self _ _)
    obtain ⟨w, -, hfold⟩ := foldl_receiveStep_cutLine he l hl.1 [] out
    rw [List.map_cons, List.flatten_cons, List.append_assoc, List.append_assoc, noCut_append,
      noCut_append, hfold]
    refine ⟨noCut_of_fits he l hl.1 [] out (by simpa using Nat.le_sub_one_of_lt hl.2),
      ⟨.inl rfl, trivial⟩, ?_⟩
    rw [List.foldl_cons, List.foldl_nil, List.nil_append,
      (receiveStep_cutLine_newline _ l _).1]
    exact ih (fun l' hl' => hls l' (List.mem_cons_of_mem _ hl')) _

/-- The loop over newline-terminated texts and an unterminated rest, from an empty line. -/
theorem foldl_receiveStep_stream (ls : List (List UInt8)) (rest : List UInt8)
    (hls : ∀ l ∈ ls, 0x0A ∉ l) (hrest : 0x0A ∉ rest) :
  ∃ w, (∀ i ∈ w, i < maxPduLen) ∧
    ((ls.map (· ++ [0x0A])).flatten ++ rest).foldl (receiveStep (maxPduLen - 1))
        ([], ⟨[], []⟩)
      = (cutLine (maxPduLen - 1) rest, ⟨ls.map specLine, w⟩)
  := by
  obtain ⟨w, hw, hl⟩ := foldl_receiveStep_lines ls hls ⟨[], []⟩
  obtain ⟨w', hw', hr⟩ := foldl_receiveStep_cutLine (show 0 < maxPduLen - 1 by decide) rest hrest []
    ⟨ls.map specLine, w⟩
  refine ⟨w ++ w', fun i hi => ?_, ?_⟩
  · rcases List.mem_append.mp hi with hi | hi
    · exact hw i hi
    · exact Nat.lt_of_lt_of_le (hw' i hi) (by decide)
  · rw [List.foldl_append, show (([] : List UInt8), (⟨[], []⟩ : RecvOut))
      = (cutLine (maxPduLen - 1) [], ⟨[], []⟩) from rfl, hl]
    simpa using hr

/-- A text whose kept bytes fit is not cut. -/
theorem cutLine_of_fits {s : List UInt8} (h : (s.dropWhile leSpace).length < maxPduLen) :
  cutLine (maxPduLen - 1) s = s.dropWhile leSpace
  := List.take_of_length_le (Nat.le_sub_one_of_lt h)

/-- However a stream of lines that fit is cut into reads, successive calls of
`gpsd_receive` from an empty buffer do what one read of the whole stream does: they hand
`gpsd_parse` every line without its leading and trailing blanks, keep the unterminated rest
without its leading blanks, and store only inside `up->buffer`.  A line fits when it has at
most `MAX_PDU_LEN - 1` bytes after its leading blanks. -/
theorem gpsdReceiveRun_fits (ls : List (List UInt8)) (rest : List UInt8)
    (chunks : List (List UInt8))
    (hls : ∀ l ∈ ls, 0x0A ∉ l ∧ (l.dropWhile leSpace).length < maxPduLen)
    (hrest : 0x0A ∉ rest ∧ (rest.dropWhile leSpace).length < maxPduLen)
    (hsplit : chunks.flatten = (ls.map (· ++ [0x0A])).flatten ++ rest) :
  gpsdReceiveRun [] chunks = gpsdReceive [] chunks.flatten ∧
    (gpsdReceiveRun [] chunks).1 = rest.dropWhile leSpace ∧
    (gpsdReceiveRun [] chunks).2.lines
      = ls.map (fun l => (l.dropWhile leSpace).rdropWhile leSpace) ∧
    ∀ i ∈ (gpsdReceiveRun [] chunks).2.writes, i < maxPduLen
  := by
  have hrun : gpsdReceiveRun [] chunks = gpsdReceive [] chunks.flatten :=
    gpsdReceiveRun_eq_foldl chunks [] (hsplit ▸ noCut_lines ls hls rest hrest ⟨[], []⟩)
  obtain ⟨w, hw, hs⟩ := foldl_receiveStep_stream ls rest (fun l hl => (hls l hl).1) hrest.1
  have hone : gpsdReceive [] chunks.flatten = (rest.dropWhile leSpace,
      ⟨ls.map (fun l => (l.dropWhile leSpace).rdropWhile leSpace), w⟩) := by
    rw [gpsdReceive, hsplit, List.length_nil, Nat.zero_add, hs, cutLine_of_fits hrest.2]
    congr 2
    exact List.map_congr_left fun l hl => by rw [specLine, cutLine_of_fits (hls l hl).2]
  rw [hrun, hone]
  exact ⟨rfl, rfl, rfl, hw⟩

/-- The stream ` ab`, `{}`, `c` read as ` a`, `b\n{` and `}\nc`. -/
theorem gpsdReceiveRun_fits_three_reads :
  ((∀ l ∈ [cbytes " ab", cbytes "\x7b\x7d"],
      (0x0A : UInt8) ∉ l ∧ (l.dropWhile leSpace).length < maxPduLen) ∧
    ((0x0A : UInt8) ∉ cbytes "c" ∧ ((cbytes "c").dropWhile leSpace).length < maxPduLen) ∧
    [cbytes " a", cbytes "b\n\x7b", cbytes "\x7d\nc"].flatten
      = ([cbytes " ab", cbytes "\x7b\x7d"].map (· ++ [0x0A])).flatten ++ cbytes "c") ∧
    (gpsdReceiveRun [] [cbytes " a", cbytes "b\n\x7b", cbytes "\x7d\nc"]).2.lines
      = [cbytes "ab", cbytes "\x7b\x7d"]
  := ⟨⟨by decide, by decide, by decide⟩,
    (gpsdReceiveRun_fits [cbytes " ab", cbytes "\x7b\x7d"] (cbytes "c") _ (by decide) (by decide)
      (by decide)).2.2.1.trans (by decide)⟩

end GpsdJson
