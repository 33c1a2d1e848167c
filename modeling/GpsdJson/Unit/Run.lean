import GpsdJson.Unit.Process

/-!
# Runs of records

Between two records a unit can be reconfigured by `gpsd_control`, lose its connection
(`gpsd_stop_socket`), or gain a peer (`gpsd_start`).
`run` threads the unit through such a sequence of events and collects the samples fed to
the peers.  Events are numbered, and every time stamp read from a record carries that
record's number.
-/

namespace GpsdJson

/-- An event of the unit's timing state: a record (what `json_parse_record` made of the line,
the local receive time, and the primary peer's `CLK_FLAG2`), a `gpsd_control` call for a
peer, a `gpsd_stop_socket`, or a successful `gpsd_start` of a peer. -/
inductive Event where
  | record (rec : Option JsonCtx) (rtime : LFp) (clkFlag2 : Bool)
  | control (peer : PeerId) (cfgMode : Nat) (fudge1 fudge2 : LFp)
  | stopSocket
  | start (unit : Nat) (peer : PeerId) (cfgMode : Nat)

/-- One event, numbered `i`. -/
def Event.step (E : Ext) (up : GpsdUnit) (i : Nat) : Event → GpsdUnit × List Sample
  | .record rec rtime clkFlag2 => gpsdParseRecord E up rec ⟨rtime, i⟩ clkFlag2
  | .control peer cfgMode fudge1 fudge2 => (gpsdControl up peer cfgMode fudge1 fudge2, [])
  | .stopSocket => (stopSocketUnit up, [])
  | .start unit peer cfgMode => (startOpmode up unit peer cfgMode, [])

/-- The events `es`, numbered from `i`: the unit after them and the samples fed. -/
def run (E : Ext) : GpsdUnit → Nat → List Event → GpsdUnit × List Sample
  | up, _, [] => (up, [])
  | up, i, e :: es =>
    let (up', s) := e.step E up i
    let (up'', s') := run E up' (i + 1) es
    (up'', s ++ s')

theorem run_append (E : Ext) (up : GpsdUnit) (i : Nat) (es es' : List Event) :
  run E up i (es ++ es')
    = ((run E (run E up i es).1 (i + es.length) es').1,
        (run E up i es).2 ++ (run E (run E up i es).1 (i + es.length) es').2)
  := by
  induction es generalizing up i with
  | nil => simp [run]
  | cons e es ih =>
    simp only [List.cons_append, run, List.append_eq, ih, List.length_cons, List.append_assoc,
      show i + (es.length + 1) = i + 1 + es.length by omega]

/-- Induction over a run: a property of the event number, the unit and the samples fed so
far that every event satisfying `Q` preserves holds after a run of such events. -/
theorem run_invariant (E : Ext) (P : Nat → GpsdUnit → List Sample → Prop) (Q : Event → Prop)
    (hstep : ∀ i up ss e, Q e → P i up ss → P (i + 1) (e.step E up i).1 (ss ++ (e.step E up i).2))
    (es : List Event) (hes : ∀ e ∈ es, Q e) (i : Nat) (up : GpsdUnit) (ss : List Sample)
    (h : P i up ss) :
  P (i + es.length) (run E up i es).1 (ss ++ (run E up i es).2)
  := by
  induction es generalizing i up ss with
  | nil => simpa [run] using h
  | cons e es ih =>
    have h' := ih (fun e he => hes e (List.mem_cons_of_mem _ he)) _ _ _
      (hstep i up ss e (hes e (List.mem_cons_self _ _)) h)
    simpa only [run, List.length_cons, List.append_assoc, Nat.add_right_comm, Nat.add_assoc]
      using h'

/-! ### A stale pulse -/

/-- In `STRICT` mode: a good PPS record at local time `0` (event 1), a PPS record without
time members at `5 s` (event 2), and a good TOFF record at `5.5 s` (event 3).  The failed
record moves `pps_local` to `5 s`, so the staleness check passes, and `eval_strict` pairs
the TOFF reference time with the receive time of the pulse that arrived `5.5 s` earlier. -/
theorem run_strict_stale_pulse :
  ∃ a b c,
    jsonParseTokens (cbytes "\x7b\"class\":\"PPS\",\"clock_sec\":1,\"clock_musec\":0,\"real_sec\":1,\"real_musec\":0\x7d") 11
        [⟨.object, 0, 73, 5⟩, ⟨.string, 2, 7, 1⟩, ⟨.string, 10, 13, 0⟩, ⟨.string, 16, 25, 1⟩,
          ⟨.primitive, 27, 28, 0⟩, ⟨.string, 30, 41, 1⟩, ⟨.primitive, 43, 44, 0⟩,
          ⟨.string, 46, 54, 1⟩, ⟨.primitive, 56, 57, 0⟩, ⟨.string, 59, 69, 1⟩,
          ⟨.primitive, 71, 72, 0⟩] = some a ∧
    jsonParseTokens (cbytes "\x7b\"class\":\"PPS\"\x7d") 3
        [⟨.object, 0, 15, 1⟩, ⟨.string, 2, 7, 1⟩, ⟨.string, 10, 13, 0⟩] = some b ∧
    jsonParseTokens (cbytes "\x7b\"class\":\"TOFF\",\"clock_sec\":6,\"clock_nsec\":0,\"real_sec\":6,\"real_nsec\":0\x7d") 11
        [⟨.object, 0, 72, 5⟩, ⟨.string, 2, 7, 1⟩, ⟨.string, 10, 14, 0⟩, ⟨.string, 17, 26, 1⟩,
          ⟨.primitive, 28, 29, 0⟩, ⟨.string, 31, 41, 1⟩, ⟨.primitive, 43, 44, 0⟩,
          ⟨.string, 46, 54, 1⟩, ⟨.primitive, 56, 57, 0⟩, ⟨.string, 59, 68, 1⟩,
          ⟨.primitive, 70, 71, 0⟩] = some c ∧
    ∀ E, (run E { GpsdUnit.zero with mode := 1 } 1
        [.record (some a) 0 false, .record (some b) (5 * 2 ^ 32) false,
          .record (some c) (5 * 2 ^ 32 + 2 ^ 31) false]).2
      = [⟨.strict, ⟨tspecStampToLfp 6 0, 3⟩, ⟨tspecStampToLfp 1 0, 1⟩, 0⟩]
  := ⟨_, _, _, rfl, rfl, rfl, fun _ => rfl⟩

end GpsdJson
