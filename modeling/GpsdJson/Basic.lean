import Mathlib.Data.List.Basic
import Mathlib.Data.UInt

/-!
# Machine words, C strings and the driver's constants

The GPSD JSON driver (`refclock_gpsd.c`) stores time as NTP's `l_fp`, a 32.32 fixed-point
`uint64_t`, reads bytes through `char` comparisons and C strings, and sizes its buffers by a
handful of macros.  This module fixes those: `LFp` with `lfpsint`, the signed comparison of a
byte against `' '`, the C string that starts at an offset of a buffer, the `(int)` and
`(uint16_t)` conversions, and the constants of the driver.
-/

namespace GpsdJson

/-! ### Time stamps -/

/-- NTP's `l_fp`: 32 bits of seconds and 32 bits of binary fraction in one `uint64_t`. -/
abbrev LFp := UInt64

/-- `lfpsint`: the seconds of an `l_fp`, read as a signed 32-bit integer. -/
def lfpsint (x : LFp) : Int :=
  let hi := (x >>> 32).toNat
  if hi < 2 ^ 31 then hi else hi - 2 ^ 32

/-- `x += 0x80000000U; setlfpfrac(x, 0)`: the nearest full second of an `l_fp`. -/
def roundSecond (x : LFp) : LFp :=
  (x + 0x80000000) &&& 0xFFFFFFFF00000000

/-! ### Integer conversions -/

/-- The C conversion `(int)x` of a `long` value, on a target whose `int` has 32 bits. -/
def toCInt (x : Int) : Int :=
  (x + 2 ^ 31) % 2 ^ 32 - 2 ^ 31

/-- The C conversion `(uint16_t)x`. -/
def toUInt16 (x : Int) : Nat :=
  (x % 2 ^ 16).toNat

/-! ### Bytes and C strings -/

/-- The bytes of an ASCII string literal, as the C compiler lays it out (without the NUL). -/
def cbytes (s : String) : List UInt8 :=
  s.data.map fun c => c.toNat.toUInt8

/-- The C string that starts at offset `i` of `buf`: the bytes up to the first NUL. -/
def cstrAt (buf : List UInt8) (i : Nat) : List UInt8 :=
  (buf.drop i).takeWhile (· != 0)

/-- `ch <= ' '` for a plain `char`, taken to be signed, as it is on x86: the bytes
`0x80 .. 0xFF` are negative and compare below the blank.  Where `char` is unsigned (ARM,
PowerPC, s390) those bytes compare above it, and the driver keeps them. -/
def leSpace (ch : UInt8) : Bool :=
  ch ≤ 0x20 || 0x80 ≤ ch

/-- `isdigit` in the C locale. -/
def isDigit (ch : UInt8) : Bool :=
  0x30 ≤ ch && ch ≤ 0x39

/-! ### Constants of the driver -/

/-- `MAX_PDU_LEN`: the size of the record assembly buffer. -/
def maxPduLen : Nat := 8192

/-- `JSMN_MAXTOK`: the number of token slots of a parse context. -/
def jsmnMaxtok : Nat := 350

/-- `INVALID_TOKEN`. -/
def invalidToken : Int := -1

/-- `TICKOVER_LOW`, the receive and connect timeout in seconds. -/
def tickoverLow : Nat := 10

/-- `TICKOVER_HIGH`, the longest retry delay in seconds. -/
def tickoverHigh : Nat := 120

/-- `LOGTHROTTLE`, `SECSPERHR`: the seconds between two bursts of throttled log messages. -/
def logthrottle : Nat := 3600

/-- `PPS_MAXCOUNT`, the upper limit of the PPS credit account. -/
def ppsMaxcount : Nat := 60

/-- `PPS_INCCOUNT`, the credit of a good PPS sample. -/
def ppsInccount : Nat := 3

/-- `PPS_DECCOUNT`, the debit of a missing PPS sample. -/
def ppsDeccount : Nat := 1

/-- `PPS2_MAXCOUNT`, the upper limit of the secondary channel's counter. -/
def pps2Maxcount : Nat := 10

/-- `PRECISION`, the precision assumed for serial time stamps (about 2 ms). -/
def precision : Int := -9

/-- `PPS_PRECISION`, the precision assumed for PPS time stamps (about 1 us). -/
def ppsPrecision : Int := -20

/-- `EINVAL` as Linux numbers it. -/
def einval : Nat := 22

/-- `ERANGE` as Linux numbers it. -/
def erange : Nat := 34

/-- `PROTO_VERSION(hi, lo)` for 16-bit `hi` and `lo`. -/
def protoVersion (hi lo : Nat) : Nat :=
  hi % 2 ^ 16 * 2 ^ 16 + lo % 2 ^ 16

end GpsdJson
