import GpsdJson.Basic
import Mathlib.Logic.Function.Iterate

/-!
# Tokens and member lookup

The driver parses each record with jsmn into a flat array of tokens and then walks that
array: `json_token_skip` steps over the value that starts at a token, and
`json_object_lookup` walks the members of an object, comparing each key with the NUL
terminated text at the key's start.  The typed lookups (`json_object_lookup_primitive`,
`_bool`, `_string`, `_string_default`) return that text.

jsmn's header is not part of the driver's sources; the token type and the token record are
taken as jsmn documents them, without the parent link the driver never reads.
-/

namespace GpsdJson

/-- `jsmntype_t`. -/
inductive TokType where
  | undefined
  | object
  | array
  | string
  | primitive
  deriving DecidableEq, Repr, Inhabited

/-- The integer value of a `jsmntype_t`, against which `json_object_lookup` compares its
type selector. -/
def TokType.code : TokType → Int
  | .undefined => 0
  | .object => 1
  | .array => 2
  | .string => 3
  | .primitive => 4

/-- `jsmntok_t`: the type of a token, the offsets of its text in the record and, for an
object or an array, the number of its members or elements. -/
structure Token where
  type : TokType
  start : Nat
  stop : Nat
  size : Nat
  deriving DecidableEq, Repr, Inhabited

/-- `json_ctx`: the record's bytes, the number of tokens of the last parse and the token
slots. -/
structure JsonCtx where
  buf : List UInt8
  ntok : Nat
  tok : List Token
  deriving DecidableEq, Repr

/-- `ctx->tok[tid]`. -/
def JsonCtx.tokAt (ctx : JsonCtx) (tid : Int) : Token :=
  ctx.tok.getD tid.toNat default

/-! ### Skipping a value -/

/-- `json_token_skip`, whose recursion is at most one level deeper per nested compound:
`fuel` bounds that depth.  An object's `size` members are skipped as `2 * size` values, its
keys included. -/
def tokenSkip (ctx : JsonCtx) : Nat → Int → Int
  | 0, tid => tid
  | fuel + 1, tid =>
    if 0 ≤ tid ∧ tid < ctx.ntok then
      let t := ctx.tokAt tid
      let r : Int := match t.type with
        | .object => (tokenSkip ctx fuel)^[2 * t.size] (tid + 1)
        | .array => (tokenSkip ctx fuel)^[t.size] (tid + 1)
        | _ => tid + 1
      if r > ctx.ntok then ctx.ntok else r
    else tid

/-- `json_token_skip`: every chain of nested calls visits strictly increasing indices below
`ntok`, so `ntok + 1` levels are enough. -/
def jsonTokenSkip (ctx : JsonCtx) (tid : Int) : Int :=
  tokenSkip ctx (ctx.ntok + 1) tid

/-! ### Looking up a member -/

/-- The loop of `json_object_lookup` over the `len` members left, `tid` being the index of
the next member's key. -/
def lookupMembers (ctx : JsonCtx) (key : List UInt8) (what : Int) : Nat → Int → Int
  | 0, _ => invalidToken
  | len + 1, tid =>
    if tid + 1 < ctx.ntok then
      if (ctx.tokAt tid).type ≠ .string then
        let next := jsonTokenSkip ctx (jsonTokenSkip ctx tid)
        if next < 0 then invalidToken else lookupMembers ctx key what len next
      else if key ≠ cstrAt ctx.buf (ctx.tokAt tid).start then
        let next := jsonTokenSkip ctx (tid + 1)
        if next < 0 then invalidToken else lookupMembers ctx key what len next
      else if what < 0 ∨ what = (ctx.tokAt (tid + 1)).type.code then tid + 1
      else invalidToken
    else invalidToken

/-- `json_object_lookup`: the index of the value of member `key` of the object at `tid`,
when that value has type `what` (any type when `what < 0`), or `INVALID_TOKEN`. -/
def jsonObjectLookup (ctx : JsonCtx) (tid : Int) (key : List UInt8) (what : Int) : Int :=
  if tid < 0 ∨ ctx.ntok ≤ tid ∨ (ctx.tokAt tid).type ≠ .object then invalidToken
  else lookupMembers ctx key what (ctx.tokAt tid).size (tid + 1)

/-- `json_object_lookup_primitive`: the text at the start of the primitive value of
member `key`, or `NULL`. -/
def jsonObjectLookupPrimitive (ctx : JsonCtx) (tid : Int) (key : List UInt8) :
    Option (List UInt8) :=
  let r := jsonObjectLookup ctx tid key TokType.primitive.code
  if r ≠ invalidToken then some (cstrAt ctx.buf (ctx.tokAt r).start) else none

/-- `json_object_lookup_bool`: `1` for a primitive starting with `t`, `0` for one
starting with `f`, `-1` otherwise. -/
def jsonObjectLookupBool (ctx : JsonCtx) (tid : Int) (key : List UInt8) : Int :=
  match (jsonObjectLookupPrimitive ctx tid key).bind List.head? with
  | some 0x74 => 1
  | some 0x66 => 0
  | _ => -1

/-- `json_object_lookup_string`: the text of the string value of member `key`, or
`NULL`. -/
def jsonObjectLookupString (ctx : JsonCtx) (tid : Int) (key : List UInt8) :
    Option (List UInt8) :=
  let r := jsonObjectLookup ctx tid key TokType.string.code
  if r ≠ invalidToken then some (cstrAt ctx.buf (ctx.tokAt r).start) else none

/-- `json_object_lookup_string_default`. -/
def jsonObjectLookupStringDefault (ctx : JsonCtx) (tid : Int) (key dflt : List UInt8) :
    List UInt8 :=
  (jsonObjectLookupString ctx tid key).getD dflt

end GpsdJson
