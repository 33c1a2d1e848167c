import GpsdJson.Json.Token

/-!
# Parsing a record

`json_parse_record` hands the line to jsmn, keeps the parse only when jsmn found tokens and
the first one is an object, and then writes a NUL over the byte at the end offset of every
token whose text is not empty, so that the lookups can treat each token's text as a C
string.  jsmn itself is not part of the driver's sources: `Jsmn` stands for it, and
`jsonParseTokens` is the rest of the function, given what jsmn returned.
-/

namespace GpsdJson

/-- jsmn's `jsmn_parse` on the bytes `buf[0 .. len)`: the number of tokens, or a negative
error code, and the token slots it filled. -/
abbrev Jsmn := List UInt8 → Int × List Token

/-- The loop of `json_parse_record` that writes a NUL at `buf[tok.end]` for each token with
`tok.end > tok.start`. -/
def nulTerminate (buf : List UInt8) : List Token → List UInt8
  | [] => buf
  | t :: ts => nulTerminate (if t.stop > t.start then buf.set t.stop 0 else buf) ts

/-- `json_parse_record` after the call to jsmn, which returned `rc` and the tokens `toks`
for `line`.  The driver's buffer holds `line` followed by the NUL that `gpsd_receive`
stored. -/
def jsonParseTokens (line : List UInt8) (rc : Int) (toks : List Token) : Option JsonCtx :=
  if rc ≤ 0 then none
  else if (toks.getD 0 default).type ≠ .object then none
  else some ⟨nulTerminate (line ++ [0]) (toks.take rc.toNat), rc.toNat, toks⟩

/-- `json_parse_record`. -/
def jsonParseRecord (jsmn : Jsmn) (line : List UInt8) : Option JsonCtx :=
  jsonParseTokens line (jsmn line).1 (jsmn line).2

/-! ### Empty strings -/

/-- For the record `{"a":""}`, jsmn reports the empty string as a token with
`start = end = 6`, the offset of its closing quote.  The pass skips it, so the text the
lookups see there is `"}`, and `json_object_lookup_string` returns `"}` for member `a`
instead of the empty string. -/
theorem jsonParseTokens_empty_string :
  ∃ ctx, jsonParseTokens (cbytes "\x7b\"a\":\"\"\x7d") 3
      [⟨.object, 0, 8, 1⟩, ⟨.string, 2, 3, 1⟩, ⟨.string, 6, 6, 0⟩] = some ctx ∧
    ((cbytes "\x7b\"a\":\"\"\x7d").drop 6).take (6 - 6) = [] ∧
    cstrAt ctx.buf 6 = cbytes "\"\x7d" ∧
    jsonObjectLookupString ctx 0 (cbytes "a") = some (cbytes "\"\x7d")
  := ⟨_, rfl, by decide⟩

end GpsdJson
