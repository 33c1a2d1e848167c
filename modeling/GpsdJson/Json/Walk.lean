import GpsdJson.Json.Token

/-!
# The token walk on any token array

jsmn's lenient mode leaves whatever tokens it made of a garbled line: the types and sizes
need not lay out any JSON value.  On every token array, whatever its types and sizes:

* `json_token_skip` terminates: `Skips` is the big-step meaning of its recursion and its
  loop, and every call has a (finite) derivation ending at the model's value
  (`Skips.of_jsonTokenSkip`), the only one (`Skips.det`);
* it returns `tid` itself outside `[0, ntok)` and an index in `[tid + 1, ntok]` inside
  (`jsonTokenSkip_outside`, `jsonTokenSkip_inside`);
* `json_object_lookup` returns `INVALID_TOKEN` or the index of a token of the array, of the
  type asked for (`jsonObjectLookup_result`);
* neither reads a token slot from `ntok` on: two contexts that agree on the first `ntok`
  tokens give the same results (`SameTokens`).
-/

namespace GpsdJson

variable {ctx : JsonCtx}

/-! ### Termination of `json_token_skip` -/

/-- The big-step meaning of `json_token_skip`: `Skips ctx n j r` says that skipping `n`
values one after the other from index `j`, as the loop
`for (++tid; len; --len) tid = json_token_skip(ctx, tid);` does, terminates at `r`.  A
call outside `[0, ntok)` returns its index; inside, an object skips `2 * size` values and an
array `size` values after its token, any other token itself, and the result is cut to
`ntok`. -/
inductive Skips (ctx : JsonCtx) : Nat → Int → Int → Prop where
  | done (j : Int) : Skips ctx 0 j j
  | outside {n : Nat} {j r : Int} : ¬ (0 ≤ j ∧ j < ctx.ntok) → Skips ctx n j r →
      Skips ctx (n + 1) j r
  | object {n : Nat} {j r' r : Int} : 0 ≤ j ∧ j < ctx.ntok → (ctx.tokAt j).type = .object →
      Skips ctx (2 * (ctx.tokAt j).size) (j + 1) r' →
      Skips ctx n (if r' > ctx.ntok then ctx.ntok else r') r → Skips ctx (n + 1) j r
  | array {n : Nat} {j r' r : Int} : 0 ≤ j ∧ j < ctx.ntok → (ctx.tokAt j).type = .array →
      Skips ctx (ctx.tokAt j).size (j + 1) r' →
      Skips ctx n (if r' > ctx.ntok then ctx.ntok else r') r → Skips ctx (n + 1) j r
  | leaf {n : Nat} {j r : Int} : 0 ≤ j ∧ j < ctx.ntok → (ctx.tokAt j).type ≠ .object →
      (ctx.tokAt j).type ≠ .array →
      Skips ctx n (if j + 1 > ctx.ntok then ctx.ntok else j + 1) r → Skips ctx (n + 1) j r

/-- The recursion defines a function: a skip ends at one index only. -/
theorem Skips.det {n : Nat} {j r r' : Int} (h : Skips ctx n j r) (h' : Skips ctx n j r') :
  r = r'
  := by
  induction h generalizing r' with
  | done => cases h'; rfl
  | outside hj _ ih =>
    cases h' with
    | outside _ h' => exact ih h'
    | object hj' | array hj' | leaf hj' => exact absurd hj' hj
  | object hj ht _ _ ih₁ ih₂ =>
    cases h' with
    | outside hj' => exact absurd hj hj'
    | object _ _ h₁ h₂ => exact ih₂ (ih₁ h₁ ▸ h₂)
    | array _ ht' => exact absurd (ht.symm.trans ht') (by decide)
    | leaf _ ho => exact absurd ht ho
  | array hj ht _ _ ih₁ ih₂ =>
    cases h' with
    | outside hj' => exact absurd hj hj'
    | object _ ht' => exact absurd (ht.symm.trans ht') (by decide)
    | array _ _ h₁ h₂ => exact ih₂ (ih₁ h₁ ▸ h₂)
    | leaf _ _ ha => exact absurd ht ha
  | leaf hj ho ha _ ih =>
    cases h' with
    | outside hj' => exact absurd hj hj'
    | object _ ht' => exact absurd ht' ho
    | array _ ht' => exact absurd ht' ha
    | leaf _ _ _ h' => exact ih h'

/-- An iterate of a map that never decreases never decreases. -/
theorem le_iterate {g : Int → Int} (hg : ∀ x, x ≤ g x) (n : Nat) (x : Int) :
  x ≤ g^[n] x
  := by
  induction n generalizing x with
  | zero => exact le_rfl
  | succ n ih => exact (hg x).trans (ih (g x))

/-- `json_token_skip` never returns an index before its argument. -/
theorem le_tokenSkip (fuel : Nat) (j : Int) :
  j ≤ tokenSkip ctx fuel j
  := by
  induction fuel generalizing j with
  | zero => exact le_rfl
  | succ fuel ih =>
    rw [tokenSkip]
    split
    · rename_i hj
      have hr : ∀ k, j + 1 ≤ (tokenSkip ctx fuel)^[k] (j + 1) := fun k => le_iterate ih k _
      cases ht : (ctx.tokAt j).type <;> simp only [ht] <;> split <;>
        first | omega | exact Int.le_add_one le_rfl |>.trans (hr _)
    · exact le_rfl

/-- With fuel past `ntok` from `j` on, the model's skip of `n` values has a derivation. -/
theorem Skips.of_tokenSkip (fuel n : Nat) (j : Int) (hf : j < 0 ∨ ctx.ntok < fuel + j) :
  Skips ctx n j ((tokenSkip ctx fuel)^[n] j)
  := by
  induction fuel generalizing n j with
  | zero =>
    have hj : ¬ (0 ≤ j ∧ j < ctx.ntok) := by omega
    induction n with
    | zero => exact .done j
    | succ n ih => exact .outside hj ih
  | succ fuel ihf =>
    induction n generalizing j with
    | zero => exact .done j
    | succ n ihn =>
      rw [Function.iterate_succ_apply]
      by_cases hj : 0 ≤ j ∧ j < ctx.ntok
      · have hnext := ihn (tokenSkip ctx (fuel + 1) j)
          (by have := @le_tokenSkip ctx (fuel + 1) j; omega)
        have hin := fun k => ihf k (j + 1) (by omega)
        rw [GpsdJson.tokenSkip, if_pos hj] at hnext ⊢
        dsimp only at hnext ⊢
        cases ht : (ctx.tokAt j).type
        all_goals simp only [ht] at hnext ⊢
        · exact .leaf hj (by simp [ht]) (by simp [ht]) hnext
        · exact .object hj ht (hin _) hnext
        · exact .array hj ht (hin _) hnext
        · exact .leaf hj (by simp [ht]) (by simp [ht]) hnext
        · exact .leaf hj (by simp [ht]) (by simp [ht]) hnext
      · rw [GpsdJson.tokenSkip, if_neg hj]
        exact .outside hj (ihn j hf)

/-- `json_token_skip` terminates on every token array, and the model gives its result. -/
theorem Skips.of_jsonTokenSkip (tid : Int) :
  Skips ctx 1 tid (jsonTokenSkip ctx tid)
  := Skips.of_tokenSkip (ctx.ntok + 1) 1 tid (by omega)

/-! ### What `json_token_skip` returns -/

theorem jsonTokenSkip_outside {tid : Int} (h : ¬ (0 ≤ tid ∧ tid < ctx.ntok)) :
  jsonTokenSkip ctx tid = tid
  := by
  rw [jsonTokenSkip, GpsdJson.tokenSkip, if_neg h]

theorem jsonTokenSkip_inside {tid : Int} (h : 0 ≤ tid ∧ tid < ctx.ntok) :
  tid + 1 ≤ jsonTokenSkip ctx tid ∧ jsonTokenSkip ctx tid ≤ ctx.ntok
  := by
  have hr : ∀ k, tid + 1 ≤ (tokenSkip ctx ctx.ntok)^[k] (tid + 1) :=
    fun k => le_iterate (le_tokenSkip _) k _
  rw [jsonTokenSkip, GpsdJson.tokenSkip, if_pos h]
  cases ht : (ctx.tokAt tid).type <;> simp only [ht] <;> split <;>
    first | omega | exact ⟨hr _, by omega⟩

/-- An object that claims five members with only two tokens parsed: the skip runs out of
tokens and stops at `ntok`. -/
example : jsonTokenSkip ⟨[], 2, [⟨.object, 0, 0, 5⟩, ⟨.array, 0, 0, 7⟩]⟩ 0 = 2 := by decide

/-- An index that is not before `tid` stays so after a skip. -/
theorem le_jsonTokenSkip (tid : Int) :
  tid ≤ jsonTokenSkip ctx tid
  := le_tokenSkip _ tid

/-! ### What `json_object_lookup` returns -/

theorem lookupMembers_result (key : List UInt8) (what : Int) (len : Nat) (tid : Int)
    (h : 0 ≤ tid) :
  lookupMembers ctx key what len tid = invalidToken ∨
    (1 ≤ lookupMembers ctx key what len tid ∧ lookupMembers ctx key what len tid < ctx.ntok ∧
      (0 ≤ what → (ctx.tokAt (lookupMembers ctx key what len tid)).type.code = what))
  := by
  induction len generalizing tid with
  | zero => exact .inl rfl
  | succ len ih =>
    have hskip := fun t => @le_jsonTokenSkip ctx t
    rw [lookupMembers]
    by_cases hn : tid + 1 < ctx.ntok
    case neg => rw [if_neg hn]; exact .inl rfl
    by_cases hs : (ctx.tokAt tid).type ≠ .string
    · have := hskip tid; have := hskip (jsonTokenSkip ctx tid)
      rw [if_pos hn, if_pos hs, if_neg (by omega)]
      exact ih _ (by omega)
    by_cases hk : key ≠ cstrAt ctx.buf (ctx.tokAt tid).start
    · have := hskip (tid + 1)
      rw [if_pos hn, if_neg hs, if_pos hk, if_neg (by omega)]
      exact ih _ (by omega)
    rw [if_pos hn, if_neg hs, if_neg hk]
    split
    · exact .inr ⟨by omega, hn, fun h => by omega⟩
    · exact .inl rfl

/-- `json_object_lookup` returns `INVALID_TOKEN` or the index of one of the `ntok` tokens,
past the first, whose type is `what` when `what` is a type. -/
theorem jsonObjectLookup_result (tid : Int) (key : List UInt8) (what : Int) :
  jsonObjectLookup ctx tid key what = invalidToken ∨
    (1 ≤ jsonObjectLookup ctx tid key what ∧ jsonObjectLookup ctx tid key what < ctx.ntok ∧
      (0 ≤ what → (ctx.tokAt (jsonObjectLookup ctx tid key what)).type.code = what))
  := by
  rw [jsonObjectLookup]
  split_ifs with h
  · exact .inl rfl
  · exact lookupMembers_result key what _ _ (by omega)

/-! ### The slots from `ntok` on -/

/-- `ctx'` has the text, the token count and the first `ntok` tokens of `ctx`; the slots
from `ntok` on, which still hold tokens of earlier parses, may differ. -/
structure SameTokens (ctx ctx' : JsonCtx) : Prop where
  buf : ctx'.buf = ctx.buf
  ntok : ctx'.ntok = ctx.ntok
  tok : ∀ i : Int, 0 ≤ i → i < ctx.ntok → ctx'.tokAt i = ctx.tokAt i

section Same

variable {ctx' : JsonCtx} (h : SameTokens ctx ctx')
include h

theorem SameTokens.tokenSkip (fuel : Nat) (j : Int) :
  tokenSkip ctx' fuel j = tokenSkip ctx fuel j
  := by
  induction fuel generalizing j with
  | zero => rfl
  | succ fuel ih =>
    have hf : GpsdJson.tokenSkip ctx' fuel = GpsdJson.tokenSkip ctx fuel := funext ih
    rw [GpsdJson.tokenSkip, GpsdJson.tokenSkip, h.ntok, hf]
    split
    · rw [h.tok j (by omega) (by omega)]
    · rfl

theorem SameTokens.jsonTokenSkip (tid : Int) :
  jsonTokenSkip ctx' tid = jsonTokenSkip ctx tid
  := by
  rw [GpsdJson.jsonTokenSkip, GpsdJson.jsonTokenSkip, h.tokenSkip, h.ntok]

theorem SameTokens.lookupMembers (key : List UInt8) (what : Int) (len : Nat) (tid : Int)
    (htid : 0 ≤ tid) :
  lookupMembers ctx' key what len tid = lookupMembers ctx key what len tid
  := by
  induction len generalizing tid with
  | zero => rfl
  | succ len ih =>
    have hskip := fun t => @le_jsonTokenSkip ctx t
    simp only [GpsdJson.lookupMembers, h.ntok, h.buf, h.jsonTokenSkip]
    by_cases hn : tid + 1 < ctx.ntok
    case neg => simp only [if_neg hn]
    simp only [if_pos hn, h.tok tid htid (by omega), h.tok (tid + 1) (by omega) hn]
    by_cases hs : (ctx.tokAt tid).type ≠ .string
    · have h0 : ¬ GpsdJson.jsonTokenSkip ctx (GpsdJson.jsonTokenSkip ctx tid) < 0 := by
        have := hskip tid; have := hskip (GpsdJson.jsonTokenSkip ctx tid); omega
      simp only [if_pos hs, if_neg h0]
      exact ih _ (by omega)
    by_cases hk : key ≠ cstrAt ctx.buf (ctx.tokAt tid).start
    · have h0 : ¬ GpsdJson.jsonTokenSkip ctx (tid + 1) < 0 := by have := hskip (tid + 1); omega
      simp only [if_neg hs, if_pos hk, if_neg h0]
      exact ih _ (by omega)
    simp only [if_neg hs, if_neg hk]

theorem SameTokens.jsonObjectLookup (tid : Int) (key : List UInt8) (what : Int) :
  jsonObjectLookup ctx' tid key what = jsonObjectLookup ctx tid key what
  := by
  rw [GpsdJson.jsonObjectLookup, GpsdJson.jsonObjectLookup, h.ntok]
  by_cases ht : tid < 0 ∨ ctx.ntok ≤ tid
  · have ht' : tid < 0 ∨ ctx.ntok ≤ tid ∨ (ctx.tokAt tid).type ≠ .object := by omega
    have ht'' : tid < 0 ∨ ctx.ntok ≤ tid ∨ (ctx'.tokAt tid).type ≠ .object := by omega
    rw [if_pos ht', if_pos ht'']
  · rw [h.tok tid (by omega) (by omega), h.lookupMembers _ _ _ _ (by omega)]

end Same

/-! ### The walk on any token array -/

/-- On every token array, whatever the types and sizes of its tokens: every call of
`json_token_skip` terminates with the model's value; from `tid` it returns `tid` outside
`[0, ntok)` and an index in `[tid + 1, ntok]` inside; `json_object_lookup` returns
`INVALID_TOKEN` or an index in `[1, ntok)` of a token of type `what` when `what ≥ 0`; and
neither depends on a token slot from `ntok` on. -/
theorem tokenWalk_safe (ctx : JsonCtx) (tid : Int) (key : List UInt8) (what : Int) :
  (∀ t, Skips ctx 1 t (jsonTokenSkip ctx t)) ∧
    (¬ (0 ≤ tid ∧ tid < ctx.ntok) → jsonTokenSkip ctx tid = tid) ∧
    (0 ≤ tid ∧ tid < ctx.ntok →
      tid + 1 ≤ jsonTokenSkip ctx tid ∧ jsonTokenSkip ctx tid ≤ ctx.ntok) ∧
    (jsonObjectLookup ctx tid key what = invalidToken ∨
      (1 ≤ jsonObjectLookup ctx tid key what ∧ jsonObjectLookup ctx tid key what < ctx.ntok ∧
        (0 ≤ what → (ctx.tokAt (jsonObjectLookup ctx tid key what)).type.code = what))) ∧
    (∀ ctx', SameTokens ctx ctx' → jsonTokenSkip ctx' tid = jsonTokenSkip ctx tid ∧
      jsonObjectLookup ctx' tid key what = jsonObjectLookup ctx tid key what)
  := ⟨Skips.of_jsonTokenSkip, jsonTokenSkip_outside, jsonTokenSkip_inside,
    jsonObjectLookup_result tid key what,
    fun _ h => ⟨h.jsonTokenSkip tid, h.jsonObjectLookup tid key what⟩⟩

end GpsdJson
