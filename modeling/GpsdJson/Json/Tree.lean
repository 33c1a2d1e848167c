import GpsdJson.Json.Token

/-!
# Well-formed token trees

A well-formed parse of a JSON value is the pre-order layout of a tree: the token of a
compound is followed by the tokens of its elements, or by the key token and the value
tokens of each of its members, and its `size` is the number of elements or members.
`Tree` is such a tree with the offsets of every token, and `Tree.tokens` its layout.

On a layout `json_token_skip` steps over exactly the tokens of one value, whatever the
nesting (`tokenSkip_tree`), and `json_object_lookup` on the root object finds the first
top-level member with the key and never a key of a nested value
(`jsonObjectLookup_tree`).
-/

namespace GpsdJson

/-- The token of a member key: a string, whose `size` jsmn sets to the number of values
that follow it. -/
structure Key where
  start : Nat
  stop : Nat
  size : Nat
  deriving DecidableEq, Repr

/-- The string token of a key. -/
def Key.token (k : Key) : Token := ⟨.string, k.start, k.stop, k.size⟩

/-- A JSON value with the offsets of its tokens: a string, a primitive, an array of
values, or an object of members. -/
inductive Tree where
  | str (start stop size : Nat)
  | prim (start stop size : Nat)
  | array (start stop : Nat) (items : List Tree)
  | object (start stop : Nat) (members : List (Key × Tree))
  deriving Repr

/-- The first token of a value. -/
def Tree.token : Tree → Token
  | .str a b n => ⟨.string, a, b, n⟩
  | .prim a b n => ⟨.primitive, a, b, n⟩
  | .array a b items => ⟨.array, a, b, items.length⟩
  | .object a b ms => ⟨.object, a, b, ms.length⟩

mutual
/-- The tokens of a value in jsmn's order. -/
def Tree.tokens : Tree → List Token
  | .str a b n => [⟨.string, a, b, n⟩]
  | .prim a b n => [⟨.primitive, a, b, n⟩]
  | .array a b items => ⟨.array, a, b, items.length⟩ :: itemsTokens items
  | .object a b ms => ⟨.object, a, b, ms.length⟩ :: membersTokens ms

/-- The tokens of the elements of an array. -/
def itemsTokens : List Tree → List Token
  | [] => []
  | v :: vs => v.tokens ++ itemsTokens vs

/-- The tokens of the members of an object, each key followed by its value. -/
def membersTokens : List (Key × Tree) → List Token
  | [] => []
  | (k, v) :: ms => k.token :: (v.tokens ++ membersTokens ms)
end

theorem Tree.tokens_eq_cons (t : Tree) :
  ∃ ts, t.tokens = t.token :: ts
  := by
  cases t <;> simp [Tree.tokens, Tree.token]

theorem Tree.length_tokens_pos (t : Tree) :
  0 < t.tokens.length
  := by
  obtain ⟨ts, h⟩ := t.tokens_eq_cons
  rw [h]
  exact Nat.succ_pos _

/-! ### Placing a layout in a context -/

/-- The tokens `ts` stand at index `i` of the context and end at or before `ntok`. -/
def Placed (ctx : JsonCtx) (i : Nat) (ts : List Token) : Prop :=
  (∃ post, ctx.tok.drop i = ts ++ post) ∧ i + ts.length ≤ ctx.ntok

variable {ctx : JsonCtx}

theorem Placed.append {i : Nat} {xs ys : List Token} (h : Placed ctx i (xs ++ ys)) :
  Placed ctx i xs ∧ Placed ctx (i + xs.length) ys
  := by
  obtain ⟨⟨post, hp⟩, hn⟩ := h
  simp only [List.length_append] at hn
  refine ⟨⟨⟨ys ++ post, by simp [hp]⟩, by omega⟩, ⟨⟨post, ?_⟩, by omega⟩⟩
  rw [← List.drop_drop, hp, List.append_assoc, List.drop_left]

theorem Placed.cons {i : Nat} {t : Token} {ts : List Token} (h : Placed ctx i (t :: ts)) :
  ctx.tokAt i = t ∧ i < ctx.ntok ∧ Placed ctx (i + 1) ts
  := by
  obtain ⟨hx, hy⟩ := @Placed.append ctx i [t] ts h
  obtain ⟨⟨post, hp⟩, hn⟩ := hx
  refine ⟨?_, by simp at hn; omega, hy⟩
  have h0 : ctx.tok[i]? = some t := by
    rw [← Nat.add_zero i, ← List.getElem?_drop, hp, List.singleton_append, List.getElem?_cons_zero]
  simp [JsonCtx.tokAt, List.getD_eq_getElem?_getD, h0]

/-! ### Skipping a value -/

/-- A string or a primitive is skipped as its one token. -/
theorem leaf_skip {fuel i : Nat} {t : Token} {ts : List Token} (h : Placed ctx i (t :: ts))
    (hleaf : t.type = .string ∨ t.type = .primitive) :
  tokenSkip ctx (fuel + 1) i = ((i + 1 : Nat) : Int)
  := by
  obtain ⟨ht, hi, -⟩ := Placed.cons h
  rw [tokenSkip, if_pos ⟨by omega, by exact_mod_cast hi⟩, ht]
  rcases hleaf with hs | hs <;> simp only [hs] <;> rw [if_neg (by omega)] <;> rfl

/-- An object token is skipped with its `2 * size` member values, keys included. -/
private theorem object_skip {fuel i n : Nat} {t : Token}
    (ht : ctx.tokAt i = t) (hi : i < ctx.ntok) (htype : t.type = .object)
    (hloop : (tokenSkip ctx fuel)^[2 * t.size] ((i + 1 : Nat) : Int) = ((i + n : Nat) : Int))
    (hn : i + n ≤ ctx.ntok) :
  tokenSkip ctx (fuel + 1) i = ((i + n : Nat) : Int)
  := by
  rw [tokenSkip, if_pos ⟨by omega, by exact_mod_cast hi⟩, ht]
  push_cast at hloop
  simp only [htype, hloop]
  rw [if_neg (by omega)]
  push_cast
  rfl

/-- An array token is skipped with its `size` element values. -/
private theorem array_skip {fuel i n : Nat} {t : Token}
    (ht : ctx.tokAt i = t) (hi : i < ctx.ntok) (htype : t.type = .array)
    (hloop : (tokenSkip ctx fuel)^[t.size] ((i + 1 : Nat) : Int) = ((i + n : Nat) : Int))
    (hn : i + n ≤ ctx.ntok) :
  tokenSkip ctx (fuel + 1) i = ((i + n : Nat) : Int)
  := by
  rw [tokenSkip, if_pos ⟨by omega, by exact_mod_cast hi⟩, ht]
  push_cast at hloop
  simp only [htype, hloop]
  rw [if_neg (by omega)]
  push_cast
  rfl

mutual
/-- `json_token_skip` steps over the tokens of one value, given as much fuel as the value
has tokens. -/
theorem tokenSkip_tree :
    (t : Tree) → (fuel i : Nat) → t.tokens.length ≤ fuel → Placed ctx i t.tokens →
    tokenSkip ctx fuel i = ((i + t.tokens.length : Nat) : Int)
  | .str a b n, fuel + 1, i, _, h => leaf_skip h (.inl rfl)
  | .prim a b n, fuel + 1, i, _, h => leaf_skip h (.inr rfl)
  | .array a b items, fuel + 1, i, hf, h => by
    obtain ⟨ht, hi, hrest⟩ := Placed.cons h
    simp only [Tree.tokens, List.length_cons] at hf h ⊢
    refine array_skip ht hi rfl ?_ h.2
    rw [items_skip items fuel (i + 1) (by omega) hrest]
    congr 1
    omega
  | .object a b ms, fuel + 1, i, hf, h => by
    obtain ⟨ht, hi, hrest⟩ := Placed.cons h
    simp only [Tree.tokens, List.length_cons] at hf h ⊢
    refine object_skip ht hi rfl ?_ h.2
    rw [members_skip ms fuel (i + 1) (by omega) hrest]
    congr 1
    omega

/-- Skipping the elements of an array one value after the other. -/
theorem items_skip :
    (items : List Tree) → (fuel i : Nat) → (itemsTokens items).length ≤ fuel →
    Placed ctx i (itemsTokens items) →
    (tokenSkip ctx fuel)^[items.length] i = ((i + (itemsTokens items).length : Nat) : Int)
  | [], _, i, _, _ => by simp [itemsTokens]
  | v :: vs, fuel, i, hf, h => by
    simp only [itemsTokens, List.length_append] at hf h ⊢
    obtain ⟨hv, hvs⟩ := Placed.append h
    rw [List.length_cons, Function.iterate_succ_apply,
      tokenSkip_tree v fuel i (by omega) hv, items_skip vs fuel _ (by omega) hvs, Nat.add_assoc]

/-- Skipping the members of an object as twice as many values, each key a string. -/
theorem members_skip :
    (ms : List (Key × Tree)) → (fuel i : Nat) → (membersTokens ms).length ≤ fuel →
    Placed ctx i (membersTokens ms) →
    (tokenSkip ctx fuel)^[2 * ms.length] i = ((i + (membersTokens ms).length : Nat) : Int)
  | [], _, i, _, _ => by simp [membersTokens]
  | (k, v) :: ms, fuel + 1, i, hf, h => by
    simp only [membersTokens, List.length_cons, List.length_append] at hf h ⊢
    obtain ⟨-, -, hrest⟩ := Placed.cons h
    obtain ⟨hv, hms⟩ := Placed.append hrest
    rw [Nat.mul_succ, Function.iterate_add_apply, Function.iterate_succ_apply,
      Function.iterate_succ_apply, Function.iterate_zero_apply, leaf_skip h (.inl rfl),
      tokenSkip_tree v (fuel + 1) (i + 1) (by omega) hv,
      members_skip ms (fuel + 1) _ (by omega) hms]
    congr 1
    omega
end

/-! ### The values of a layout -/

mutual
/-- The values of a tree laid out from index `i`, each with its index: the tree itself,
then the values of its elements, or of its members' values (never their keys). -/
def Tree.values : Tree → Nat → List (Nat × Tree)
  | .str a b n, i => [(i, .str a b n)]
  | .prim a b n, i => [(i, .prim a b n)]
  | .array a b items, i => (i, .array a b items) :: itemsValues items (i + 1)
  | .object a b ms, i => (i, .object a b ms) :: membersValues ms (i + 1)

/-- The values of the elements of an array laid out from index `i`. -/
def itemsValues : List Tree → Nat → List (Nat × Tree)
  | [], _ => []
  | v :: vs, i => v.values i ++ itemsValues vs (i + v.tokens.length)

/-- The values of the members of an object laid out from index `i`, each after its key. -/
def membersValues : List (Key × Tree) → Nat → List (Nat × Tree)
  | [], _ => []
  | (_, v) :: ms, i => v.values (i + 1) ++ membersValues ms (i + 1 + v.tokens.length)
end

mutual
/-- Every value of a placed layout is placed at its index. -/
theorem Tree.placed_of_values :
    (t : Tree) → (i j : Nat) → (u : Tree) → (j, u) ∈ t.values i → Placed ctx i t.tokens →
    Placed ctx j u.tokens
  | .str a b n, i, j, u, hu, h => by
    simp only [Tree.values, List.mem_singleton, Prod.mk.injEq] at hu
    obtain ⟨rfl, rfl⟩ := hu
    exact h
  | .prim a b n, i, j, u, hu, h => by
    simp only [Tree.values, List.mem_singleton, Prod.mk.injEq] at hu
    obtain ⟨rfl, rfl⟩ := hu
    exact h
  | .array a b items, i, j, u, hu, h => by
    simp only [Tree.values, List.mem_cons, Prod.mk.injEq] at hu
    rcases hu with ⟨rfl, rfl⟩ | hu
    · exact h
    · simp only [Tree.tokens] at h
      exact itemsValues_placed items (i + 1) j u hu (Placed.cons h).2.2
  | .object a b ms, i, j, u, hu, h => by
    simp only [Tree.values, List.mem_cons, Prod.mk.injEq] at hu
    rcases hu with ⟨rfl, rfl⟩ | hu
    · exact h
    · simp only [Tree.tokens] at h
      exact membersValues_placed ms (i + 1) j u hu (Placed.cons h).2.2

theorem itemsValues_placed :
    (items : List Tree) → (i j : Nat) → (u : Tree) → (j, u) ∈ itemsValues items i →
    Placed ctx i (itemsTokens items) → Placed ctx j u.tokens
  | [], _, _, _, hu, _ => by simp [itemsValues] at hu
  | v :: vs, i, j, u, hu, h => by
    simp only [itemsValues, itemsTokens, List.mem_append] at hu h
    obtain ⟨hv, hvs⟩ := Placed.append h
    rcases hu with hu | hu
    · exact v.placed_of_values i j u hu hv
    · exact itemsValues_placed vs _ j u hu hvs

theorem membersValues_placed :
    (ms : List (Key × Tree)) → (i j : Nat) → (u : Tree) → (j, u) ∈ membersValues ms i →
    Placed ctx i (membersTokens ms) → Placed ctx j u.tokens
  | [], _, _, _, hu, _ => by simp [membersValues] at hu
  | (k, v) :: ms, i, j, u, hu, h => by
    simp only [membersValues, membersTokens, List.mem_append] at hu h
    obtain ⟨hv, hms⟩ := Placed.append (Placed.cons h).2.2
    rcases hu with hu | hu
    · exact v.placed_of_values (i + 1) j u hu hv
    · exact membersValues_placed ms _ j u hu hms
end

/-- On a well-formed parse, `json_token_skip` from the root, from an element of an array or
from the value of a member returns the index just past that value: its index plus the
number of its tokens, its own and, for a compound, those of every key and nested value. -/
theorem jsonTokenSkip_value (ctx : JsonCtx) (root : Tree) (rest : List Token)
    (htok : ctx.tok = root.tokens ++ rest) (hn : root.tokens.length ≤ ctx.ntok) (i : Nat)
    (t : Tree) (hi : (i, t) ∈ root.values 0) :
  jsonTokenSkip ctx i = ((i + t.tokens.length : Nat) : Int)
  := by
  have h : Placed ctx i t.tokens :=
    root.placed_of_values 0 i t hi ⟨⟨rest, by simp [htok]⟩, by omega⟩
  exact tokenSkip_tree t (ctx.ntok + 1) i (by have := h.2; omega) h

/-- In the record `{"a":[1,{"b":2}],"c":3}` the object `{"b":2}`, the second element of
the array, stands at index 4 and spans three tokens, so the skip from it lands on the key
`c` at index 7. -/
theorem jsonTokenSkip_value_element :
  jsonTokenSkip
      ⟨cbytes "\x7b\"a\":[1,\x7b\"b\":2\x7d],\"c\":3\x7d", 9,
        (Tree.object 0 23 [(⟨2, 3, 1⟩, .array 5 16 [.prim 6 7 0,
          .object 8 15 [(⟨10, 11, 1⟩, .prim 13 14 0)]]), (⟨18, 19, 1⟩, .prim 21 22 0)]).tokens⟩ 4
    = 7
  := (jsonTokenSkip_value _ (.object 0 23 [(⟨2, 3, 1⟩, .array 5 16 [.prim 6 7 0,
          .object 8 15 [(⟨10, 11, 1⟩, .prim 13 14 0)]]), (⟨18, 19, 1⟩, .prim 21 22 0)])
      [] (by simp) (by decide) 4 (.object 8 15 [(⟨10, 11, 1⟩, .prim 13 14 0)])
      (by simp [Tree.values, itemsValues, membersValues, Tree.tokens, itemsTokens,
        membersTokens])).trans (by decide)

/-! ### Looking up a member -/

/-- The lookup of member `k` over the members of an object whose first key token is at
index `i`: the index of the value of the first member whose key text (the NUL-terminated
text at the key's start) is `k`, if that value has type `what`, any type when `what < 0`. -/
def findMember (buf k : List UInt8) (what : Int) : List (Key × Tree) → Nat → Int
  | [], _ => invalidToken
  | (key, v) :: ms, i =>
    if cstrAt buf key.start = k then
      if what < 0 ∨ what = v.token.type.code then ((i + 1 : Nat) : Int) else invalidToken
    else findMember buf k what ms (i + 1 + v.tokens.length)

/-- The loop of `json_object_lookup` over the members of an object is `findMember`. -/
theorem lookupMembers_tree (k : List UInt8) (what : Int) :
    (ms : List (Key × Tree)) → (i : Nat) → Placed ctx i (membersTokens ms) →
    lookupMembers ctx k what ms.length i = findMember ctx.buf k what ms i
  | [], _, _ => rfl
  | (key, v) :: ms, i, h => by
    simp only [membersTokens] at h
    obtain ⟨hk, -, hrest⟩ := Placed.cons h
    obtain ⟨hv, hms⟩ := Placed.append hrest
    obtain ⟨ts, hvt⟩ := v.tokens_eq_cons
    have hvpos := v.length_tokens_pos
    have hval : ctx.tokAt ((i : Int) + 1) = v.token := by
      rw [hvt] at hv
      exact_mod_cast (Placed.cons hv).1
    have hskip : jsonTokenSkip ctx ((i : Int) + 1) = ((i + 1 + v.tokens.length : Nat) : Int) := by
      have := tokenSkip_tree v (ctx.ntok + 1) (i + 1) (by have := hv.2; omega) hv
      exact_mod_cast this
    have hlen := hv.2
    rw [List.length_cons, lookupMembers, if_pos (by omega), hk, if_neg (by simp [Key.token]),
      findMember]
    simp only [Key.token]
    by_cases hkey : cstrAt ctx.buf key.start = k
    · rw [if_neg (by simp [hkey]), if_pos hkey, hval]
      push_cast
      rfl
    · rw [if_pos (Ne.symm hkey), if_neg hkey, hskip, if_neg (by omega)]
      exact lookupMembers_tree k what ms _ hms

/-- On a well-formed parse of an object, `json_object_lookup` at the root returns the index
of the value of the first top-level member whose key text is `k`, when that value has type
`what` (or `what < 0`), and `INVALID_TOKEN` when there is no such member or its value has
another type.  Keys inside nested values are never compared. -/
theorem jsonObjectLookup_tree (ctx : JsonCtx) (a b : Nat) (ms : List (Key × Tree))
    (rest : List Token) (htok : ctx.tok = (Tree.object a b ms).tokens ++ rest)
    (hn : ctx.ntok = (Tree.object a b ms).tokens.length) (k : List UInt8) (what : Int) :
  jsonObjectLookup ctx 0 k what = findMember ctx.buf k what ms 1
  := by
  have h : Placed ctx 0 (Tree.object a b ms).tokens := ⟨⟨rest, by simp [htok]⟩, by omega⟩
  simp only [Tree.tokens] at h
  obtain ⟨ht, hi, hms⟩ := Placed.cons h
  rw [jsonObjectLookup, if_neg (by simp only [Nat.cast_zero] at ht; simp [ht]; omega)]
  simp only [Nat.cast_zero] at ht
  rw [ht]
  exact lookupMembers_tree k what ms 1 hms

/-- In the record `{"a":{"a":1},"b":2}` the value of `b` is token 6, after the five tokens
of the first member. -/
theorem jsonObjectLookup_tree_nested :
  jsonObjectLookup
      ⟨cbytes "\x7b\"a\x00:\x7b\"a\x00:1\x00\x00\"b\x00:2\x00\x00", 7,
        (Tree.object 0 19 [(⟨2, 3, 1⟩, .object 5 12 [(⟨7, 8, 1⟩, .prim 10 11 0)]),
          (⟨14, 15, 1⟩, .prim 17 18 0)]).tokens⟩ 0 (cbytes "b") (-1) = 6
  := (jsonObjectLookup_tree _ 0 19
      [(⟨2, 3, 1⟩, .object 5 12 [(⟨7, 8, 1⟩, .prim 10 11 0)]), (⟨14, 15, 1⟩, .prim 17 18 0)]
      [] (by simp) rfl _ _).trans (by decide)

end GpsdJson
