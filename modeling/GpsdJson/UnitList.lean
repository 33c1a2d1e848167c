import GpsdJson.Lifecycle

/-!
# The unit list

Along every run of calls the refclock framework may make, `gpsd_start`, `gpsd_shutdown`,
the timers and the receive handler keep the unit list in order: the listed units have
distinct unit numbers, every started peer points to a listed unit, and every listed unit
counts in `refcount` exactly the started peers that point to it, at least one
(`lifeRun_listInv`).  What they do not keep in order is `up->pps_peer`, which shutting
down the secondary peer leaves naming it.

Each way a call can change the list is one lemma over lists (`ListInv.update` for a unit
replaced in place, `ListInv.alloc`, `ListInv.release`, `ListInv.free`); each entry point is
assembled from them (`ListInv.start`, `ListInv.shutdown`, `ListInv.timer`), and
`ListInv.run` carries the invariant along a run.
-/

namespace GpsdJson

/-! ### Keyed lists -/

theorem mem_of_lookup_eq_some {α β : Type} [DecidableEq α] {l : List (α × β)} {k : α} {b : β}
    (h : l.lookup k = some b) :
  (k, b) ∈ l
  := by
  obtain ⟨l₁, l₂, rfl, -⟩ := List.lookup_eq_some_iff.mp h
  simp

theorem lookup_of_mem {α β : Type} [DecidableEq α] {l : List (α × β)} {a : α} {b : β}
    (hl : (l.map Prod.fst).Nodup) (hab : (a, b) ∈ l) :
  l.lookup a = some b
  := by
  obtain ⟨b', hb'⟩ := Option.isSome_iff_exists.mp
    (List.lookup_isSome_iff.mpr ⟨_, hab, beq_self_eq_true a⟩)
  rw [hb', (Prod.mk.inj (List.inj_on_of_nodup_map hl hab (mem_of_lookup_eq_some hb') rfl)).2]

/-- Dropping the entry of key `a` from a list with distinct keys uncounts that entry. -/
theorem countP_filter_key {α β : Type} [DecidableEq α] (q : α × β → Bool) {l : List (α × β)}
    (hl : (l.map Prod.fst).Nodup) {a : α} {b : β} (hab : (a, b) ∈ l) :
  (l.filter (·.1 ≠ a)).countP q + (if q (a, b) then 1 else 0) = l.countP q
  := by
  induction l with
  | nil => simp at hab
  | cons x l ih =>
    rw [List.map_cons, List.nodup_cons] at hl
    rcases List.mem_cons.mp hab with rfl | hab
    · have hl' : l.filter (·.1 ≠ a) = l := List.filter_eq_self.mpr fun y hy =>
        decide_eq_true fun h => hl.1 (show a ∈ _ from h ▸ List.mem_map_of_mem Prod.fst hy)
      rw [List.filter_cons_of_neg (by simp), hl', List.countP_cons]
    · have hx : x.1 ≠ a := fun h => hl.1 (h ▸ List.mem_map_of_mem Prod.fst hab)
      have := ih hl.2 hab
      simp only [List.filter_cons, hx, ne_eq, not_false_eq_true, decide_True, if_true,
        List.countP_cons] at this ⊢
      omega

theorem nodup_map_append_singleton {α β : Type} (f : α → β) {l : List α} {a : α}
    (hl : (l.map f).Nodup) (ha : ∀ x ∈ l, f x ≠ f a) :
  ((l ++ [a]).map f).Nodup
  := by
  rw [List.map_append, List.map_singleton, ← List.concat_eq_append]
  exact hl.concat fun hm => by
    obtain ⟨x, hx, he⟩ := List.mem_map.mp hm
    exact ha x hx he

/-- The entry of key `k` replaced by `(k, v)`, as `World.setUnit` and `World.setProc` do. -/
def setEntry {α β : Type} [DecidableEq α] (l : List (α × β)) (k : α) (v : β) : List (α × β) :=
  l.map fun p => if p.1 = k then (k, v) else p

theorem mem_setEntry {α β : Type} [DecidableEq α] {l : List (α × β)} {k : α} {v : β}
    {p : α × β} (hp : p ∈ setEntry l k v) :
  ∃ p₀ ∈ l, (p₀.1 = k ∧ p = (k, v)) ∨ (p₀.1 ≠ k ∧ p = p₀)
  := by
  obtain ⟨p₀, hp₀, rfl⟩ := List.mem_map.mp hp
  by_cases he : p₀.1 = k
  · exact ⟨p₀, hp₀, .inl ⟨he, by simp [he]⟩⟩
  · exact ⟨p₀, hp₀, .inr ⟨he, by simp [he]⟩⟩

theorem map_fst_setEntry {α β : Type} [DecidableEq α] (l : List (α × β)) (k : α) (v : β) :
  (setEntry l k v).map Prod.fst = l.map Prod.fst
  := by
  rw [setEntry, List.map_map]
  exact List.map_congr_left fun p _ => by by_cases he : p.1 = k <;> simp [he]

/-! ### The invariant -/

/-- How many of the started peers `peers` point to the unit with allocation number `id`. -/
def users (peers : List (PeerId × Proc)) (id : Nat) : Nat :=
  peers.countP fun q => q.2.unitptr = some id

/-- The invariant of a unit list `units`, the next allocation number `n` and the started
peers `peers`: allocation numbers are distinct and below `n`; unit numbers are distinct; the
started peers are distinct and each points to a listed unit; and each listed unit's
`refcount` counts exactly the started peers that point to it, at least one. -/
structure ListInv (units : List (Nat × GpsdUnit)) (n : Nat) (peers : List (PeerId × Proc)) :
    Prop where
  ids : (units.map Prod.fst).Nodup
  fresh : ∀ p ∈ units, p.1 < n
  numbers : (units.map fun p => p.2.unit).Nodup
  distinct : (peers.map Prod.fst).Nodup
  unitptr : ∀ q ∈ peers, ∃ p ∈ units, q.2.unitptr = some p.1
  refcount : ∀ p ∈ units, p.2.refcount = users peers p.1 ∧ 0 < p.2.refcount

theorem ListInv.init :
  ListInv [] 0 []
  := ⟨List.nodup_nil, by simp, List.nodup_nil, List.nodup_nil, by simp, by simp⟩

section Steps

variable {units : List (Nat × GpsdUnit)} {n : Nat} {peers : List (PeerId × Proc)}

theorem ListInv.key (h : ListInv units n peers) {p : Nat × GpsdUnit} {id : Nat} {up : GpsdUnit}
    (hp : p ∈ units) (hid : (id, up) ∈ units) (he : p.1 = id) :
  p = (id, up)
  := List.inj_on_of_nodup_map h.ids hp hid he

theorem ListInv.map_unit_setEntry (h : ListInv units n peers) {id : Nat} {up up' : GpsdUnit}
    (hid : (id, up) ∈ units) (hu : up'.unit = up.unit) :
  (setEntry units id up').map (fun p => p.2.unit) = units.map fun p => p.2.unit
  := by
  rw [setEntry, List.map_map]
  refine List.map_congr_left fun p hp => ?_
  by_cases he : p.1 = id
  · simp [he, h.key hp hid he, hu]
  · simp [he]

/-- The general step: the unit of allocation number `id` replaced by one with the same
number, and the started peers replaced by `peers'`, distinct and pointing to listed units,
with the same users for every other unit and the replaced unit's count. -/
theorem ListInv.update (h : ListInv units n peers) {id : Nat} {up up' : GpsdUnit}
    {peers' : List (PeerId × Proc)} (hid : (id, up) ∈ units) (hu : up'.unit = up.unit)
    (hd : (peers'.map Prod.fst).Nodup) (hptr : ∀ q ∈ peers', ∃ p ∈ units, q.2.unitptr = some p.1)
    (hother : ∀ p ∈ units, p.1 ≠ id → users peers' p.1 = users peers p.1)
    (hr : up'.refcount = users peers' id ∧ 0 < up'.refcount) :
  ListInv (setEntry units id up') n peers'
  := by
  refine ⟨by rw [map_fst_setEntry]; exact h.ids, fun p hp => ?_,
    by rw [h.map_unit_setEntry hid hu]; exact h.numbers, hd, fun q hq => ?_, fun p hp => ?_⟩
  · obtain ⟨p₀, hp₀, ⟨he, rfl⟩ | ⟨-, rfl⟩⟩ := mem_setEntry hp
    · exact he ▸ h.fresh p₀ hp₀
    · exact h.fresh p hp₀
  · obtain ⟨p, hp, hq'⟩ := hptr q hq
    refine ⟨_, List.mem_map_of_mem _ hp, ?_⟩
    by_cases he : p.1 = id <;> simp [he, hq']
  · obtain ⟨p₀, hp₀, ⟨-, rfl⟩ | ⟨hne, rfl⟩⟩ := mem_setEntry hp
    · exact hr
    · rw [hother p hp₀ hne]
      exact h.refcount p hp₀

/-- Replacing a unit by one with the same number and count keeps the invariant. -/
theorem ListInv.replace (h : ListInv units n peers) {id : Nat} {up up' : GpsdUnit}
    (hid : (id, up) ∈ units) (hu : up'.unit = up.unit) (hr : up'.refcount = up.refcount) :
  ListInv (setEntry units id up') n peers
  := h.update hid hu h.distinct h.unitptr (fun _ _ _ => rfl) (hr ▸ h.refcount _ hid)

@[simp] theorem users_append (l l' : List (PeerId × Proc)) (id : Nat) :
  users (l ++ l') id = users l id + users l' id
  := List.countP_append _ l l'

@[simp] theorem users_singleton (peer : PeerId) (pp : Proc) (id : Nat) :
  users [(peer, pp)] id = if pp.unitptr = some id then 1 else 0
  := by
  simp [users, List.countP_cons]

/-- No started peer points past the last allocation. -/
theorem ListInv.users_next (h : ListInv units n peers) :
  users peers n = 0
  := List.countP_eq_zero.mpr fun q hq hn => by
    obtain ⟨p, hp, hq'⟩ := h.unitptr q hq
    have := h.fresh p hp
    simp [hq'] at hn
    omega

/-- Replacing the refclock data of a started peer by data pointing to the same unit keeps
the invariant. -/
theorem ListInv.setProc (h : ListInv units n peers) {peer : PeerId} {pp pp' : Proc}
    (hp : (peer, pp) ∈ peers) (hu : pp'.unitptr = pp.unitptr) :
  ListInv units n (setEntry peers peer pp')
  := by
  have hptr : ∀ q ∈ peers, (if q.1 = peer then (peer, pp') else q).2.unitptr = q.2.unitptr :=
    fun q hq => by
      by_cases he : q.1 = peer
      · simp [he, List.inj_on_of_nodup_map h.distinct hq hp he, hu]
      · simp [he]
  have husers : ∀ id, users (setEntry peers peer pp') id = users peers id := fun id => by
    rw [users, users, setEntry, List.countP_map]
    exact List.countP_congr fun q hq => by simp [hptr q hq]
  refine ⟨h.ids, h.fresh, h.numbers, by rw [map_fst_setEntry]; exact h.distinct,
    fun q' hq' => ?_, fun p hp => husers p.1 ▸ h.refcount p hp⟩
  obtain ⟨q, hq, rfl⟩ := List.mem_map.mp hq'
  rw [hptr q hq]
  exact h.unitptr q hq

/-- A later next allocation number keeps the invariant. -/
theorem ListInv.mono (h : ListInv units n peers) {n' : Nat} (hn : n ≤ n') :
  ListInv units n' peers
  := { h with fresh := fun p hp => Nat.lt_of_lt_of_le (h.fresh p hp) hn }

/-- A new unit with a fresh allocation number and a new unit number, counting one new
peer that points to it, keeps the invariant. -/
theorem ListInv.alloc (h : ListInv units n peers) {up : GpsdUnit} {peer : PeerId}
    (hnum : ∀ p ∈ units, p.2.unit ≠ up.unit) (hpeer : ∀ q ∈ peers, q.1 ≠ peer)
    (hr : up.refcount = 1) :
  ListInv (units ++ [(n, up)]) (n + 1) (peers ++ [(peer, ⟨some n, -1, false⟩)])
  := by
  refine ⟨nodup_map_append_singleton _ h.ids fun p hp => (h.fresh p hp).ne, fun p hp => ?_,
    nodup_map_append_singleton _ h.numbers hnum, nodup_map_append_singleton _ h.distinct hpeer,
    fun q hq => ?_, fun p hp => ?_⟩
  · rcases List.mem_append.mp hp with hp | hp
    · exact Nat.lt_succ_of_lt (h.fresh p hp)
    · simp [List.mem_singleton.mp hp]
  · rcases List.mem_append.mp hq with hq | hq
    · obtain ⟨p, hp, hq'⟩ := h.unitptr q hq
      exact ⟨p, List.mem_append_left _ hp, hq'⟩
    · exact ⟨(n, up), by simp, by simp [List.mem_singleton.mp hq]⟩
  · rcases List.mem_append.mp hp with hp | hp
    · have := h.fresh p hp
      simpa [show n ≠ p.1 by omega] using h.refcount p hp
    · simp [List.mem_singleton.mp hp, h.users_next, hr]

/-- A new peer pointing to a listed unit, counted in its `refcount`, keeps the
invariant. -/
theorem ListInv.attach (h : ListInv units n peers) {id : Nat} {up up' : GpsdUnit}
    {peer : PeerId} (hid : (id, up) ∈ units) (hpeer : ∀ q ∈ peers, q.1 ≠ peer)
    (hu : up'.unit = up.unit) (hr : up'.refcount = up.refcount + 1) :
  ListInv (setEntry units id up') n (peers ++ [(peer, ⟨some id, -1, false⟩)])
  := by
  refine h.update hid hu (nodup_map_append_singleton _ h.distinct hpeer) (fun q hq => ?_)
    (fun p _ hne => by simp [Ne.symm hne]) (by simpa [hr] using (h.refcount _ hid).1)
  rcases List.mem_append.mp hq with hq | hq
  · exact h.unitptr q hq
  · exact ⟨(id, up), hid, by simp [List.mem_singleton.mp hq]⟩

/-- Dropping the started peer `peer`, which points to the unit `id`, uncounts it there. -/
theorem ListInv.users_drop (h : ListInv units n peers) {peer : PeerId} {pp : Proc} {id : Nat}
    (hpp : (peer, pp) ∈ peers) (hptr : pp.unitptr = some id) (id' : Nat) :
  users (peers.filter (·.1 ≠ peer)) id' + (if id = id' then 1 else 0) = users peers id'
  := by
  simpa [users, hptr] using countP_filter_key (fun q => q.2.unitptr = some id') h.distinct hpp

/-- Dropping a started peer and uncounting it at its unit, which another peer still uses,
keeps the invariant. -/
theorem ListInv.release (h : ListInv units n peers) {peer : PeerId} {pp : Proc} {id : Nat}
    {up : GpsdUnit} (hpp : (peer, pp) ∈ peers) (hptr : pp.unitptr = some id)
    (hid : (id, up) ∈ units) (hr : up.refcount - 1 ≠ 0) :
  ListInv (setEntry units id { up with refcount := up.refcount - 1 }) n
    (peers.filter (·.1 ≠ peer))
  := by
  refine h.update hid rfl (h.distinct.sublist ((List.filter_sublist _).map _))
    (fun q hq => h.unitptr q (List.mem_of_mem_filter hq)) (fun p _ hne => ?_) ?_
  · simpa [hne.symm] using h.users_drop hpp hptr p.1
  · have := h.users_drop hpp hptr id
    have := (h.refcount _ hid).1
    simp only [if_true] at *
    omega

/-- Dropping the last started peer of a unit, and the unit, keeps the invariant. -/
theorem ListInv.free (h : ListInv units n peers) {peer : PeerId} {pp : Proc} {id : Nat}
    {up : GpsdUnit} (hpp : (peer, pp) ∈ peers) (hptr : pp.unitptr = some id)
    (hid : (id, up) ∈ units) (hr : up.refcount - 1 = 0) :
  ListInv (units.filter (·.1 ≠ id)) n (peers.filter (·.1 ≠ peer))
  := by
  have hlast : users (peers.filter (·.1 ≠ peer)) id = 0 := by
    have := h.users_drop hpp hptr id
    have := h.refcount _ hid
    simp only [if_true] at *
    omega
  refine ⟨h.ids.sublist ((List.filter_sublist _).map _),
    fun p hp => h.fresh p (List.mem_of_mem_filter hp),
    h.numbers.sublist ((List.filter_sublist _).map _),
    h.distinct.sublist ((List.filter_sublist _).map _), fun q hq => ?_, fun p hp => ?_⟩
  · obtain ⟨p, hp, hq'⟩ := h.unitptr q (List.mem_of_mem_filter hq)
    refine ⟨p, List.mem_filter.mpr ⟨hp, decide_eq_true fun he => ?_⟩, hq'⟩
    exact absurd hlast (List.countP_pos_iff.mpr ⟨q, hq, by simp [hq', he]⟩).ne'
  · have hne : id ≠ p.1 := fun he => by simp [he] at hp
    have := h.users_drop hpp hptr p.1
    rw [if_neg hne, add_zero] at this
    rw [this]
    exact h.refcount p (List.mem_of_mem_filter hp)

end Steps

/-! ### What the sockets keep -/

/-- What the socket functions never change: the unit's number and count, the unit the peer
points to, and the peer's `CLK_FLAG3`. -/
structure Link.Same (l l' : Link) : Prop where
  unit : l'.up.unit = l.up.unit
  refcount : l'.up.refcount = l.up.refcount
  unitptr : l'.pp.unitptr = l.pp.unitptr
  clkFlag3 : l'.pp.clkFlag3 = l.pp.clkFlag3

theorem Link.Same.trans {l l' l'' : Link} (h : l.Same l') (h' : l'.Same l'') :
  l.Same l''
  := ⟨h'.unit.trans h.unit, h'.refcount.trans h.refcount, h'.unitptr.trans h.unitptr,
    h'.clkFlag3.trans h.clkFlag3⟩

theorem gpsdStopSocket_same (l : Link) :
  l.Same (gpsdStopSocket l)
  := by
  simp only [gpsdStopSocket, stopSocketUnit]
  split <;> exact ⟨rfl, rfl, rfl, rfl⟩

theorem gpsdInitSocket_same (naddr : Nat) (sys : Sys) (l : Link) :
  l.Same (gpsdInitSocket naddr sys l)
  := by
  obtain ⟨socket, fcntl, connect, -, -, addclock⟩ := sys
  dsimp only [gpsdInitSocket, initNoSocket, Link.logMsg]
  cases socket <;> cases fcntl <;> cases connect <;> cases addclock <;>
    exact ⟨rfl, rfl, rfl, rfl⟩

theorem gpsdTestSocket_same (sys : Sys) (l : Link) :
  l.Same (gpsdTestSocket sys l)
  := by
  simp only [gpsdTestSocket]
  split_ifs <;> exact ⟨rfl, rfl, rfl, rfl⟩

/-- A tick of the primary peer's timer counts the log throttle and the watchdog down, and
then calls at most one socket function. -/
theorem timerPrimary_cases (naddr : Nat) (sys : Sys) (l : Link) :
  let l₀ : Link := { l with up := { l.up with logthrottle := l.up.logthrottle - 1,
                                              tickover := l.up.tickover - 1 } }
  timerPrimary naddr sys l = l₀ ∨ timerPrimary naddr sys l = gpsdTestSocket sys l₀ ∨
    timerPrimary naddr sys l = gpsdStopSocket l₀ ∨
    timerPrimary naddr sys l = gpsdInitSocket naddr sys l₀
  := by
  intro l₀
  simp only [timerPrimary]
  split <;> split_ifs <;> simp only [true_or, or_true]

theorem timerPrimary_same (naddr : Nat) (sys : Sys) (l : Link) :
  l.Same (timerPrimary naddr sys l)
  := by
  have h₀ : l.Same { l with up := { l.up with logthrottle := l.up.logthrottle - 1,
                                              tickover := l.up.tickover - 1 } } :=
    ⟨rfl, rfl, rfl, rfl⟩
  obtain h | h | h | h := timerPrimary_cases naddr sys l <;> rw [h]
  · exact h₀
  · exact h₀.trans (gpsdTestSocket_same _ _)
  · exact h₀.trans (gpsdStopSocket_same _)
  · exact h₀.trans (gpsdInitSocket_same _ _ _)

/-! ### Runs -/

section World

variable {w : World}

/-- `gpsd_start` of a peer that is not started keeps the invariant, whether it allocates a
unit, fails to, or joins a listed one. -/
theorem ListInv.start (h : ListInv w.units w.nextUnit w.peers) (unit : Nat) {peer : PeerId}
    (cfgMode : Nat) (device : Option (List UInt8)) (hpeer : ∀ q ∈ w.peers, q.1 ≠ peer) :
  ListInv (gpsdStart w unit peer cfgMode device).1.units
    (gpsdStart w unit peer cfgMode device).1.nextUnit
    (gpsdStart w unit peer cfgMode device).1.peers
  := by
  unfold gpsdStart
  split
  · exact h
  split
  · rename_i hnone
    split
    · exact h.mono (Nat.le_succ _)
    · refine h.alloc (fun p hp he => ?_) hpeer (by simp)
      simpa [he] using List.find?_eq_none.mp hnone p hp
  · rename_i id up hfind
    have hid := List.mem_of_find?_eq_some hfind
    dsimp only
    split_ifs with haddr hzero
    · simp only [Nat.add_sub_cancel] at hzero
      exact absurd hzero (h.refcount _ hid).2.ne'
    · exact h.replace hid rfl (by simp)
    · exact h.attach hid hpeer (by simp) (by simp)

/-- `gpsd_shutdown` uncounts the peer at its unit, and frees the unit with its last peer. -/
theorem ListInv.shutdown (h : ListInv w.units w.nextUnit w.peers) (peer : PeerId) :
  ListInv (gpsdShutdown w peer).units (gpsdShutdown w peer).nextUnit
    (gpsdShutdown w peer).peers
  := by
  cases hpp : w.peers.lookup peer with
  | none => simp only [gpsdShutdown, hpp]; exact h
  | some pp =>
    have hpp' := mem_of_lookup_eq_some hpp
    obtain ⟨⟨id, up⟩, hid, hptr : pp.unitptr = some id⟩ := h.unitptr _ hpp'
    simp only [gpsdShutdown, hpp, hptr, lookup_of_mem h.ids hid]
    split
    · exact h.free hpp' hptr hid ‹_›
    · exact h.release hpp' hptr hid ‹_›

/-- `gpsd_timer` changes the unit and the peer's refclock data only as the socket functions
do, which keep what the invariant reads. -/
theorem ListInv.timer (h : ListInv w.units w.nextUnit w.peers) (peer : PeerId) (sys : Sys) :
  ListInv (gpsdTimer w peer sys).units (gpsdTimer w peer sys).nextUnit
    (gpsdTimer w peer sys).peers
  := by
  cases hpp : w.peers.lookup peer with
  | none => simp only [gpsdTimer, hpp]; exact h
  | some pp =>
    have hpp' := mem_of_lookup_eq_some hpp
    obtain ⟨⟨id, up⟩, hid, hptr : pp.unitptr = some id⟩ := h.unitptr _ hpp'
    simp only [gpsdTimer, hpp, hptr, lookup_of_mem h.ids hid]
    split
    · exact h.replace hid rfl rfl
    · have hs := timerPrimary_same w.naddr sys ⟨w.fds, up, pp⟩
      exact (h.replace hid hs.unit hs.refcount).setProc hpp' hs.unitptr

theorem ListInv.receive (h : ListInv w.units w.nextUnit w.peers) (peer : PeerId) :
  ListInv (gpsdReceiveTick w peer).units (gpsdReceiveTick w peer).nextUnit
    (gpsdReceiveTick w peer).peers
  := by
  cases hpp : w.peers.lookup peer with
  | none => simp only [gpsdReceiveTick, hpp]; exact h
  | some pp =>
    obtain ⟨⟨id, up⟩, hid, hptr : pp.unitptr = some id⟩ := h.unitptr _ (mem_of_lookup_eq_some hpp)
    simp only [gpsdReceiveTick, hpp, hptr, lookup_of_mem h.ids hid]
    exact h.replace hid rfl rfl

/-- `refclock_control` changes the peer's flag and the unit's fudges and mode, which the
invariant does not read. -/
theorem ListInv.control (h : ListInv w.units w.nextUnit w.peers) (peer : PeerId) (cfgMode : Nat)
    (fudge1 fudge2 : LFp) (clkFlag3 : Bool) :
  ListInv (refclockControl w peer cfgMode fudge1 fudge2 clkFlag3).units
    (refclockControl w peer cfgMode fudge1 fudge2 clkFlag3).nextUnit
    (refclockControl w peer cfgMode fudge1 fudge2 clkFlag3).peers
  := by
  cases hpp : w.peers.lookup peer with
  | none => simp only [refclockControl, hpp]; exact h
  | some pp =>
    have hpp' := mem_of_lookup_eq_some hpp
    obtain ⟨⟨id, up⟩, hid, hptr : pp.unitptr = some id⟩ := h.unitptr _ hpp'
    obtain ⟨_, _, _, _, _, _, _, _, hc⟩ := gpsdControl_eq up peer cfgMode fudge1 fudge2
    simp only [refclockControl, hpp, hptr, World.setProc, lookup_of_mem h.ids hid, hc]
    refine (h.replace hid ?_ ?_).setProc hpp' hptr.symm <;> rfl

/-- Every call the refclock framework may make keeps the invariant. -/
theorem ListInv.step (h : ListInv w.units w.nextUnit w.peers) (e : LifeEvent)
    (he : e.allowed w) :
  ListInv (e.step w).units (e.step w).nextUnit (e.step w).peers
  := by
  cases e with
  | start unit peer cfgMode device =>
    exact h.start unit cfgMode device (by simpa [LifeEvent.allowed, World.live] using he)
  | shutdown peer => exact h.shutdown peer
  | timer peer sys => exact h.timer peer sys
  | receive peer => exact h.receive peer
  | control peer cfgMode fudge1 fudge2 clkFlag3 =>
    exact h.control peer cfgMode fudge1 fudge2 clkFlag3

theorem ListInv.run (h : ListInv w.units w.nextUnit w.peers) {es : List LifeEvent}
    {w' : World} (hrun : lifeRun w es = some w') :
  ListInv w'.units w'.nextUnit w'.peers
  := by
  induction es generalizing w with
  | nil => cases hrun; exact h
  | cons e es ih =>
    simp only [lifeRun] at hrun
    split at hrun
    · exact ih (h.step e ‹_›) hrun
    · cases hrun

end World

/-- Along every run of calls from the start, the unit list stays in order: allocation and
unit numbers are distinct, every started peer points to a listed unit, and every listed unit
counts in `refcount` exactly the started peers that point to it, at least one. -/
theorem lifeRun_listInv (naddr : Nat) (es : List LifeEvent) (w : World)
    (hrun : lifeRun (World.init naddr) es = some w) :
  ListInv w.units w.nextUnit w.peers
  := ListInv.init.run hrun

theorem lifeRun_listInv_secondary :
  ∃ w, lifeRun (World.init 1) [.start 0 1 0 (some (cbytes "/dev/gps0")),
      .start 128 2 0 (some (cbytes "/dev/gps0")), .shutdown 2] = some w ∧
    ListInv w.units w.nextUnit w.peers
  := by
  have hrun : lifeRun (World.init 1) [.start 0 1 0 (some (cbytes "/dev/gps0")),
      .start 128 2 0 (some (cbytes "/dev/gps0")), .shutdown 2] = some _ := rfl
  exact ⟨_, hrun, lifeRun_listInv 1 _ _ hrun⟩

end GpsdJson
