import GpsdJson.UnitList

/-!
# Who holds the sockets

Every socket the driver opens is held by exactly one owner until it is closed: the unit
whose `up->fdt` waits for its connect, or the peer whose `pp->io.fd` reads from it.  The
socket functions move a socket along this path, and the primary peer's timer calls each of
them only where the move is sound: `gpsd_init_socket` only when the unit and the peer hold
no socket, `gpsd_test_socket` only when the unit holds one and the peer none.

`SockInv` states this for a whole world: each opened socket is closed once, or pending in
exactly one unit, or held by exactly one peer, and every socket registered with the I/O
engine is held by a peer.  Seen from one link (`SockView`), the other units and peers are
counts; the five moves are `SockView.openPending`, `SockView.closePending`,
`SockView.connect`, `SockView.register` and `SockView.closeHeld`, and each socket function
is assembled from them.

* `lifeRun_sockInv`: along every run of starts, timer ticks and receives, in any
  interleaving of any peers and with any outcome of the system calls, no socket is closed
  twice, none is lost, and none is registered without a holder.

A held socket need not be registered: when `io_addclock` fails in `gpsd_test_socket`, the
socket stays in `pp->io.fd`, unregistered, until the live check stops it; and shutting
down a peer breaks the invariant (`gpsdShutdown_leaves_sockets`).
-/

namespace GpsdJson

/-! ### Counting holders -/

/-- `1` when the descriptor `fd` is socket `k`. -/
def holds (fd : Int) (k : Nat) : Nat :=
  if fd = k then 1 else 0

@[simp] theorem neg_one_eq_natCast_iff (k : Nat) :
  (-1 : Int) = k ↔ False
  := ⟨fun h => by omega, False.elim⟩

@[simp] theorem holds_neg_one (k : Nat) :
  holds (-1) k = 0
  := by
  simp [holds]

@[simp] theorem holds_natCast (n k : Nat) :
  holds n k = if n = k then 1 else 0
  := by
  simp [holds]

/-- How many of `units` hold socket `k` pending in `up->fdt`. -/
def pendingAt (units : List (Nat × GpsdUnit)) (k : Nat) : Nat :=
  units.countP fun p => p.2.fdt = (k : Int)

/-- How many of `peers` hold socket `k` in `pp->io.fd`. -/
def heldAt (peers : List (PeerId × Proc)) (k : Nat) : Nat :=
  peers.countP fun q => q.2.ioFd = (k : Int)

@[simp] theorem Fds.close_opened (f : Fds) (fd : Int) :
  (f.close fd).opened = f.opened
  := rfl

@[simp] theorem Fds.close_registered (f : Fds) (fd : Int) :
  (f.close fd).registered = f.registered
  := rfl

@[simp] theorem Fds.close_closes (f : Fds) (n k : Nat) :
  (f.close n).closes k = f.closes k + if k = n then 1 else 0
  := by
  by_cases hk : k = n <;> simp [Fds.close, Function.update_apply, hk]

@[simp] theorem Fds.closeClock_opened (f : Fds) (fd : Int) :
  (f.closeClock fd).opened = f.opened
  := rfl

@[simp] theorem Fds.closeClock_closes (f : Fds) (n k : Nat) :
  (f.closeClock n).closes k = f.closes k + if k = n then 1 else 0
  := f.close_closes n k

@[simp] theorem Fds.closeClock_registered (f : Fds) (n k : Nat) :
  (f.closeClock n).registered k = if k = n then false else f.registered k
  := by
  simp [Fds.closeClock, Function.update_apply]

@[simp] theorem Fds.addClock_opened (f : Fds) (fd : Int) :
  (f.addClock fd).opened = f.opened
  := rfl

@[simp] theorem Fds.addClock_closes (f : Fds) (fd : Int) :
  (f.addClock fd).closes = f.closes
  := rfl

@[simp] theorem Fds.addClock_registered (f : Fds) (n k : Nat) :
  (f.addClock n).registered k = if k = n then true else f.registered k
  := by
  simp [Fds.addClock, Function.update_apply]

/-! ### One link -/

/-- The sockets `f` as the link whose unit holds `fdt` and whose peer holds `ioFd` sees
them, when `po k` other units and `co k` other peers hold socket `k`: each opened socket is
closed once or has one holder, a socket not yet opened has none, and a registered socket is
held by a peer. -/
structure SockView (po co : Nat → Nat) (f : Fds) (fdt ioFd : Int) : Prop where
  fdt_ge : -1 ≤ fdt
  ioFd_ge : -1 ≤ ioFd
  once : ∀ k : Nat,
    f.closes k + (po k + holds fdt k) + (co k + holds ioFd k) = if k < f.opened then 1 else 0
  registered : ∀ k : Nat, f.registered k = true → 0 < co k + holds ioFd k

section Moves

variable {po co : Nat → Nat} {f : Fds} {fdt ioFd : Int}

/-- A descriptor that is not `-1` is a socket. -/
theorem eq_natCast_of_ne (h : -1 ≤ fdt) (hne : fdt ≠ -1) :
  ∃ n : Nat, fdt = n
  := ⟨fdt.toNat, by omega⟩

/-- A fresh socket has no holder and is not registered. -/
theorem SockView.fresh (h : SockView po co f fdt ioFd) {k : Nat} (hk : f.opened ≤ k) :
  f.closes k = 0 ∧ po k = 0 ∧ holds fdt k = 0 ∧ co k = 0 ∧ holds ioFd k = 0 ∧
    f.registered k = false
  := by
  have h₁ := h.once k
  rw [if_neg (by omega)] at h₁
  refine ⟨by omega, by omega, by omega, by omega, by omega, ?_⟩
  cases hr : f.registered k
  · rfl
  · have := h.registered k hr
    omega

/-- `socket`: a new socket, pending in the unit. -/
theorem SockView.openPending (h : SockView po co f (-1) ioFd) :
  SockView po co { f with opened := f.opened + 1 } f.opened ioFd
  := by
  have hf := h.fresh (Nat.le_refl _)
  refine ⟨by omega, h.ioFd_ge, fun k => ?_, h.registered⟩
  have := h.once k
  by_cases hk : k = f.opened
  · subst hk
    simp only [holds_natCast, if_true, Nat.lt_succ_self] at this hf ⊢
    omega
  · simp only [holds_neg_one, holds_natCast, Ne.symm hk, if_false] at this ⊢
    rw [if_congr (show k < f.opened + 1 ↔ k < f.opened by omega) rfl rfl]
    exact this

/-- `close (up->fdt)`: the pending socket is closed. -/
theorem SockView.closePending {n : Nat} (h : SockView po co f n ioFd) :
  SockView po co (f.close n) (-1) ioFd
  := by
  refine ⟨by omega, h.ioFd_ge, fun k => ?_, h.registered⟩
  have := h.once k
  by_cases hk : k = n
  · subst hk
    simp only [Fds.close_closes, Fds.close_opened, holds_natCast, holds_neg_one, if_true] at this ⊢
    omega
  · simp only [Fds.close_closes, holds_natCast, hk, Ne.symm hk] at this ⊢
    simpa using this

/-- `pp->io.fd = up->fdt; up->fdt = -1`: the peer takes over the unit's socket. -/
theorem SockView.connect {n : Nat} (h : SockView po co f n (-1)) :
  SockView po co f (-1) n
  := by
  refine ⟨by omega, by omega, fun k => ?_, fun k hk => ?_⟩
  · have := h.once k
    simp only [holds_neg_one, holds_natCast] at this ⊢
    omega
  · have := h.registered k hk
    simp only [holds_neg_one, holds_natCast] at this ⊢
    omega

/-- `io_addclock`: the peer's socket is registered. -/
theorem SockView.register {n : Nat} (h : SockView po co f fdt n) :
  SockView po co (f.addClock n) fdt n
  := by
  refine ⟨h.fdt_ge, h.ioFd_ge, h.once, fun k hk => ?_⟩
  by_cases hkn : k = n
  · simp [hkn]
  · simp only [Fds.addClock_registered, hkn, if_false] at hk
    exact h.registered k hk

/-- `io_closeclock`: the peer's socket leaves the I/O engine and is closed. -/
theorem SockView.closeHeld {n : Nat} (h : SockView po co f fdt n) :
  SockView po co (f.closeClock n) fdt (-1)
  := by
  refine ⟨h.fdt_ge, by omega, fun k => ?_, fun k hk => ?_⟩
  · have := h.once k
    by_cases hk : k = n
    · subst hk
      simp only [Fds.closeClock_closes, Fds.closeClock_opened, holds_natCast, holds_neg_one,
        if_true] at this ⊢
      omega
    · simp only [Fds.closeClock_closes, holds_natCast, hk, Ne.symm hk] at this ⊢
      simpa using this
  · by_cases hkn : k = n
    · simp [hkn] at hk
    · simp only [Fds.closeClock_registered, hkn, if_false] at hk
      have := h.registered k hk
      simp only [holds_natCast, Ne.symm hkn, if_false] at this
      simpa using this

end Moves

/-! ### The socket functions -/

section Functions

variable {po co : Nat → Nat} {l : Link} {naddr : Nat} {sys : Sys}

theorem SockView.stopSocket (h : SockView po co l.fds l.up.fdt l.pp.ioFd) :
  SockView po co (gpsdStopSocket l).fds (gpsdStopSocket l).up.fdt
    (gpsdStopSocket l).pp.ioFd
  := by
  unfold gpsdStopSocket Link.logMsg
  split
  · obtain ⟨n, hn⟩ := eq_natCast_of_ne h.ioFd_ge ‹_›
    dsimp only
    rw [hn] at h ⊢
    exact h.closeHeld
  · exact h

/-- What `gpsd_init_socket` leaves, from a link holding no socket: nothing new, a new socket
closed again, a new socket pending, or a new socket held and registered. -/
theorem gpsdInitSocket_cases (hio : l.pp.ioFd = -1) :
  ((gpsdInitSocket naddr sys l).fds = l.fds ∧ (gpsdInitSocket naddr sys l).up.fdt = -1 ∧
      (gpsdInitSocket naddr sys l).pp.ioFd = -1) ∨
    ((gpsdInitSocket naddr sys l).fds
        = ({ l.fds with opened := l.fds.opened + 1 } : Fds).close l.fds.opened ∧
      (gpsdInitSocket naddr sys l).up.fdt = -1 ∧ (gpsdInitSocket naddr sys l).pp.ioFd = -1) ∨
    ((gpsdInitSocket naddr sys l).fds = { l.fds with opened := l.fds.opened + 1 } ∧
      (gpsdInitSocket naddr sys l).up.fdt = l.fds.opened ∧
      (gpsdInitSocket naddr sys l).pp.ioFd = -1) ∨
    ((gpsdInitSocket naddr sys l).fds
        = ({ l.fds with opened := l.fds.opened + 1 } : Fds).addClock l.fds.opened ∧
      (gpsdInitSocket naddr sys l).up.fdt = -1 ∧
      (gpsdInitSocket naddr sys l).pp.ioFd = l.fds.opened)
  := by
  obtain ⟨socket, fcntl, connect, -, -, addclock⟩ := sys
  cases socket
  · exact .inl (by simp [-Int.neg_eq_of_add_eq_zero, gpsdInitSocket, initNoSocket, Link.logMsg, hio])
  cases fcntl
  · exact .inr (.inl (by simp [-Int.neg_eq_of_add_eq_zero, gpsdInitSocket, initNoSocket, Link.logMsg, hio]))
  cases connect
  · cases addclock
    · exact .inr (.inl (by simp [-Int.neg_eq_of_add_eq_zero, gpsdInitSocket, initNoSocket, Link.logMsg]))
    · exact .inr (.inr (.inr (by simp [-Int.neg_eq_of_add_eq_zero, gpsdInitSocket])))
  · exact .inr (.inr (.inl (by simp [-Int.neg_eq_of_add_eq_zero, gpsdInitSocket, hio])))
  · exact .inr (.inl (by simp [-Int.neg_eq_of_add_eq_zero, gpsdInitSocket, initNoSocket, Link.logMsg, hio]))

theorem SockView.initSocket (h : SockView po co l.fds l.up.fdt l.pp.ioFd)
    (hfdt : l.up.fdt = -1) (hio : l.pp.ioFd = -1) :
  SockView po co (gpsdInitSocket naddr sys l).fds (gpsdInitSocket naddr sys l).up.fdt
    (gpsdInitSocket naddr sys l).pp.ioFd
  := by
  rw [hfdt, hio] at h
  rcases gpsdInitSocket_cases hio with ⟨hf, hu, hp⟩ | ⟨hf, hu, hp⟩ |
      ⟨hf, hu, hp⟩ | ⟨hf, hu, hp⟩ <;> rw [hf, hu, hp]
  · exact h
  · exact h.openPending.closePending
  · exact h.openPending
  · exact h.openPending.connect.register

/-- What `gpsd_test_socket` leaves, from a link whose unit holds socket `n` and whose peer
holds none: the same, the socket closed, or the socket moved to the peer, registered or
not. -/
theorem gpsdTestSocket_cases {n : Nat} (hfdt : l.up.fdt = n)
    (hio : l.pp.ioFd = -1) :
  ((gpsdTestSocket sys l).fds = l.fds ∧ (gpsdTestSocket sys l).up.fdt = n ∧
      (gpsdTestSocket sys l).pp.ioFd = -1) ∨
    ((gpsdTestSocket sys l).fds = l.fds.close n ∧ (gpsdTestSocket sys l).up.fdt = -1 ∧
      (gpsdTestSocket sys l).pp.ioFd = -1) ∨
    ((gpsdTestSocket sys l).fds = l.fds ∧ (gpsdTestSocket sys l).up.fdt = -1 ∧
      (gpsdTestSocket sys l).pp.ioFd = n) ∨
    ((gpsdTestSocket sys l).fds = l.fds.addClock n ∧ (gpsdTestSocket sys l).up.fdt = -1 ∧
      (gpsdTestSocket sys l).pp.ioFd = n)
  := by
  have hn : (n : Int) ≠ -1 := by omega
  obtain ⟨-, -, -, ready, soError, addclock⟩ := sys
  cases ready
  · exact .inl (by simp [-Int.neg_eq_of_add_eq_zero, gpsdTestSocket, hfdt, hio])
  cases soError
  · cases addclock
    · exact .inr (.inr (.inl
        (by simp [-Int.neg_eq_of_add_eq_zero, gpsdTestSocket, testNoSocket, Link.logMsg, hfdt, hio])))
    · exact .inr (.inr (.inr (by simp [-Int.neg_eq_of_add_eq_zero, gpsdTestSocket, hfdt])))
  · exact .inr (.inl
      (by simp [-Int.neg_eq_of_add_eq_zero, gpsdTestSocket, testNoSocket, Link.logMsg, hfdt, hn, hio]))

theorem SockView.testSocket (h : SockView po co l.fds l.up.fdt l.pp.ioFd)
    (hfdt : l.up.fdt ≠ -1) (hio : l.pp.ioFd = -1) :
  SockView po co (gpsdTestSocket sys l).fds (gpsdTestSocket sys l).up.fdt
    (gpsdTestSocket sys l).pp.ioFd
  := by
  obtain ⟨n, hn⟩ := eq_natCast_of_ne h.fdt_ge hfdt
  rw [hn, hio] at h
  rcases gpsdTestSocket_cases hn hio with ⟨hf, hu, hp⟩ | ⟨hf, hu, hp⟩ |
      ⟨hf, hu, hp⟩ | ⟨hf, hu, hp⟩ <;> rw [hf, hu, hp]
  · exact h
  · exact h.closePending
  · exact h.connect
  · exact h.connect.register

/-- The primary peer's timer calls each socket function only where its move is sound. -/
theorem SockView.timer (h : SockView po co l.fds l.up.fdt l.pp.ioFd) :
  SockView po co (timerPrimary naddr sys l).fds (timerPrimary naddr sys l).up.fdt
    (timerPrimary naddr sys l).pp.ioFd
  := by
  simp only [timerPrimary]
  split
  · by_cases hio : l.pp.ioFd = -1
    · rw [if_neg (not_not.mpr hio)]
      by_cases hfdt : l.up.fdt = -1
      · rw [if_neg (not_not.mpr hfdt)]
        exact h
      · rw [if_pos hfdt]
        exact SockView.testSocket h hfdt hio
    · rw [if_pos hio]
      exact h
  · by_cases hio : l.pp.ioFd = -1
    · rw [if_neg (not_not.mpr hio)]
      by_cases hfdt : l.up.fdt = -1
      · rw [if_neg (not_not.mpr hfdt)]
        split_ifs
        · exact SockView.initSocket h hfdt hio
        · exact h
      · rw [if_pos hfdt]
        exact SockView.testSocket h hfdt hio
    · rw [if_pos hio]
      exact SockView.stopSocket h
  · split_ifs with hg
    · exact SockView.testSocket h hg.2 hg.1
    · exact h

end Functions

/-! ### The world -/

/-- The sockets `fds` held by the units `units` and the started peers `peers`: every
descriptor is a socket or `-1`; every opened socket is closed exactly once, or pending in
exactly one unit, or held by exactly one peer, and a socket not yet opened is none of
these; and every socket registered with the I/O engine is held by a peer. -/
structure SockInv (fds : Fds) (units : List (Nat × GpsdUnit)) (peers : List (PeerId × Proc)) :
    Prop where
  fdt : ∀ p ∈ units, -1 ≤ p.2.fdt
  ioFd : ∀ q ∈ peers, -1 ≤ q.2.ioFd
  once : ∀ k : Nat,
    fds.closes k + pendingAt units k + heldAt peers k = if k < fds.opened then 1 else 0
  registered : ∀ k : Nat, fds.registered k = true → 0 < heldAt peers k

theorem SockInv.init (naddr : Nat) :
  SockInv (World.init naddr).fds [] []
  := ⟨by simp, by simp, fun k => by simp [World.init, pendingAt, heldAt],
    fun k hk => by simp [World.init] at hk⟩

theorem filter_setEntry {α β : Type} [DecidableEq α] (l : List (α × β)) (a : α) (b' : β) :
  (setEntry l a b').filter (·.1 ≠ a) = l.filter (·.1 ≠ a)
  := by
  induction l with
  | nil => rfl
  | cons p l ih => by_cases he : p.1 = a <;> simpa [setEntry, List.filter_cons, he] using ih

/-- Replacing the entry of a key by another counts the new entry in place of the old. -/
theorem countP_setEntry {α β : Type} [DecidableEq α] (q : α × β → Bool) {l : List (α × β)}
    (hl : (l.map Prod.fst).Nodup) {a : α} {b b' : β} (hab : (a, b) ∈ l) :
  (setEntry l a b').countP q + (if q (a, b) then 1 else 0)
    = l.countP q + (if q (a, b') then 1 else 0)
  := by
  have hab' : (a, b') ∈ setEntry l a b' := List.mem_map.mpr ⟨(a, b), hab, by simp⟩
  have h₁ := countP_filter_key q (by rwa [map_fst_setEntry]) hab'
  have h₂ := countP_filter_key q hl hab
  rw [filter_setEntry] at h₁
  omega

section World

variable {fds : Fds} {units : List (Nat × GpsdUnit)} {peers : List (PeerId × Proc)}

theorem SockInv.fdt_setEntry (h : SockInv fds units peers) {id : Nat} {up' : GpsdUnit}
    (hu : -1 ≤ up'.fdt) :
  ∀ p ∈ setEntry units id up', -1 ≤ p.2.fdt
  := fun p hp => by
  obtain ⟨p₀, hp₀, ⟨-, rfl⟩ | ⟨-, rfl⟩⟩ := mem_setEntry hp
  · exact hu
  · exact h.fdt p hp₀

theorem SockInv.ioFd_setEntry (h : SockInv fds units peers) {peer : PeerId} {pp' : Proc}
    (hp : -1 ≤ pp'.ioFd) :
  ∀ q ∈ setEntry peers peer pp', -1 ≤ q.2.ioFd
  := fun q hq => by
  obtain ⟨q₀, hq₀, ⟨-, rfl⟩ | ⟨-, rfl⟩⟩ := mem_setEntry hq
  · exact hp
  · exact h.ioFd q hq₀

/-- The link of the unit `id` and the started peer `peer` sees the other units and peers as
counts. -/
theorem SockInv.view (h : SockInv fds units peers) (hids : (units.map Prod.fst).Nodup)
    (hpeers : (peers.map Prod.fst).Nodup) {id : Nat} {up : GpsdUnit} {peer : PeerId}
    {pp : Proc} (hid : (id, up) ∈ units) (hpp : (peer, pp) ∈ peers) :
  SockView (pendingAt (units.filter (·.1 ≠ id))) (heldAt (peers.filter (·.1 ≠ peer)))
    fds up.fdt pp.ioFd
  := by
  have hu := fun k => countP_filter_key (fun p : Nat × GpsdUnit => p.2.fdt = (k : Int)) hids hid
  have hp := fun k => countP_filter_key (fun q : PeerId × Proc => q.2.ioFd = (k : Int)) hpeers hpp
  refine ⟨h.fdt _ hid, h.ioFd _ hpp, fun k => ?_, fun k hk => ?_⟩
  · have := h.once k
    simp only [pendingAt, heldAt, holds] at this hu hp ⊢
    simp only [decide_eq_true_eq] at hu hp
    rw [hu, hp]
    exact this
  · have := h.registered k hk
    simp only [heldAt, holds] at this hp ⊢
    simp only [decide_eq_true_eq] at hp
    rw [hp]
    exact this

/-- A link's view after the unit `id` and the peer `peer` changed is the world's. -/
theorem SockInv.of_view (h : SockInv fds units peers) (hids : (units.map Prod.fst).Nodup)
    (hpeers : (peers.map Prod.fst).Nodup) {id : Nat} {up up' : GpsdUnit} {peer : PeerId}
    {pp pp' : Proc} (hid : (id, up) ∈ units) (hpp : (peer, pp) ∈ peers) {fds' : Fds}
    (hv : SockView (pendingAt (units.filter (·.1 ≠ id))) (heldAt (peers.filter (·.1 ≠ peer)))
      fds' up'.fdt pp'.ioFd) :
  SockInv fds' (setEntry units id up') (setEntry peers peer pp')
  := by
  have hu := fun k =>
    @countP_setEntry _ _ _ (fun p : Nat × GpsdUnit => p.2.fdt = (k : Int)) _ hids _ _ up' hid
  have hu' := fun k => countP_filter_key (fun p : Nat × GpsdUnit => p.2.fdt = (k : Int)) hids hid
  have hp := fun k =>
    @countP_setEntry _ _ _ (fun q : PeerId × Proc => q.2.ioFd = (k : Int)) _ hpeers _ _ pp' hpp
  have hp' := fun k => countP_filter_key (fun q : PeerId × Proc => q.2.ioFd = (k : Int)) hpeers hpp
  refine ⟨h.fdt_setEntry hv.fdt_ge, h.ioFd_setEntry hv.ioFd_ge, fun k => ?_, fun k hk => ?_⟩
  · have := hv.once k
    have := hu k; have := hu' k; have := hp k; have := hp' k
    simp only [pendingAt, heldAt, holds, decide_eq_true_eq] at *
    omega
  · have := hv.registered k hk
    have := hp k; have := hp' k
    simp only [heldAt, holds, decide_eq_true_eq] at *
    omega

/-- A unit replaced by one holding the same descriptor leaves the counts as they are. -/
theorem SockInv.setUnit (h : SockInv fds units peers) (hids : (units.map Prod.fst).Nodup)
    {id : Nat} {up up' : GpsdUnit} (hid : (id, up) ∈ units) (hf : up'.fdt = up.fdt) :
  SockInv fds (setEntry units id up') peers
  := by
  have hu := fun k =>
    @countP_setEntry _ _ _ (fun p : Nat × GpsdUnit => p.2.fdt = (k : Int)) _ hids _ _ up' hid
  refine ⟨h.fdt_setEntry (hf ▸ h.fdt _ hid), h.ioFd, fun k => ?_, h.registered⟩
  have := h.once k
  have := hu k
  simp only [pendingAt, hf] at *
  omega

/-- A new unit holding no socket. -/
theorem SockInv.addUnit (h : SockInv fds units peers) (id : Nat) {up : GpsdUnit}
    (hf : up.fdt = -1) :
  SockInv fds (units ++ [(id, up)]) peers
  := by
  refine ⟨fun p hp => ?_, h.ioFd, fun k => ?_, h.registered⟩
  · rcases List.mem_append.mp hp with hp | hp
    · exact h.fdt p hp
    · simp [List.mem_singleton.mp hp, hf]
  · simpa [pendingAt, List.countP_append, hf] using h.once k

/-- A new peer holding no socket. -/
theorem SockInv.addPeer (h : SockInv fds units peers) (peer : PeerId) (u : Option Nat)
    (f : Bool) :
  SockInv fds units (peers ++ [(peer, ⟨u, -1, f⟩)])
  := by
  have hc : ∀ k, heldAt (peers ++ [(peer, ⟨u, -1, f⟩)]) k = heldAt peers k := fun k => by
    simp [heldAt, List.countP_append]
  refine ⟨h.fdt, fun q hq => ?_, fun k => hc k ▸ h.once k, fun k hk => hc k ▸ h.registered k hk⟩
  rcases List.mem_append.mp hq with hq | hq
  · exact h.ioFd q hq
  · simp [List.mem_singleton.mp hq]

end World

/-! ### Runs -/

section Run

variable {w : World}

/-- `gpsd_start` adds a unit and a peer holding no socket, or changes a unit's count. -/
theorem SockInv.start (h : SockInv w.fds w.units w.peers) (hl : ListInv w.units w.nextUnit w.peers)
    (unit : Nat) (peer : PeerId) (cfgMode : Nat) (device : Option (List UInt8)) :
  SockInv (gpsdStart w unit peer cfgMode device).1.fds
    (gpsdStart w unit peer cfgMode device).1.units
    (gpsdStart w unit peer cfgMode device).1.peers
  := by
  unfold gpsdStart
  split
  · exact h
  split
  · split
    · exact h
    · exact (h.addUnit _ (by simp)).addPeer _ _ _
  · rename_i id up hfind
    have hid := List.mem_of_find?_eq_some hfind
    dsimp only
    split_ifs with haddr hzero
    · simp only [Nat.add_sub_cancel] at hzero
      exact absurd hzero (hl.refcount _ hid).2.ne'
    · exact h.setUnit hl.ids hid rfl
    · exact (h.setUnit hl.ids hid (by simp)).addPeer _ _ _

/-- `gpsd_timer`: the secondary peer's timer touches no socket, and the primary peer's timer
is a link's. -/
theorem SockInv.timer (h : SockInv w.fds w.units w.peers) (hl : ListInv w.units w.nextUnit w.peers)
    (peer : PeerId) (sys : Sys) :
  SockInv (gpsdTimer w peer sys).fds (gpsdTimer w peer sys).units
    (gpsdTimer w peer sys).peers
  := by
  cases hpp : w.peers.lookup peer with
  | none => simp only [gpsdTimer, hpp]; exact h
  | some pp =>
    have hpp' := mem_of_lookup_eq_some hpp
    obtain ⟨⟨id, up⟩, hid, hptr : pp.unitptr = some id⟩ := hl.unitptr _ hpp'
    simp only [gpsdTimer, hpp, hptr, lookup_of_mem hl.ids hid]
    split
    · exact h.setUnit hl.ids hid rfl
    · exact h.of_view hl.ids hl.distinct hid hpp' (h.view hl.ids hl.distinct hid hpp').timer

theorem SockInv.receive (h : SockInv w.fds w.units w.peers)
    (hl : ListInv w.units w.nextUnit w.peers) (peer : PeerId) :
  SockInv (gpsdReceiveTick w peer).fds (gpsdReceiveTick w peer).units
    (gpsdReceiveTick w peer).peers
  := by
  cases hpp : w.peers.lookup peer with
  | none => simp only [gpsdReceiveTick, hpp]; exact h
  | some pp =>
    obtain ⟨⟨id, up⟩, hid, hptr : pp.unitptr = some id⟩ :=
      hl.unitptr _ (mem_of_lookup_eq_some hpp)
    simp only [gpsdReceiveTick, hpp, hptr, lookup_of_mem hl.ids hid]
    exact h.setUnit hl.ids hid rfl

/-- `refclock_control` moves no socket. -/
theorem SockInv.control (h : SockInv w.fds w.units w.peers)
    (hl : ListInv w.units w.nextUnit w.peers) (peer : PeerId) (cfgMode : Nat)
    (fudge1 fudge2 : LFp) (clkFlag3 : Bool) :
  SockInv (refclockControl w peer cfgMode fudge1 fudge2 clkFlag3).fds
    (refclockControl w peer cfgMode fudge1 fudge2 clkFlag3).units
    (refclockControl w peer cfgMode fudge1 fudge2 clkFlag3).peers
  := by
  cases hpp : w.peers.lookup peer with
  | none => simp only [refclockControl, hpp]; exact h
  | some pp =>
    have hpp' := mem_of_lookup_eq_some hpp
    obtain ⟨⟨id, up⟩, hid, hptr : pp.unitptr = some id⟩ := hl.unitptr _ hpp'
    obtain ⟨_, _, _, _, _, _, _, _, hc⟩ := gpsdControl_eq up peer cfgMode fudge1 fudge2
    simp only [refclockControl, hpp, hptr, World.setProc, lookup_of_mem hl.ids hid, hc]
    have hv := h.view hl.ids hl.distinct hid hpp'
    exact h.of_view hl.ids hl.distinct hid hpp' hv

/-- Whether a call is a `gpsd_shutdown`. -/
def LifeEvent.isShutdown : LifeEvent → Bool
  | .shutdown _ => true
  | _ => false

theorem SockInv.step (h : SockInv w.fds w.units w.peers) (hl : ListInv w.units w.nextUnit w.peers)
    (e : LifeEvent) (he : e.isShutdown = false) :
  SockInv (e.step w).fds (e.step w).units (e.step w).peers
  := by
  cases e with
  | start unit peer cfgMode device => exact h.start hl unit peer cfgMode device
  | shutdown peer => simp [LifeEvent.isShutdown] at he
  | timer peer sys => exact h.timer hl peer sys
  | receive peer => exact h.receive hl peer
  | control peer cfgMode fudge1 fudge2 clkFlag3 =>
    exact h.control hl peer cfgMode fudge1 fudge2 clkFlag3

theorem SockInv.run (h : SockInv w.fds w.units w.peers) (hl : ListInv w.units w.nextUnit w.peers)
    {es : List LifeEvent} (hes : ∀ e ∈ es, e.isShutdown = false) {w' : World}
    (hrun : lifeRun w es = some w') :
  SockInv w'.fds w'.units w'.peers
  := by
  induction es generalizing w with
  | nil => cases hrun; exact h
  | cons e es ih =>
    simp only [lifeRun] at hrun
    split at hrun
    · exact ih (h.step hl e (hes e (List.mem_cons_self _ _))) (hl.step e ‹_›)
        (fun e he => hes e (List.mem_cons_of_mem _ he)) hrun
    · cases hrun

end Run

/-- Along every run of starts, timer ticks and receives from the start, whatever the peers,
their interleaving and the outcomes of the system calls, every socket the driver opened is
closed exactly once, or pending in exactly one unit, or held by exactly one peer, and every
socket registered with the I/O engine is held by a peer. -/
theorem lifeRun_sockInv (naddr : Nat) (es : List LifeEvent) (w : World)
    (hes : ∀ e ∈ es, e.isShutdown = false) (hrun : lifeRun (World.init naddr) es = some w) :
  SockInv w.fds w.units w.peers
  := (SockInv.init naddr).run ListInv.init hes hrun

/-- A primary peer starts a connect, which completes on the next tick, and a secondary peer
starts next to it. -/
theorem lifeRun_sockInv_connect :
  ∃ w, lifeRun (World.init 1) [.start 0 1 0 (some (cbytes "/dev/gps0")),
      .timer 1 ⟨true, true, .inProgress, false, false, false⟩,
      .timer 1 ⟨true, true, .ok, true, false, true⟩, .start 128 2 0 (some (cbytes "/dev/gps0"))]
    = some w ∧ SockInv w.fds w.units w.peers
  := by
  have hrun : lifeRun (World.init 1) [.start 0 1 0 (some (cbytes "/dev/gps0")),
      .timer 1 ⟨true, true, .inProgress, false, false, false⟩,
      .timer 1 ⟨true, true, .ok, true, false, true⟩, .start 128 2 0 (some (cbytes "/dev/gps0"))]
      = some _ := rfl
  exact ⟨_, hrun, lifeRun_sockInv 1 _ _ (by decide) hrun⟩

end GpsdJson
