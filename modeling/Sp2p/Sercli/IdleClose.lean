import Sp2p.Lib.Runs
import Sp2p.Sercli.NodeConnection

/-!
# Closing idle connections

The deadline timer is to close a connection on which nothing was asked for some time. But
`closeConnection` is the handler of every wait and is not told how the wait completed, so a wait that
a reset aborts closes the connection it was to keep. `closesIdle_of_genuine` says in which runs only
idle connections are closed. Each handler is one step here.
-/

namespace Sp2p.Sercli

open Runs

namespace NodeConnection

variable {nc nc' : NodeConnection}

/-- The calls, and what the `io_service` does in any order with them. -/
inductive Event
  | connect (attempt : Attempt)
  | resetDeadlineTimer (seconds : Nat)
  | stopDeadlineTimer
  | io (e : Io)
  /-- The handler of the `i`-th completed wait: `closeConnection`. -/
  | handler (i : Nat)

def step (timeout : Nat) (nc : NodeConnection) : Event → Option NodeConnection
  | .connect attempt => nc.connect timeout attempt
  | .resetDeadlineTimer seconds => some (nc.resetDeadlineTimer seconds)
  | .stopDeadlineTimer => some nc.stopDeadlineTimer
  | .io e => nc.io e
  | .handler i => do
    let _ ← nc.timer.completed[i]?
    { nc with timer := nc.timer.take i }.closeConnection

/-- A connection is closed only when the timeout has passed since the latest call. -/
def ClosesIdle (timeout : Nat) (nc : NodeConnection) : Event → Prop
  | .handler i => ∀ _ ∈ nc.timer.completed[i]?, nc.isActive = true →
      nc.touched + timeout ≤ nc.timer.now
  | _ => True

/-- A handler that finds a connection active is that of the last wait, which was not aborted, and no
reset waits in the strand. The calls are those of `Node`. -/
def Genuine (timeout : Nat) (nc : NodeConnection) : Event → Prop
  | .connect _ => nc.isActive = false
  | .resetDeadlineTimer seconds => timeout ≤ seconds
  | .handler i => ∀ c ∈ nc.timer.completed[i]?, nc.isActive = true →
      c.Latest nc.timer ∧ ∀ p ∈ nc.strand, p.isReset = false
  | _ => True

instance (timeout : Nat) : ∀ e, Decidable (nc.ClosesIdle timeout e)
  | .handler i => inferInstanceAs (Decidable (∀ _ ∈ nc.timer.completed[i]?, _ → _))
  | .connect _ | .resetDeadlineTimer _ | .stopDeadlineTimer | .io _ => .isTrue trivial

instance (timeout : Nat) : ∀ e, Decidable (nc.Genuine timeout e)
  | .connect _ => inferInstanceAs (Decidable (_ = _))
  | .resetDeadlineTimer seconds => inferInstanceAs (Decidable (timeout ≤ seconds))
  | .handler i => inferInstanceAs (Decidable (∀ _ ∈ nc.timer.completed[i]?, _ → _ ∧ _))
  | .stopDeadlineTimer | .io _ => .isTrue trivial

/-- The expiry is late enough for an active connection, unless a reset is still to set it. -/
structure Guarded (timeout : Nat) (nc : NodeConnection) : Prop where
  sound : nc.timer.Sound
  touched : nc.touched ≤ nc.timer.now
  resets : ∀ seconds, .reset seconds ∈ nc.strand → timeout ≤ seconds
  expiry : nc.isActive = true → (∀ p ∈ nc.strand, p.isReset = false) →
    nc.touched + timeout ≤ nc.timer.expiry

namespace Guarded

variable {timeout : Nat}

theorem init : Guarded timeout {} where
  sound := .init
  touched := Nat.le_refl _
  resets _ h := absurd h List.not_mem_nil
  expiry h := absurd h (by decide)

theorem connect {attempt : Attempt} (h : nc.Guarded timeout) (hactive : nc.isActive = false)
    (hstep : nc.connect timeout attempt = some nc') : nc'.Guarded timeout := by
  rcases connect_eq_some hactive hstep with rfl | rfl | rfl
  · refine ⟨h.sound, Nat.le_refl _, h.resets, fun hactive' => ?_⟩
    rw [show nc.touch.isActive = nc.isActive from rfl, hactive] at hactive'
    cases hactive'
  · exact ⟨h.sound, Nat.le_refl _, h.resets, fun hactive' => by cases hactive'⟩
  · exact ⟨h.sound.restart timeout, Nat.le_refl _, h.resets, fun _ _ => Nat.le_refl _⟩

theorem resetDeadlineTimer {seconds : Nat} (h : nc.Guarded timeout) (hseconds : timeout ≤ seconds) :
    (nc.resetDeadlineTimer seconds).Guarded timeout where
  sound := h.sound
  touched := Nat.le_refl _
  resets seconds' hmem := by
    rcases List.mem_append.1 hmem with hmem | hmem
    · exact h.resets seconds' hmem
    · obtain rfl : seconds' = seconds := by simpa using hmem
      exact hseconds
  expiry _ hnone := by
    have hposted : Posted.reset seconds ∈ (nc.resetDeadlineTimer seconds).strand :=
      List.mem_append_right _ List.mem_cons_self
    cases hnone _ hposted

theorem post (h : nc.Guarded timeout) {p : Posted} (hp : p.isReset = false) :
    (nc.post p).Guarded timeout where
  sound := h.sound
  touched := h.touched
  resets seconds hmem := by
    rcases List.mem_append.1 hmem with hmem | hmem
    · exact h.resets seconds hmem
    · obtain rfl := List.mem_singleton.1 hmem
      cases hp
  expiry hactive hnone := h.expiry hactive fun q hq => hnone q (List.mem_append_left _ hq)

/-- The reset that was called last, or a later one, sets the expiry. -/
theorem runStrand (h : nc.Guarded timeout) (hstep : nc.runStrand = some nc') :
    nc'.Guarded timeout := by
  obtain ⟨p, strand, hstrand, hrun⟩ := runStrand_eq_some hstep
  have hresets : ∀ seconds, .reset seconds ∈ strand → timeout ≤ seconds := by
    intro seconds hmem
    refine h.resets seconds ?_
    rw [hstrand]
    exact List.mem_cons_of_mem _ hmem
  have hexpiry : p.isReset = false → nc.isActive = true → (∀ q ∈ strand, q.isReset = false) →
      nc.touched + timeout ≤ nc.timer.expiry := by
    intro hp hactive hnone
    refine h.expiry hactive ?_
    rw [hstrand]
    exact List.forall_mem_cons.2 ⟨hp, hnone⟩
  cases p with
  | reset seconds =>
    obtain rfl := Option.some_inj.1 hrun
    have hseconds := h.resets seconds (by rw [hstrand]; exact List.mem_cons_self)
    refine ⟨h.sound.restart seconds, h.touched, hresets, fun _ _ => ?_⟩
    exact Nat.add_le_add h.touched hseconds
  | cancel =>
    obtain rfl := Option.some_inj.1 hrun
    exact ⟨h.sound.cancel, h.touched, hresets, hexpiry rfl⟩
  | stop =>
    obtain ⟨k, -, rfl⟩ := Option.map_eq_some_iff.1 hrun
    refine ⟨h.sound, h.touched, hresets, fun hactive => hexpiry rfl ?_⟩
    exact (Aged.of_runStrand hstep).isActive hactive

/-- Steps that touch neither the strand nor the timer. -/
theorem aged (h : nc.Guarded timeout) (haged : nc.Aged nc') (htimer : nc'.timer = nc.timer)
    (hstrand : nc'.strand = nc.strand) (htouched : nc'.touched = nc.touched) :
    nc'.Guarded timeout where
  sound := htimer ▸ h.sound
  touched := by
    rw [htouched, htimer]
    exact h.touched
  resets := by
    rw [hstrand]
    exact h.resets
  expiry hactive hnone := by
    rw [htouched, htimer]
    exact h.expiry (haged.isActive hactive) (hstrand ▸ hnone)

theorem io {e : Io} (h : nc.Guarded timeout) (hstep : nc.io e = some nc') : nc'.Guarded timeout := by
  have haged := Aged.of_io hstep
  cases e with
  | runStrand => exact h.runStrand hstep
  | runConnection k =>
    obtain ⟨c, c', -, -, rfl⟩ := runConnection_eq_some hstep
    exact h.aged haged rfl rfl rfl
  | stop k =>
    obtain rfl := Option.some_inj.1 hstep
    exact h.aged haged rfl rfl rfl
  | tick =>
    obtain rfl := Option.some_inj.1 hstep
    exact ⟨h.sound.tick, Nat.le_succ_of_le h.touched, h.resets, h.expiry⟩
  | expire =>
    obtain ⟨timer, htimer, rfl⟩ := Option.map_eq_some_iff.1 hstep
    have hsound := h.sound.expire htimer
    obtain ⟨-, rfl⟩ := DeadlineTimer.expire_eq_some.1 htimer
    exact ⟨hsound, h.touched, h.resets, h.expiry⟩

theorem handler {i : Nat} (h : nc.Guarded timeout)
    (hstep : { nc with timer := nc.timer.take i }.closeConnection = some nc') :
    nc'.Guarded timeout := by
  rcases closeConnection_eq_some hstep with ⟨-, rfl⟩ | ⟨-, k, -, rfl⟩
  · exact ⟨h.sound.take i, h.touched, h.resets, h.expiry⟩
  · refine ⟨h.sound.take i, h.touched, ?_, fun hactive => by cases hactive⟩
    exact (h.post (p := .cancel) rfl).resets

theorem step {e : Event} (h : nc.Guarded timeout) (hgenuine : nc.Genuine timeout e)
    (hstep : nc.step timeout e = some nc') : nc'.Guarded timeout := by
  cases e with
  | connect attempt => exact h.connect hgenuine hstep
  | resetDeadlineTimer seconds =>
    obtain rfl := Option.some_inj.1 hstep
    exact h.resetDeadlineTimer hgenuine
  | stopDeadlineTimer =>
    obtain rfl := Option.some_inj.1 hstep
    exact h.post rfl
  | io e => exact h.io hstep
  | handler i =>
    obtain ⟨c, -, hclose⟩ := Option.bind_eq_some_iff.1 hstep
    exact h.handler hclose

/-- A genuine handler comes late enough. -/
theorem closesIdle {e : Event} (h : nc.Guarded timeout) (hgenuine : nc.Genuine timeout e) :
    nc.ClosesIdle timeout e := by
  cases e with
  | handler i =>
    intro c hc hactive
    obtain ⟨hlatest, hnone⟩ := hgenuine c hc hactive
    have hmem : c ∈ nc.timer.completed := List.mem_of_getElem? hc
    exact Nat.le_trans (h.expiry hactive hnone) (h.sound.expired c hmem hlatest)
  | _ => trivial

end Guarded

end NodeConnection

end Sp2p.Sercli
