import Mathlib.Tactic.Common

/-!
# Deadline timers

A timer with one expiry time and any number of asynchronous waits for it. A wait completes when the
time has come, or with `operation_aborted` when a new expiry is set or the timer is cancelled. Its
handler runs some time after that, and gets to know how the wait completed. `Sound.expired` is what
follows for the handler of the last wait: if the wait was not aborted, the expiry has passed.
-/

/-- A wait that completed; its handler has not run yet. -/
structure DeadlineTimer.Completion where
  wait : Nat
  aborted : Bool
  deriving DecidableEq

/-- Waits are numbered in the order in which they were started. -/
structure DeadlineTimer where
  now : Nat := 0
  expiry : Nat := 0
  waits : Nat := 0
  pending : List Nat := []
  completed : List DeadlineTimer.Completion := []
  deriving DecidableEq

namespace DeadlineTimer

variable {t : DeadlineTimer} {d i : Nat} {c : Completion}

def complete (t : DeadlineTimer) (aborted : Bool) : DeadlineTimer :=
  { t with pending := [], completed := t.completed ++ t.pending.map (⟨·, aborted⟩) }

def cancel (t : DeadlineTimer) : DeadlineTimer := t.complete true

def expiresFromNow (t : DeadlineTimer) (d : Nat) : DeadlineTimer :=
  { t.cancel with expiry := t.now + d }

def asyncWait (t : DeadlineTimer) : DeadlineTimer :=
  { t with waits := t.waits + 1, pending := t.pending ++ [t.waits] }

/-- A new expiry, and a wait for it. -/
def restart (t : DeadlineTimer) (d : Nat) : DeadlineTimer := (t.expiresFromNow d).asyncWait

/-- The expiry has come. -/
def expire (t : DeadlineTimer) : Option DeadlineTimer :=
  if t.expiry ≤ t.now then some (t.complete false) else none

def tick (t : DeadlineTimer) : DeadlineTimer := { t with now := t.now + 1 }

/-- The handler of the `i`-th completed wait is taken to be run. -/
def take (t : DeadlineTimer) (i : Nat) : DeadlineTimer :=
  { t with completed := t.completed.eraseIdx i }

/-- The wait did complete by expiry, and no other was started since. -/
def Completion.Latest (c : Completion) (t : DeadlineTimer) : Prop :=
  c.aborted = false ∧ c.wait + 1 = t.waits

instance : Decidable (c.Latest t) := inferInstanceAs (Decidable (_ ∧ _))

theorem mem_completed_complete {aborted : Bool} :
    c ∈ (t.complete aborted).completed ↔
      c ∈ t.completed ∨ c.wait ∈ t.pending ∧ c.aborted = aborted := by
  obtain ⟨wait, a⟩ := c
  simp only [complete, List.mem_append, List.mem_map, Completion.mk.injEq]
  constructor
  · rintro (h | ⟨w, hw, rfl, rfl⟩)
    · exact .inl h
    · exact .inr ⟨hw, rfl⟩
  · rintro (h | ⟨hw, rfl⟩)
    · exact .inl h
    · exact .inr ⟨wait, hw, rfl, rfl⟩

theorem expire_eq_some {t' : DeadlineTimer} :
    t.expire = some t' ↔ t.expiry ≤ t.now ∧ t' = t.complete false := by
  by_cases h : t.expiry ≤ t.now
  · simp [expire, h, eq_comm]
  · simp [expire, h]

/-- Every wait was started, and the last one completed by itself only after the expiry. -/
structure Sound (t : DeadlineTimer) : Prop where
  pending : ∀ w ∈ t.pending, w < t.waits
  completed : ∀ c ∈ t.completed, c.wait < t.waits
  expired : ∀ c ∈ t.completed, c.Latest t → t.expiry ≤ t.now

namespace Sound

theorem init : Sound {} where
  pending _ h := absurd h List.not_mem_nil
  completed _ h := absurd h List.not_mem_nil
  expired _ h := absurd h List.not_mem_nil

theorem cancel (h : t.Sound) : t.cancel.Sound where
  pending _ hw := absurd hw List.not_mem_nil
  completed c hc := by
    rcases mem_completed_complete.1 hc with hc | ⟨hc, -⟩
    · exact h.completed c hc
    · exact h.pending _ hc
  expired c hc hlatest := by
    rcases mem_completed_complete.1 hc with hc | ⟨-, haborted⟩
    · exact h.expired c hc hlatest
    · rw [hlatest.1] at haborted
      cases haborted

/-- The waits from before the restart are not the last any more. -/
theorem restart (h : t.Sound) (d : Nat) : (t.restart d).Sound where
  pending w hw := by
    obtain rfl : w = t.waits := by simpa [DeadlineTimer.restart, asyncWait, expiresFromNow,
      DeadlineTimer.cancel, complete] using hw
    exact Nat.lt_succ_self _
  completed c hc := Nat.lt_succ_of_lt (h.cancel.completed c hc)
  expired c hc hlatest := by
    have hlt : c.wait < t.waits := h.cancel.completed c hc
    have hlast : c.wait + 1 = t.waits + 1 := hlatest.2
    omega

theorem expire {t' : DeadlineTimer} (h : t.Sound) (ht : t.expire = some t') : t'.Sound := by
  obtain ⟨hexpiry, rfl⟩ := expire_eq_some.1 ht
  constructor
  · intro w hw
    exact absurd hw List.not_mem_nil
  · intro c hc
    rcases mem_completed_complete.1 hc with hc | ⟨hc, -⟩
    · exact h.completed c hc
    · exact h.pending _ hc
  · intro c _ _
    exact hexpiry

theorem tick (h : t.Sound) : t.tick.Sound where
  pending := h.pending
  completed := h.completed
  expired c hc hlatest := Nat.le_succ_of_le (h.expired c hc hlatest)

theorem take (h : t.Sound) (i : Nat) : (t.take i).Sound where
  pending := h.pending
  completed c hc := h.completed c (List.mem_of_mem_eraseIdx hc)
  expired c hc := h.expired c (List.mem_of_mem_eraseIdx hc)

end Sound

end DeadlineTimer
