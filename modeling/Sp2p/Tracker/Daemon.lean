import Sp2p.Lib.Runs

/-!
# The cleaning daemon

`startDaemon` runs `daemonFunction` on a thread of a temporary `boost::thread`, which is detached when
the statement ends; the member `daemon` is never assigned, so the interrupt of `stopDaemon` has no
thread to reach. The constructor gives `isDaemonRunning` no value. `Controlled` is what the flag and the
threads are to be like, and `controlled_iff_along` says for which calls they are.
-/

namespace Sp2p.Tracker

/-- A thread that runs `daemonFunction`. -/
structure DaemonThread where
  refresheRate : Int
  ttl : Int
  interrupted : Bool := false
  returned : Bool := false
deriving DecidableEq

/-- A call of `cleanSome`: the thread, its argument, whether the thread returns after it, and whether a
`stopDaemon` had returned since the thread was started. -/
structure CleanCall where
  thread : Nat
  ttl : Int
  final : Bool
  afterStop : Bool
deriving DecidableEq

/-- `threads` are all that were started, in that order, and `daemon` is the one the handle refers to,
`none` for Not-a-Thread. `stopped` counts the threads started before the last `stopDaemon`. -/
structure Daemon where
  isDaemonRunning : Bool
  daemon : Option Nat := none
  threads : List DaemonThread := []
  cleaned : List CleanCall := []
  stopped : Nat := 0
deriving DecidableEq

inductive DaemonEvent
  | startDaemon (refresheRate ttl : Int)
  | stopDaemon
  /-- The sleep of a thread is over, or is interrupted; `now` is the clock. -/
  | wakeUp (thread : Nat) (now : Int)
deriving DecidableEq

/-- It sleeps or cleans, and its next sleep is not interrupted. -/
def DaemonThread.goesOn (t : DaemonThread) : Prop := t.interrupted = false ∧ t.returned = false

instance (t : DaemonThread) : Decidable t.goesOn := inferInstanceAs (Decidable (_ ∧ _))

namespace Daemon

def startDaemon (s : Daemon) (refresheRate ttl : Int) : Daemon :=
  { s with
    threads := s.threads ++ [{ refresheRate := refresheRate, ttl := ttl }]
    isDaemonRunning := true }

def interrupt (s : Daemon) : Daemon :=
  match s.daemon with
  | none => s
  | some i => { s with threads := s.threads.modify i fun t => { t with interrupted := true } }

def stopDaemon (s : Daemon) : Daemon :=
  { s.interrupt with
    isDaemonRunning := false
    stopped := s.threads.length }

def daemonRunning (s : Daemon) : Bool := s.isDaemonRunning

/-- One round of the loop of `daemonFunction`. -/
def wakeUp (s : Daemon) (i : Nat) (now : Int) : Option Daemon := do
  let t ← s.threads[i]?
  if t.returned then none
  else
    let s := { s with
      cleaned := s.cleaned ++ [⟨i, now - t.ttl, t.interrupted, decide (i < s.stopped)⟩] }
    if t.interrupted then
      some { s with threads := s.threads.modify i fun t => { t with returned := true } }
    else some s

def step (s : Daemon) : DaemonEvent → Option Daemon
  | .startDaemon refresheRate ttl => some (s.startDaemon refresheRate ttl)
  | .stopDaemon => some s.stopDaemon
  | .wakeUp i now => s.wakeUp i now

/-- The flag tells whether a thread will go on cleaning, there is one at most, and what was cleaned by a
thread after it was stopped is that thread's last. -/
structure Controlled (s : Daemon) : Prop where
  flag : s.daemonRunning = true ↔ ∃ t ∈ s.threads, t.goesOn
  once : ∀ (i j : Nat) (t t' : DaemonThread), s.threads[i]? = some t → s.threads[j]? = some t' →
    t.goesOn → t'.goesOn → i = j
  final : ∀ c ∈ s.cleaned, c.afterStop = true → c.final = true

/-- A call of `startDaemon` or `stopDaemon` comes before any thread was started. -/
def Unstarted (s : Daemon) : DaemonEvent → Prop
  | .wakeUp .. => True
  | _ => s.threads = []

/-- What the code keeps whatever is called: no thread is ever reached. -/
structure Unreached (s : Daemon) : Prop where
  daemon : s.daemon = none
  goesOn : ∀ t ∈ s.threads, t.goesOn
  stopped : s.stopped ≤ s.threads.length
  flag : s.stopped = s.threads.length → s.threads ≠ [] → s.isDaemonRunning = false

variable {s s' : Daemon}

/-! ### One event -/

theorem Unreached.interrupt_eq (h : Unreached s) : s.interrupt = s := by
  unfold interrupt
  rw [h.daemon]

theorem Unreached.stopDaemon_eq (h : Unreached s) :
    s.stopDaemon = { s with isDaemonRunning := false, stopped := s.threads.length } := by
  rw [stopDaemon, h.interrupt_eq]

/-- A thread that wakes up cleans and sleeps again. -/
theorem Unreached.wakeUp_eq (h : Unreached s) {i : Nat} {now : Int} (hs' : s.wakeUp i now = some s') :
    ∃ t, s.threads[i]? = some t ∧
      s' = { s with cleaned := s.cleaned ++ [⟨i, now - t.ttl, false, decide (i < s.stopped)⟩] } := by
  obtain ⟨t, ht, hs'⟩ := Option.bind_eq_some_iff.1 hs'
  obtain ⟨hinterrupted, hreturned⟩ := h.goesOn t (List.mem_of_getElem? ht)
  simp only [hreturned, hinterrupted, Bool.false_eq_true, if_false, Option.some_inj] at hs'
  exact ⟨t, ht, hs'.symm⟩

theorem unreached_step (e : DaemonEvent) (h : Unreached s) (hs' : s.step e = some s') :
    Unreached s' := by
  cases e with
  | startDaemon refresheRate ttl =>
    obtain rfl := Option.some_inj.1 hs'
    refine ⟨h.daemon, ?_, ?_, ?_⟩
    · intro t ht
      rcases List.mem_append.1 ht with ht | ht
      · exact h.goesOn t ht
      · rw [List.mem_singleton.1 ht]
        exact ⟨rfl, rfl⟩
    · have hstopped := h.stopped
      simp only [startDaemon, List.length_append, List.length_singleton]
      omega
    · intro hall
      have hstopped := h.stopped
      simp only [startDaemon, List.length_append, List.length_singleton] at hall
      omega
  | stopDaemon =>
    obtain rfl := Option.some_inj.1 hs'
    rw [h.stopDaemon_eq]
    exact ⟨h.daemon, h.goesOn, Nat.le_refl _, fun _ _ => rfl⟩
  | wakeUp i now =>
    obtain ⟨t, -, rfl⟩ := h.wakeUp_eq hs'
    exact ⟨h.daemon, h.goesOn, h.stopped, h.flag⟩

/-- With the flag and the threads in step there is one thread at most, started since the last stop. -/
theorem Controlled.stopped_eq_zero (hc : Controlled s) (h : Unreached s) : s.stopped = 0 := by
  by_contra hstopped
  have hle := h.stopped
  obtain ⟨t, ht⟩ : ∃ t, s.threads[0]? = some t := ⟨_, List.getElem?_eq_getElem (by omega)⟩
  have hmem := List.mem_of_getElem? ht
  have hrunning := hc.flag.2 ⟨t, hmem, h.goesOn t hmem⟩
  have hlength : s.threads.length = 1 := by
    by_contra hlength
    obtain ⟨t', ht'⟩ : ∃ t', s.threads[1]? = some t' := ⟨_, List.getElem?_eq_getElem (by omega)⟩
    have hsame := hc.once 0 1 t t' ht ht' (h.goesOn t hmem) (h.goesOn t' (List.mem_of_getElem? ht'))
    omega
  have hflag := h.flag (by omega) (List.ne_nil_of_mem hmem)
  rw [daemonRunning, hflag] at hrunning
  cases hrunning

/-- **One event.** What is in step stays so exactly when the event is a wake-up, or nothing was started
before it. -/
theorem controlled_step_iff (e : DaemonEvent) (h : Unreached s) (hc : Controlled s)
    (hs' : s.step e = some s') : Controlled s' ↔ Unstarted s e := by
  cases e with
  | startDaemon refresheRate ttl =>
    obtain rfl := Option.some_inj.1 hs'
    show Controlled (s.startDaemon refresheRate ttl) ↔ s.threads = []
    constructor
    · intro hc'
      by_contra hne
      obtain ⟨t, ht⟩ : ∃ t, s.threads[0]? = some t :=
        ⟨_, List.getElem?_eq_getElem (List.length_pos_iff.2 hne)⟩
      have hfirst : (s.startDaemon refresheRate ttl).threads[0]? = some t := by
        rw [startDaemon, List.getElem?_append_left (List.length_pos_iff.2 hne), ht]
      have hnew : (s.startDaemon refresheRate ttl).threads[s.threads.length]? =
          some { refresheRate := refresheRate, ttl := ttl } := List.getElem?_concat_length
      have hsame := hc'.once _ _ _ _ hfirst hnew (h.goesOn t (List.mem_of_getElem? ht)) ⟨rfl, rfl⟩
      exact hne (List.length_eq_zero_iff.1 hsame.symm)
    · intro hnil
      refine ⟨iff_of_true rfl ⟨_, List.mem_append_right _ (List.mem_singleton_self _), rfl, rfl⟩, ?_,
        hc.final⟩
      intro i j t t' ht ht' _ _
      simp only [startDaemon, hnil, List.nil_append, List.getElem?_singleton,
        Option.ite_none_right_eq_some] at ht ht'
      rw [ht.1, ht'.1]
  | stopDaemon =>
    obtain rfl := Option.some_inj.1 hs'
    show Controlled s.stopDaemon ↔ s.threads = []
    rw [h.stopDaemon_eq]
    constructor
    · intro hc'
      by_contra hne
      obtain ⟨t, ht⟩ := List.exists_mem_of_ne_nil _ hne
      exact absurd (hc'.flag.2 ⟨t, ht, h.goesOn t ht⟩) Bool.false_ne_true
    · intro hnil
      refine ⟨iff_of_false Bool.false_ne_true ?_, hc.once, hc.final⟩
      rintro ⟨t, ht, -⟩
      rw [show s.threads = [] from hnil] at ht
      cases ht
  | wakeUp i now =>
    obtain ⟨t, ht, rfl⟩ := h.wakeUp_eq hs'
    refine iff_of_true ⟨hc.flag, hc.once, ?_⟩ trivial
    intro c hmem hafter
    rcases List.mem_append.1 hmem with hmem | hmem
    · exact hc.final c hmem hafter
    · rw [List.mem_singleton.1 hmem, hc.stopped_eq_zero h] at hafter
      cases hafter

/-! ### Runs -/

/-- A new `SessionControler`, with what happens to be where the flag is. -/
def new (isDaemonRunning : Bool) : Daemon := { isDaemonRunning := isDaemonRunning }

theorem unreached_new (b : Bool) : Unreached (new b) :=
  ⟨rfl, fun _ h => (nomatch h), Nat.le_refl _, fun _ h => absurd rfl h⟩

theorem controlled_new_iff (b : Bool) : Controlled (new b) ↔ b = false := by
  constructor
  · intro h
    rw [← Bool.not_eq_true]
    intro hb
    obtain ⟨t, ht, -⟩ := h.flag.1 hb
    cases ht
  · rintro rfl
    exact ⟨by simp [daemonRunning, new], by simp [new], by simp [new]⟩

/-- **The daemon is under control all the time exactly when the flag happens to be false in the beginning,
and no call of `startDaemon` or `stopDaemon` comes after the first start.** -/
theorem controlled_iff_along (b : Bool) (es : List DaemonEvent) (t : Daemon)
    (hrun : Runs.run step (new b) es = some t) :
    (∀ part s', part <+: es → Runs.run step (new b) part = some s' → Controlled s') ↔
      b = false ∧ Runs.Along step Unstarted (new b) es := by
  have hbase := unreached_new b
  have hall := fun h => Runs.inv_iff_along Unreached (fun s e s' h hs' => unreached_step e h hs')
    (fun s e s' h hc hs' => controlled_step_iff e h hc hs') hbase h hrun
  constructor
  · intro h
    have hnew : Controlled (new b) := h [] (new b) List.nil_prefix rfl
    exact ⟨(controlled_new_iff b).1 hnew, (hall hnew).1 h⟩
  · rintro ⟨hb, halong⟩
    exact (hall ((controlled_new_iff b).2 hb)).2 halong

theorem controlled_iff_along_started :
    (∀ part s', part <+: [.startDaemon 1000 60000, .wakeUp 0 5000] →
      Runs.run step (new false) part = some s' → Controlled s') ↔
      false = false ∧ Runs.Along step Unstarted (new false)
        [.startDaemon 1000 60000, .wakeUp 0 5000] :=
  controlled_iff_along false [.startDaemon 1000 60000, .wakeUp 0 5000] _ rfl

/-- The daemon is started and stopped: it cleans as before, and the flag says that it does not run. -/
theorem stopDaemon_not_controlled :
    ∃ s, Runs.run step (new false) [.startDaemon 1000 60000, .stopDaemon, .wakeUp 0 70000] = some s ∧
      s.daemonRunning = false ∧ s.threads = [⟨1000, 60000, false, false⟩] ∧
      s.cleaned = [⟨0, 10000, false, true⟩] ∧ ¬ Controlled s := by
  refine ⟨_, rfl, rfl, rfl, rfl, fun h => ?_⟩
  exact absurd (h.flag.2 ⟨_, List.mem_singleton_self _, rfl, rfl⟩) Bool.false_ne_true

end Daemon

end Sp2p.Tracker
