import Sp2p.Sercli.Archive
import Sp2p.Sercli.ConnectionLife
import Sp2p.Sercli.ConnectionUse

/-!
# Stopping the connections of a node

`stopConnections` posts a stop to the strand of the `NodeConnection` and resets the pointer; the stop
reads the pointer when it runs. Before that it logs the remote endpoint of a socket that is never
connected, which throws when the record is opened. `stops_iff` says in which orders the right
connection is stopped.

The thread that calls the operations of the node is in `stopConnections` until that is over.
-/

namespace Sp2p.Sercli

open Runs

/-- Where a run of `stopConnections` is that has found the node active. -/
inductive Stopper
  | active
  | posted
  | reset
  | returned
  | thrown
  deriving DecidableEq

def Stopper.isOver : Stopper → Bool
  | .returned | .thrown => true
  | _ => false

/-- `ahead` counts the lambdas that run before the posted stop, while it waits, and `ran` is the pointer
it has read. `left` says whether the node was active when the call returned. -/
structure Stopping where
  threads : NodeThreads
  stopper : Stopper := .active
  ahead : Option Nat := none
  ran : Option (Option Nat) := none
  left : Bool := false
  deriving DecidableEq

namespace Stopping

inductive Event
  | next
  | threads (e : NodeThreads.Event)

def start (threads : NodeThreads) : Stopping := { threads }

/-- The next step of `stopConnections`. `opened` says whether the log takes records of level debug. -/
def next (opened : Bool) (s : Stopping) : Option Stopping :=
  match s.stopper with
  | .active =>
    if opened then some { s with stopper := .thrown }
    else some { s with
      threads := { s.threads with nc := s.threads.nc.post .stop }
      stopper := .posted
      ahead := some s.threads.nc.strand.length }
  | .posted => some { s with
      threads := { s.threads with nc := s.threads.nc.resetPointer }
      stopper := .reset }
  | .reset => some { s with
      threads := { s.threads with nc := s.threads.nc.stopDeadlineTimer }
      stopper := .returned
      left := s.threads.nc.isActive }
  | .returned | .thrown => none

/-- The strand runs what is first. On the null pointer the posted stop crashes. -/
def runStrand (timeout : Nat) (s : Stopping) : Option Stopping :=
  let threads := s.threads.step timeout (.io .runStrand)
  match s.ahead with
  | none => threads.map fun threads => { s with threads }
  | some (n + 1) => threads.map fun threads => { s with threads, ahead := some n }
  | some 0 =>
    match s.threads.nc.connection with
    | none => some { s with ahead := none, ran := some none }
    | some k => threads.map fun threads => { s with threads, ahead := none, ran := some (some k) }

def step (timeout : Nat) (opened : Bool) (s : Stopping) (e : Event) : Option Stopping :=
  if s.ran = some none then none
  else
    match e with
    | .next => s.next opened
    | .threads (.io .runStrand) => s.runStrand timeout
    | .threads e =>
      if e.ofOthers = true ∨ s.stopper.isOver = true then
        (s.threads.step timeout e).map fun threads => { s with threads }
      else none

/-- The call and what it has posted, also to the connection, have run. -/
def Settled (k : Nat) (s : Stopping) : Prop :=
  s.stopper = .thrown ∨ s.ran = some none ∨
    s.stopper = .returned ∧ s.ran ≠ none ∧ ∃ c ∈ s.threads.nc.connections[k]?, c.posted = []

/-- The call has returned and left the node inactive; the posted stop has run on the connection and on no
other, and it is stopped and removed. -/
structure Stops (k : Nat) (s : Stopping) : Prop where
  returns : s.stopper = .returned
  left : s.left = false
  target : s.ran = some (some k)
  removed : k ∉ s.threads.nc.managed
  stopped : ∃ c, s.threads.nc.connections[k]? = some c ∧ c.isOpen = false ∧ c.isActive = false

/-- The stop is still to run, or to be posted. -/
def Pending (s : Stopping) : Prop := s.stopper = .active ∨ s.ahead ≠ none

/-- The step is a `connection.reset()`, of the call itself or of a `closeConnection`. -/
def Resets (s : Stopping) : Event → Prop
  | .next => s.stopper = .posted
  | .threads (.closer i) => s.threads.closers[i]? = some .cancelled
  | _ => False

/-- The pointer is not reset before the stop has run. -/
def InTime (s : Stopping) (e : Event) : Prop := s.Resets e → ¬ s.Pending

instance (s : Stopping) : Decidable s.Pending := inferInstanceAs (Decidable (_ ∨ _))

instance (s : Stopping) : ∀ e, Decidable (s.Resets e)
  | .next => inferInstanceAs (Decidable (_ = _))
  | .threads (.closer _) => inferInstanceAs (Decidable (_ = _))
  | .threads (.call _) | .threads (.next _) | .threads (.receive _ _) | .threads .sendError
  | .threads (.stopConnections _) | .threads (.handler _) | .threads (.io _) | .threads (.answer _)
  | .threads (.asyncReceive _ _) => .isFalse id

instance (s : Stopping) (e : Event) : Decidable (s.InTime e) := inferInstanceAs (Decidable (_ → _))

variable {timeout k : Nat} {opened : Bool} {s s' : Stopping} {e : Event}

/-! ### What a step does -/

inductive Move (timeout : Nat) (opened : Bool) (s s' : Stopping) : Event → Prop
  | throws (hstopper : s.stopper = .active) (hopened : opened = true)
      (hs' : s' = { s with stopper := .thrown }) : Move timeout opened s s' .next
  | posts (hstopper : s.stopper = .active) (hopened : opened = false)
      (hs' : s' = { s with
        threads := { s.threads with nc := s.threads.nc.post .stop }
        stopper := .posted
        ahead := some s.threads.nc.strand.length }) : Move timeout opened s s' .next
  | resets (hstopper : s.stopper = .posted)
      (hs' : s' = { s with
        threads := { s.threads with nc := s.threads.nc.resetPointer }
        stopper := .reset }) : Move timeout opened s s' .next
  | returns (hstopper : s.stopper = .reset)
      (hs' : s' = { s with
        threads := { s.threads with nc := s.threads.nc.stopDeadlineTimer }
        stopper := .returned
        left := s.threads.nc.isActive }) : Move timeout opened s s' .next
  | crashes (hahead : s.ahead = some 0) (hptr : s.threads.nc.connection = none)
      (hs' : s' = { s with ahead := none, ran := some none }) :
      Move timeout opened s s' (.threads (.io .runStrand))
  | stops (k : Nat) (threads : NodeThreads) (hahead : s.ahead = some 0)
      (hptr : s.threads.nc.connection = some k)
      (hstep : s.threads.step timeout (.io .runStrand) = some threads)
      (hs' : s' = { s with threads, ahead := none, ran := some (some k) }) :
      Move timeout opened s s' (.threads (.io .runStrand))
  | advances (n : Nat) (threads : NodeThreads) (hahead : s.ahead = some (n + 1))
      (hstep : s.threads.step timeout (.io .runStrand) = some threads)
      (hs' : s' = { s with threads, ahead := some n }) :
      Move timeout opened s s' (.threads (.io .runStrand))
  /-- The step is not of the call, and not one that the posted stop waits for. -/
  | other (e : NodeThreads.Event) (threads : NodeThreads)
      (hahead : e = .io .runStrand → s.ahead = none)
      (hmay : e.ofOthers = true ∨ s.stopper.isOver = true)
      (hstep : s.threads.step timeout e = some threads) (hs' : s' = { s with threads }) :
      Move timeout opened s s' (.threads e)

theorem move_runStrand (h : s.runStrand timeout = some s') :
    Move timeout opened s s' (.threads (.io .runStrand)) := by
  unfold runStrand at h
  cases hahead : s.ahead with
  | none =>
    rw [hahead] at h
    obtain ⟨threads, hstep, rfl⟩ := Option.map_eq_some_iff.1 h
    exact .other _ threads (fun _ => hahead) (.inl rfl) hstep (by rw [hahead])
  | some n =>
    rw [hahead] at h
    cases n with
    | zero =>
      cases hptr : s.threads.nc.connection with
      | none =>
        rw [hptr] at h
        exact .crashes hahead hptr (Option.some_inj.1 h).symm
      | some k =>
        rw [hptr] at h
        obtain ⟨threads, hstep, rfl⟩ := Option.map_eq_some_iff.1 h
        exact .stops k threads hahead hptr hstep rfl
    | succ n =>
      obtain ⟨threads, hstep, rfl⟩ := Option.map_eq_some_iff.1 h
      exact .advances n threads hahead hstep rfl

theorem move_next (h : s.next opened = some s') : Move timeout opened s s' .next := by
  unfold next at h
  cases hstopper : s.stopper with
  | active =>
    simp only [hstopper] at h
    split at h
    · rename_i hopened
      exact .throws hstopper hopened (Option.some_inj.1 h).symm
    · rename_i hopened
      exact .posts hstopper (by simpa using hopened) (Option.some_inj.1 h).symm
  | posted =>
    rw [hstopper] at h
    exact .resets hstopper (Option.some_inj.1 h).symm
  | reset =>
    rw [hstopper] at h
    exact .returns hstopper (Option.some_inj.1 h).symm
  | returned | thrown =>
    rw [hstopper] at h
    cases h

theorem move_step (h : s.step timeout opened e = some s') :
    s.ran ≠ some none ∧ Move timeout opened s s' e := by
  unfold step at h
  split at h
  · cases h
  · rename_i hran
    refine ⟨hran, ?_⟩
    split at h
    · exact move_next h
    · exact move_runStrand h
    · rename_i e hne
      split at h
      · rename_i hmay
        obtain ⟨threads, hstep, rfl⟩ := Option.map_eq_some_iff.1 h
        exact .other e threads (fun he => absurd he (hne ·)) hmay hstep rfl
      · cases h

/-! ### A stop that runs in time -/

/-- How far the stop has come, while the pointer is not reset too early. -/
inductive Phase (k : Nat) (s : Stopping) : Prop
  | active (hstopper : s.stopper = .active) (hran : s.ran = none) (hahead : s.ahead = none)
      (hptr : s.threads.nc.connection = some k)
  /-- The stop is the one of the strand that `ahead` says. -/
  | waiting (n : Nat) (hstopper : s.stopper = .posted) (hran : s.ran = none)
      (hahead : s.ahead = some n) (hpos : s.threads.nc.strand[n]? = some .stop)
      (hptr : s.threads.nc.connection = some k)
  | done (hstopper : s.stopper = .posted ∨
        s.stopper = .reset ∧ s.threads.nc.connection = none ∨
        s.stopper = .returned ∧ s.threads.nc.connection ≠ some k)
      (hran : s.ran = some (some k)) (hahead : s.ahead = none)
      (hmanaged : k ∉ s.threads.nc.managed) (hstop : s.threads.nc.ToStop k)

structure Good (k : Nat) (s : Stopping) : Prop where
  sound : s.threads.nc.Sound
  lt_length : k < s.threads.nc.connections.length
  left : s.left = false
  phase : Phase k s

/-- The posted stop, when the strand comes to it. -/
theorem step_runStrand_stop {threads threads' : NodeThreads}
    (hhead : threads.nc.strand[0]? = some .stop) (hptr : threads.nc.connection = some k)
    (h : threads.step timeout (.io .runStrand) = some threads') :
    threads' = { threads with nc := { threads.nc.update k (·.post .stop) with
      strand := threads.nc.strand.tail
      managed := threads.nc.managed.filter (· ≠ k) } } := by
  obtain ⟨nc, hnc, rfl⟩ := Option.map_eq_some_iff.1 h
  obtain ⟨p, strand, hstrand, hrun⟩ := NodeConnection.runStrand_eq_some hnc
  rw [hstrand] at hhead
  obtain rfl := Option.some_inj.1 hhead
  obtain ⟨j, hj, rfl⟩ := Option.map_eq_some_iff.1 hrun
  obtain rfl := Option.some_inj.1 (hptr.symm.trans hj)
  rw [hstrand]
  rfl

/-- What runs first in the strand leaves the others one place further. -/
theorem step_runStrand_tail {threads threads' : NodeThreads}
    (h : threads.step timeout (.io .runStrand) = some threads') :
    threads'.nc.strand = threads.nc.strand.tail ∧
      threads'.nc.connection = threads.nc.connection := by
  obtain ⟨nc, hnc, rfl⟩ := Option.map_eq_some_iff.1 h
  obtain ⟨hstrand, hptr, -⟩ := NodeConnection.runStrand_effect hnc
  exact ⟨hstrand, hptr⟩

/-- A step in time that is not of the call leaves the pointer while the stop is pending. -/
theorem connection_other {e : NodeThreads.Event} {threads : NodeThreads}
    (htime : s.InTime (.threads e)) (hpending : s.Pending) (he : e.ofOthers = true)
    (hstep : s.threads.step timeout e = some threads) :
    threads.nc.connection = s.threads.nc.connection := by
  obtain ⟨-, haged | ⟨⟨i, rfl, hcancelled⟩, -⟩⟩ := NodeThreads.step_ofOthers he hstep
  · exact haged.connection
  · exact absurd hpending (htime hcancelled)

theorem Phase.other {e : NodeThreads.Event} {threads : NodeThreads} (h : Phase k s)
    (htime : s.InTime (.threads e)) (hk : k < s.threads.nc.connections.length)
    (hahead : e = .io .runStrand → s.ahead = none)
    (hmay : e.ofOthers = true ∨ s.stopper.isOver = true)
    (hstep : s.threads.step timeout e = some threads) : Phase k { s with threads } := by
  have hlater := NodeThreads.later_step hstep
  cases h with
  | active hstopper hran hnone hptr =>
    have he : e.ofOthers = true := hmay.resolve_right (by simp [hstopper, Stopper.isOver])
    refine .active hstopper hran hnone ?_
    exact (connection_other htime (.inl hstopper) he hstep).trans hptr
  | waiting n hstopper hran hwaits hpos hptr =>
    have he : e.ofOthers = true := hmay.resolve_right (by simp [hstopper, Stopper.isOver])
    have hne : e ≠ .io .runStrand := by
      intro heq
      rw [hahead heq] at hwaits
      cases hwaits
    obtain ⟨more, hmore⟩ := (NodeThreads.trails_others he hne hstep).strand
    refine .waiting n hstopper hran hwaits ?_ ?_
    · obtain ⟨hn, -⟩ := List.getElem?_eq_some_iff.1 hpos
      show threads.nc.strand[n]? = some .stop
      rw [hmore, List.getElem?_append_left hn, hpos]
    · have hpending : s.Pending := .inr (by simp [hwaits])
      exact (connection_other htime hpending he hstep).trans hptr
  | done hstopper hran hnone hmanaged hstop =>
    refine .done ?_ hran hnone ?_ (hlater.toStop hstop)
    · rcases hstopper with hposted | ⟨hreset, hptr⟩ | ⟨hreturned, hptr⟩
      · exact .inl hposted
      · have he : e.ofOthers = true := hmay.resolve_right (by simp [hreset, Stopper.isOver])
        refine .inr (.inl ⟨hreset, ?_⟩)
        obtain ⟨-, haged | ⟨-, hnc⟩⟩ := NodeThreads.step_ofOthers he hstep
        · exact haged.connection.trans hptr
        · show threads.nc.connection = none
          rw [hnc]
          rfl
      · exact .inr (.inr ⟨hreturned, hlater.connection_ne hptr hk⟩)
    · rcases hmay with he | hover
      · exact fun hk' => hmanaged (NodeThreads.managed_others he hstep hk')
      · rcases hstopper with hposted | ⟨hreset, -⟩ | ⟨-, hptr⟩
        · simp [hposted, Stopper.isOver] at hover
        · simp [hreset, Stopper.isOver] at hover
        · intro hk'
          rcases hlater.managed k hk' with hk' | hk'
          · exact hmanaged hk'
          · exact hptr hk'

/-- Once it has run on the connection, the call may go on. -/
theorem Phase.resets (h : Phase k s) (htime : s.InTime .next) (hstopper : s.stopper = .posted) :
    Phase k { s with
      threads := { s.threads with nc := s.threads.nc.resetPointer }
      stopper := .reset } := by
  have hgone : ¬ s.Pending := htime hstopper
  cases h with
  | active hactive => exact absurd (.inl hactive) hgone
  | waiting n _ _ hahead => exact absurd (.inr (by simp [hahead])) hgone
  | done _ hran hahead hmanaged hstop =>
    exact .done (.inr (.inl ⟨rfl, rfl⟩)) hran hahead hmanaged hstop

theorem Phase.connection_reset (h : Phase k s) (hstopper : s.stopper = .reset) :
    s.threads.nc.connection = none ∧ s.ran = some (some k) ∧ s.ahead = none ∧
      k ∉ s.threads.nc.managed ∧ s.threads.nc.ToStop k := by
  cases h with
  | active hactive => cases hstopper.symm.trans hactive
  | waiting n hposted => cases hstopper.symm.trans hposted
  | done hlate hran hahead hmanaged hstop =>
    refine ⟨?_, hran, hahead, hmanaged, hstop⟩
    rcases hlate with hposted | ⟨-, hptr⟩ | ⟨hreturned, -⟩
    · cases hstopper.symm.trans hposted
    · exact hptr
    · cases hstopper.symm.trans hreturned

/-- A stop that waits is in the strand, and the pointer is there for it. -/
theorem Phase.waits {n : Nat} (h : Phase k s) (hahead : s.ahead = some n) :
    s.stopper = .posted ∧ s.ran = none ∧ s.threads.nc.strand[n]? = some .stop ∧
      s.threads.nc.connection = some k := by
  cases h with
  | active _ _ hnone => cases hahead.symm.trans hnone
  | waiting m hstopper hran hwaits hpos hptr =>
    obtain rfl := Option.some_inj.1 (hahead.symm.trans hwaits)
    exact ⟨hstopper, hran, hpos, hptr⟩
  | done _ _ hnone => cases hahead.symm.trans hnone

theorem Phase.stops {j : Nat} {threads : NodeThreads} (h : Phase k s)
    (hk : k < s.threads.nc.connections.length) (hahead : s.ahead = some 0)
    (hptr : s.threads.nc.connection = some j)
    (hrun : s.threads.step timeout (.io .runStrand) = some threads) :
    Phase k { s with threads, ahead := none, ran := some (some j) } := by
  obtain ⟨hstopper, -, hpos, hptr'⟩ := h.waits hahead
  obtain rfl := Option.some_inj.1 (hptr.symm.trans hptr')
  obtain rfl := step_runStrand_stop hpos hptr hrun
  exact .done (.inl hstopper) rfl rfl (by simp) (NodeConnection.toStop_of_post rfl hk)

theorem Phase.advances {n : Nat} {threads : NodeThreads} (h : Phase k s)
    (hahead : s.ahead = some (n + 1))
    (hrun : s.threads.step timeout (.io .runStrand) = some threads) :
    Phase k { s with threads, ahead := some n } := by
  obtain ⟨hstopper, hran, hpos, hptr⟩ := h.waits hahead
  obtain ⟨hstrand, hsame⟩ := step_runStrand_tail hrun
  refine .waiting n hstopper hran rfl ?_ (hsame.trans hptr)
  show threads.nc.strand[n]? = some .stop
  rw [hstrand, List.getElem?_tail, hpos]

theorem Good.step (h : Good k s) (htime : s.InTime e)
    (hstep : s.step timeout false e = some s') : Good k s' := by
  obtain ⟨-, hmove⟩ := move_step hstep
  cases hmove with
  | throws hstopper hopened hs' => cases hopened
  | posts hstopper hopened hs' =>
    subst hs'
    refine ⟨h.sound, h.lt_length, h.left, ?_⟩
    cases h.phase with
    | active _ hran hahead hptr => exact .waiting _ rfl hran rfl List.getElem?_concat_length hptr
    | waiting n hposted => cases hstopper.symm.trans hposted
    | done hlate =>
      rw [hstopper] at hlate
      simp at hlate
  | resets hstopper hs' =>
    subst hs'
    exact ⟨h.sound, h.lt_length, h.left, h.phase.resets htime hstopper⟩
  | returns hstopper hs' =>
    subst hs'
    obtain ⟨hptr, hran, hahead, hmanaged, hstop⟩ := h.phase.connection_reset hstopper
    refine ⟨h.sound, h.lt_length, ?_, .done (.inr (.inr ⟨rfl, ?_⟩)) hran hahead hmanaged hstop⟩
    · show s.threads.nc.isActive = false
      rw [NodeConnection.isActive, hptr]
    · show s.threads.nc.connection ≠ some k
      rw [hptr]
      nofun
  | crashes hahead hptr hs' =>
    obtain ⟨-, -, -, hptr'⟩ := h.phase.waits hahead
    cases hptr.symm.trans hptr'
  | stops j threads hahead hptr hrun hs' =>
    have hlater := NodeThreads.later_step hrun
    subst hs'
    exact ⟨hlater.sound h.sound, hlater.lt_length h.lt_length, h.left,
      h.phase.stops h.lt_length hahead hptr hrun⟩
  | advances n threads hahead hrun hs' =>
    have hlater := NodeThreads.later_step hrun
    subst hs'
    exact ⟨hlater.sound h.sound, hlater.lt_length h.lt_length, h.left,
      h.phase.advances hahead hrun⟩
  | other e threads hahead hmay hrun hs' =>
    have hlater := NodeThreads.later_step hrun
    subst hs'
    exact ⟨hlater.sound h.sound, hlater.lt_length h.lt_length, h.left,
      h.phase.other htime h.lt_length hahead hmay hrun⟩

/-- When everything has run, the connection is stopped. -/
theorem Good.stops (h : Good k s) (hsettled : s.Settled k) : s.Stops k := by
  cases h.phase with
  | active hactive hran =>
    rcases hsettled with hthrown | hcrash | ⟨hreturned, -⟩
    · cases hactive.symm.trans hthrown
    · cases hran.symm.trans hcrash
    · cases hactive.symm.trans hreturned
  | waiting n hposted hran =>
    rcases hsettled with hthrown | hcrash | ⟨hreturned, -⟩
    · cases hposted.symm.trans hthrown
    · cases hran.symm.trans hcrash
    · cases hposted.symm.trans hreturned
  | done hlate hran hahead hmanaged hstop =>
    rcases hsettled with hthrown | hcrash | ⟨hreturned, -, c, hc, hempty⟩
    · rw [hthrown] at hlate
      simp at hlate
    · cases hran.symm.trans hcrash
    · obtain ⟨c', hc', hstop⟩ := hstop
      obtain rfl := Option.some_inj.1 (hc'.symm.trans hc)
      have hclosed : c'.isOpen = false := hstop.resolve_left (by simp [hempty])
      refine ⟨hreturned, h.left, hran, hmanaged, c', hc', hclosed, ?_⟩
      cases hactive : c'.isActive with
      | false => rfl
      | true => exact absurd (h.sound k c' hc' hactive) (by simp [hclosed])

/-! ### A stop that comes too late -/

/-- The pointer is another, or the stop has read another. -/
structure TooLate (k : Nat) (s : Stopping) : Prop where
  lt_length : k < s.threads.nc.connections.length
  unposted : s.stopper = .active → s.ahead = none
  late : s.ran = none ∧ s.threads.nc.connection ≠ some k ∨
    s.stopper ≠ .active ∧ s.ahead = none ∧ ∃ p, s.ran = some p ∧ p ≠ some k

/-- A stop that waits has not run. -/
theorem TooLate.connection_ne {n : Nat} (h : TooLate k s) (hahead : s.ahead = some n) :
    s.ran = none ∧ s.threads.nc.connection ≠ some k ∧ s.stopper ≠ .active := by
  rcases h.late with ⟨hran, hptr⟩ | ⟨-, hnone, -⟩
  · refine ⟨hran, hptr, fun hactive => ?_⟩
    cases hahead.symm.trans (h.unposted hactive)
  · cases hahead.symm.trans hnone

theorem TooLate.step (h : TooLate k s) (hstep : s.step timeout opened e = some s') : TooLate k s' := by
  obtain ⟨-, hmove⟩ := move_step hstep
  cases hmove with
  | throws hstopper hopened hs' =>
    subst hs'
    exact ⟨h.lt_length, nofun, h.late.imp id fun hran => absurd hstopper hran.1⟩
  | posts hstopper hopened hs' =>
    subst hs'
    exact ⟨h.lt_length, nofun, .inl (h.late.resolve_right fun hran => hran.1 hstopper)⟩
  | resets hstopper hs' =>
    subst hs'
    refine ⟨h.lt_length, nofun, h.late.imp ?_ fun hran => ⟨nofun, hran.2⟩⟩
    exact fun hptr => ⟨hptr.1, nofun⟩
  | returns hstopper hs' =>
    subst hs'
    exact ⟨h.lt_length, nofun, h.late.imp id fun hran => ⟨nofun, hran.2⟩⟩
  | crashes hahead hptr hs' =>
    obtain ⟨-, -, hposted⟩ := h.connection_ne hahead
    subst hs'
    exact ⟨h.lt_length, fun _ => rfl, .inr ⟨hposted, rfl, none, rfl, nofun⟩⟩
  | stops j threads hahead hptr hrun hs' =>
    have hlater := NodeThreads.later_step hrun
    obtain ⟨-, hne, hposted⟩ := h.connection_ne hahead
    subst hs'
    exact ⟨hlater.lt_length h.lt_length, fun _ => rfl, .inr ⟨hposted, rfl, some j, rfl, hptr ▸ hne⟩⟩
  | advances n threads hahead hrun hs' =>
    have hlater := NodeThreads.later_step hrun
    obtain ⟨hran, hne, hposted⟩ := h.connection_ne hahead
    subst hs'
    exact ⟨hlater.lt_length h.lt_length, fun hactive => absurd hactive hposted,
      .inl ⟨hran, hlater.connection_ne hne h.lt_length⟩⟩
  | other e threads hahead hmay hrun hs' =>
    have hlater := NodeThreads.later_step hrun
    subst hs'
    exact ⟨hlater.lt_length h.lt_length, h.unposted,
      h.late.imp (fun hptr => ⟨hptr.1, hlater.connection_ne hptr.2 h.lt_length⟩) id⟩

/-- A pending stop has not run, and `ahead` says whether it is posted. -/
theorem Phase.pending (h : Phase k s) (hpending : s.Pending) :
    s.ran = none ∧ (s.stopper = .active → s.ahead = none) := by
  cases h with
  | active _ hran hahead => exact ⟨hran, fun _ => hahead⟩
  | waiting n hstopper hran => exact ⟨hran, fun hactive => by cases hstopper.symm.trans hactive⟩
  | done hlate _ hahead =>
    rcases hpending with hactive | hsome
    · rw [hactive] at hlate
      simp at hlate
    · exact absurd hahead hsome

/-- A reset before the stop has run takes the pointer away from it. -/
theorem TooLate.of_not_inTime (h : Good k s) (hlate : ¬ s.InTime e)
    (hstep : s.step timeout false e = some s') : TooLate k s' := by
  obtain ⟨hresets, hpending⟩ : s.Resets e ∧ s.Pending := by
    simpa [InTime] using hlate
  obtain ⟨hran, hunposted⟩ := h.phase.pending hpending
  obtain ⟨-, hmove⟩ := move_step hstep
  cases hmove with
  | throws hstopper => cases hstopper.symm.trans hresets
  | posts hstopper => cases hstopper.symm.trans hresets
  | returns hstopper => cases hstopper.symm.trans hresets
  | crashes | stops | advances => cases hresets
  | resets hstopper hs' =>
    subst hs'
    exact ⟨h.lt_length, nofun, .inl ⟨hran, nofun⟩⟩
  | other e threads hahead hmay hrun hs' =>
    have hlater := NodeThreads.later_step hrun
    subst hs'
    refine ⟨hlater.lt_length h.lt_length, hunposted, .inl ⟨hran, ?_⟩⟩
    show threads.nc.connection ≠ some k
    cases e with
    | closer i =>
      have hcancelled : s.threads.closers[i]? = some .cancelled := hresets
      obtain ⟨-, ⟨hpc, -⟩ | ⟨hpc, -⟩ | ⟨hpc, -⟩ | ⟨-, hnc⟩⟩ := NodeThreads.closer_cases hrun
      · cases hcancelled.symm.trans hpc
      · cases hcancelled.symm.trans hpc
      · cases hcancelled.symm.trans hpc
      · rw [hnc]
        nofun
    | _ => cases hresets

/-! ### All orders -/

/-- What `stopConnections` finds: the connection at hand is active. -/
theorem Good.start {events : List NodeThreads.Event} {threads : NodeThreads}
    (hreach : run (NodeThreads.step timeout) {} events = some threads)
    (hptr : threads.nc.connection = some k) (hactive : threads.nc.isActive = true) :
    Good k (start threads) := by
  have hkeep : ∀ (s : NodeThreads) (e : NodeThreads.Event) (s' : NodeThreads), s.nc.Sound →
      s.step timeout e = some s' → s'.nc.Sound :=
    fun s e s' h hstep => (NodeThreads.later_step hstep).sound h
  have hsound : threads.nc.Sound := run_mono hkeep (by nofun) hreach
  obtain ⟨j, c, hj, hc, -⟩ := NodeConnection.isActive_eq_true.1 hactive
  obtain rfl := Option.some_inj.1 (hptr.symm.trans hj)
  exact ⟨hsound, (List.getElem?_eq_some_iff.1 hc).1, rfl, .active rfl rfl rfl hptr⟩

/-- The log throws before anything is posted. -/
theorem stopper_of_opened {threads : NodeThreads} {order : List Event} {t : Stopping}
    (hrun : run (step timeout true) (start threads) order = some t) :
    t.stopper = .active ∨ t.stopper = .thrown := by
  have hkeep : ∀ (s : Stopping) (e : Event) (s' : Stopping),
      s.stopper = .active ∨ s.stopper = .thrown → s.step timeout true e = some s' →
        s'.stopper = .active ∨ s'.stopper = .thrown := by
    intro s e s' h hstep
    obtain ⟨-, hmove⟩ := move_step hstep
    cases hmove with
    | throws _ _ hs' =>
      subst hs'
      exact .inr rfl
    | posts _ hopened => cases hopened
    | resets hstopper => exact absurd h (by simp [hstopper])
    | returns hstopper => exact absurd h (by simp [hstopper])
    | crashes _ _ hs' =>
      subst hs'
      exact h
    | stops _ _ _ _ _ hs' =>
      subst hs'
      exact h
    | advances _ _ _ _ hs' =>
      subst hs'
      exact h
    | other _ _ _ _ _ hs' =>
      subst hs'
      exact h
  exact run_mono hkeep (.inl rfl) hrun

/-- **The right connection is stopped exactly in the orders in which the log does not throw and the
posted stop runs before the pointer is reset.** -/
theorem stops_iff {events : List NodeThreads.Event} {threads : NodeThreads} {order : List Event}
    {t : Stopping} (hreach : run (NodeThreads.step timeout) {} events = some threads)
    (hptr : threads.nc.connection = some k) (hactive : threads.nc.isActive = true)
    (hrun : run (step timeout opened) (start threads) order = some t) (hsettled : t.Settled k) :
    t.Stops k ↔ opened = false ∧ Along (step timeout opened) InTime (start threads) order := by
  have hstart := Good.start hreach hptr hactive
  constructor
  · intro hstops
    have hopened : opened = false := by
      by_contra htrue
      obtain rfl : opened = true := by simpa using htrue
      rcases stopper_of_opened hrun with hactive | hthrown
      · cases hstops.returns.symm.trans hactive
      · cases hstops.returns.symm.trans hthrown
    subst hopened
    have hlast : ¬ TooLate k t := by
      intro h
      rcases h.late with ⟨hnone, -⟩ | ⟨-, -, p, hp, hne⟩
      · cases hnone.symm.trans hstops.target
      · exact hne (Option.some_inj.1 (hp.symm.trans hstops.target))
    exact ⟨rfl, along_of_not_bad (fun _ _ _ h htime hstep => Good.step h htime hstep)
      (fun _ _ _ h hlate hstep => TooLate.of_not_inTime h hlate hstep)
      (fun _ _ _ h hstep => h.step hstep) hstart hrun hlast⟩
  · rintro ⟨rfl, htime⟩
    exact (run_inv (fun _ _ _ h htime hstep => h.step htime hstep) hstart htime hrun).stops hsettled

/-- With nothing in between, the steps of the call are `disconnect`. -/
theorem run_next (threads : NodeThreads) :
    run (step timeout false) (start threads) (List.replicate 3 .next) =
      some { threads := { threads with nc := threads.nc.disconnect }
             stopper := .returned
             ahead := some threads.nc.strand.length } := by
  simp [List.replicate, step, next, start, NodeConnection.disconnect, NodeConnection.resetPointer,
    NodeConnection.stopDeadlineTimer, NodeConnection.post, NodeConnection.isActive]

/-- While a connection is at hand, the strand can run to its end. -/
theorem run_strand {threads : NodeThreads} (hptr : threads.nc.connection = some k) :
    ∃ threads', run (step timeout opened) (start threads)
        (List.replicate threads.nc.strand.length (.threads (.io .runStrand))) =
          some (start threads') ∧
      threads'.nc.strand = [] ∧ threads'.nc.connection = some k := by
  generalize hn : threads.nc.strand.length = n
  induction n generalizing threads with
  | zero => exact ⟨threads, rfl, List.length_eq_zero_iff.1 hn, hptr⟩
  | succ n ih =>
    have hne : threads.nc.strand ≠ [] := List.ne_nil_of_length_eq_add_one hn
    obtain ⟨nc, hnc⟩ := Option.isSome_iff_exists.1 (NodeConnection.runStrand_isSome hptr hne)
    have hfirst : threads.step timeout (.io .runStrand) = some { threads with nc } :=
      Option.map_eq_some_iff.2 ⟨nc, hnc, rfl⟩
    obtain ⟨hstrand, hsame⟩ := step_runStrand_tail hfirst
    have hlength : nc.strand.length = n := by
      rw [show nc.strand = threads.nc.strand.tail from hstrand, List.length_tail, hn]
      rfl
    obtain ⟨threads', hrest, hend⟩ := @ih { threads with nc } (hsame.trans hptr) hlength
    refine ⟨threads', ?_, hend⟩
    have hstep : (start threads).step timeout opened (.threads (.io .runStrand)) =
        some (start { threads with nc }) := by
      rw [step, if_neg nofun]
      exact Option.map_eq_some_iff.2 ⟨_, hfirst, rfl⟩
    rw [List.replicate_succ, run_cons, hstep]
    exact hrest

/-- **For no node all orders stop the connection.** In this one the call takes its steps once the strand
is empty, and then the strand runs what it has posted. -/
theorem exists_not_stops {threads : NodeThreads} (hptr : threads.nc.connection = some k) :
    ∃ order t, run (step timeout opened) (start threads) order = some t ∧ t.Settled k ∧
      ¬ t.Stops k := by
  cases opened with
  | true => exact ⟨[.next], _, rfl, .inl rfl, fun h => nomatch h.returns⟩
  | false =>
    obtain ⟨threads', hstrand, hempty, -⟩ := @run_strand timeout k false threads hptr
    have hcrash : run (step timeout false) (start threads')
        (List.replicate 3 .next ++ [.threads (.io .runStrand)]) =
          some { threads := { threads' with nc := threads'.nc.disconnect }
                 stopper := .returned
                 ran := some none } := by
      rw [run_append, run_next, hempty]
      rfl
    exact ⟨_, _, run_trans hstrand hcrash, .inr (.inl rfl), fun h => nomatch h.target⟩

end Stopping

/-! ### All nodes -/

/-- `Node::stopConnections` with nothing in between; `none` is what the log throws. -/
def NodeThreads.stopNode (opened : Bool) (threads : NodeThreads) : Option NodeThreads :=
  if threads.nc.isActive then
    if opened then none else some { threads with nc := threads.nc.disconnect }
  else some threads

/-- The caller of a node that is idle sees the same. -/
theorem NodeThreads.stopConnections_eq {opened : Bool} {threads : NodeThreads}
    (hidle : threads.caller = .idle) :
    threads.stopConnections opened = some ((threads.stopNode opened).getD threads) := by
  unfold stopConnections stopNode
  rw [if_pos hidle]
  cases threads.nc.isActive <;> cases opened <;> rfl

namespace Manager

variable (opened : Bool) (m : Manager) (nodes : NodePtr → NodeThreads)

/-- The body of the loop of `stopAll`. -/
def stopEntry (nodes : NodePtr → NodeThreads) (e : NodeDescription × NodePtr) :
    Option (NodePtr → NodeThreads) :=
  ((nodes e.2).stopNode opened).map (Function.update nodes e.2)

def stopAll : Option (NodePtr → NodeThreads) := m.nodesMap.toList.foldlM (stopEntry opened) nodes

/-- `clear` with the nodes it stops. -/
def stopAndClear : Option Manager := (m.stopAll opened nodes).map fun _ => m.clear

/-- `loadState` with the nodes it stops. -/
def stopAndLoad (file : List Item) : Option Manager :=
  (m.stopAll opened nodes).bind fun _ => m.loadState file

/-- No node of the manager is active. -/
def Quiet : Prop := ∀ e ∈ m.nodesMap.toList, (nodes e.2).nc.isActive = false

variable {opened m nodes}

theorem foldlM_stopEntry_isSome (l : List (NodeDescription × NodePtr)) :
    ∀ nodes : NodePtr → NodeThreads, (l.foldlM (stopEntry opened) nodes).isSome = true ↔
      opened = false ∨ ∀ e ∈ l, (nodes e.2).nc.isActive = false := by
  induction l with
  | nil =>
    intro nodes
    exact iff_of_true rfl (.inr nofun)
  | cons e l ih =>
    intro nodes
    rw [List.foldlM_cons, List.forall_mem_cons, stopEntry, NodeThreads.stopNode]
    cases hactive : (nodes e.2).nc.isActive with
    | false =>
      -- the node stays as it is
      simp only [Bool.false_eq_true, if_false, Option.map_some, Option.bind_eq_bind, Option.bind_some,
        Function.update_eq_self, true_and]
      exact ih nodes
    | true =>
      cases opened with
      | true => simp
      | false =>
        simp only [Bool.false_eq_true, if_true, if_false, Option.map_some, Option.bind_eq_bind,
          Option.bind_some, true_or, iff_true]
        exact (ih _).2 (.inl rfl)

/-- A node that is inactive stays so, and the one at hand is. -/
theorem isActive_stopEntry {nodes nodes' : NodePtr → NodeThreads} {e : NodeDescription × NodePtr}
    (h : stopEntry opened nodes e = some nodes') {p : NodePtr}
    (hp : p = e.2 ∨ (nodes p).nc.isActive = false) : (nodes' p).nc.isActive = false := by
  obtain ⟨threads, hstop, rfl⟩ := Option.map_eq_some_iff.1 h
  by_cases heq : p = e.2
  · subst heq
    rw [Function.update_self]
    unfold NodeThreads.stopNode at hstop
    split at hstop
    · split at hstop
      · cases hstop
      · obtain rfl := Option.some_inj.1 hstop
        rfl
    · rename_i hactive
      obtain rfl := Option.some_inj.1 hstop
      simpa using hactive
  · rw [Function.update_of_ne heq]
    exact hp.resolve_left heq

theorem isActive_foldlM_stopEntry (l : List (NodeDescription × NodePtr)) :
    ∀ nodes nodes' : NodePtr → NodeThreads, l.foldlM (stopEntry opened) nodes = some nodes' →
      ∀ p, p ∈ l.map Prod.snd ∨ (nodes p).nc.isActive = false → (nodes' p).nc.isActive = false := by
  induction l with
  | nil =>
    intro nodes nodes' h p hp
    obtain rfl := Option.some_inj.1 h
    exact hp.resolve_left List.not_mem_nil
  | cons e l ih =>
    intro nodes nodes' h p hp
    obtain ⟨nodes₁, hentry, hrest⟩ := Option.bind_eq_some_iff.1 h
    refine ih nodes₁ nodes' hrest p ?_
    rcases hp with hmem | hinactive
    · rcases List.mem_cons.1 hmem with heq | hmem
      · exact .inr (isActive_stopEntry hentry (.inl heq))
      · exact .inl hmem
    · exact .inr (isActive_stopEntry hentry (.inr hinactive))

/-- `stopAll` returns and leaves no node active, and `clear` and `loadState` get past it: what they do then
to the maps is as without it. They drop the last pointers to nodes whose stop is still posted; what that
does when it runs is not told here. -/
structure StopsAll (opened : Bool) (m : Manager) (nodes : NodePtr → NodeThreads) : Prop where
  stopAll : ∃ nodes', m.stopAll opened nodes = some nodes' ∧ m.Quiet nodes'
  clear : m.stopAndClear opened nodes = some m.clear
  loadState : ∀ file, m.stopAndLoad opened nodes file = m.loadState file

theorem stopsAll_iff : StopsAll opened m nodes ↔ opened = false ∨ m.Quiet nodes := by
  refine Iff.trans ?_ (foldlM_stopEntry_isSome m.nodesMap.toList nodes)
  constructor
  · intro h
    obtain ⟨nodes', hstop, -⟩ := h.stopAll
    exact Option.isSome_of_eq_some hstop
  · intro h
    obtain ⟨nodes', hstop⟩ := Option.isSome_iff_exists.1 h
    replace hstop : m.stopAll opened nodes = some nodes' := hstop
    refine ⟨⟨nodes', hstop, fun e he => ?_⟩, ?_, fun file => ?_⟩
    · exact isActive_foldlM_stopEntry _ nodes nodes' hstop e.2 (.inl (List.mem_map_of_mem he))
    · rw [stopAndClear, hstop]
      rfl
    · rw [stopAndLoad, hstop]
      rfl

end Manager

namespace Stopping

/-- The reset of the log-in runs, and the stop as soon as it is posted. -/
def stoppedInTime : List Event :=
  [.threads (.io .runStrand), .next, .threads (.io .runStrand), .next, .next,
    .threads (.io (.runConnection 0))]

/-- The call takes its steps, and then the strand runs the reset of the log-in and the stop. -/
def stoppedLate : List Event :=
  [.next, .next, .next, .threads (.io .runStrand), .threads (.io .runStrand)]

end Stopping

end Sp2p.Sercli
