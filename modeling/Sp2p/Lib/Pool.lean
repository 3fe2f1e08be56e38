import Mathlib.Data.List.Forall2
import Sp2p.Lib.Interleaving
import Sp2p.Lib.Runs

/-!
# Pools of workers

Any number of workers execute programs against one state: an idle worker takes up a job, and each
step is one call of one worker. Pools whose jobs are alike do alike (`likeUnder_run`), and every reply is
as its job promises (`meets_run`). Where some calls take a resource and others give it back, and every
job pairs them, `held_eq_countP` says that as much of it is held as there are workers inside of a
pair; so one worker alone never takes it twice.
-/

namespace Interleaving

open Runs

/-- `none` is an idle worker. -/
structure Pool (S : Signature) (σ α : Type) where
  shared : σ
  workers : List (Option (Prog S α))

inductive PoolEvent (ι : Type)
  | serve (i : Nat) (job : ι)
  | step (i : Nat)

variable {S : Signature} {σ α β ι : Type}

namespace Pool

def start (s : σ) (n : Nat) : Pool S σ α := ⟨s, List.replicate n none⟩

/-- An idle worker takes up a program. -/
def serve (pool : Pool S σ α) (i : Nat) (p : Prog S α) : Option (Pool S σ α) :=
  match pool.workers[i]? with
  | some none => some { pool with workers := pool.workers.set i (some p) }
  | _ => none

/-- A worker makes its next call, or is done. -/
def advance (exec : Exec S σ) (pool : Pool S σ α) (i : Nat) : Option (Pool S σ α) :=
  match pool.workers[i]? with
  | some (some (.ret _)) => some { pool with workers := pool.workers.set i none }
  | some (some (.call o k)) => some {
      shared := (exec o pool.shared).2
      workers := pool.workers.set i (some (k (exec o pool.shared).1)) }
  | _ => none

def step (exec : Exec S σ) (jobs : ι → Prog S α) (pool : Pool S σ α) :
    PoolEvent ι → Option (Pool S σ α)
  | .serve i job => pool.serve i (jobs job)
  | .step i => pool.advance exec i

/-- What a worker has to answer when it is done. -/
def reply (pool : Pool S σ α) (i : Nat) : Option α :=
  match pool.workers[i]? with
  | some (some (.ret a)) => some a
  | _ => none

variable {exec : Exec S σ} {jobs : ι → Prog S α} {pool pool' : Pool S σ α} {e : PoolEvent ι}

theorem reply_eq_some {i : Nat} {a : α} :
    pool.reply i = some a ↔ pool.workers[i]? = some (some (.ret a)) := by
  unfold reply
  split
  · rename_i a' h
    rw [h]
    simp
  · rename_i h
    constructor
    · intro ha
      cases ha
    · intro ha
      exact absurd ha (h a)

/-- The steps of a pool. -/
inductive Steps (exec : Exec S σ) (jobs : ι → Prog S α) (pool : Pool S σ α) :
    PoolEvent ι → Pool S σ α → Prop
  | serve {i : Nat} {job : ι} (h : pool.workers[i]? = some none) :
    Steps exec jobs pool (.serve i job) ⟨pool.shared, pool.workers.set i (some (jobs job))⟩
  | done {i : Nat} {a : α} (h : pool.workers[i]? = some (some (.ret a))) :
    Steps exec jobs pool (.step i) ⟨pool.shared, pool.workers.set i none⟩
  | call {i : Nat} {o : S.Op} {k : S.Ans o → Prog S α}
    (h : pool.workers[i]? = some (some (.call o k))) :
    Steps exec jobs pool (.step i)
      ⟨(exec o pool.shared).2, pool.workers.set i (some (k (exec o pool.shared).1))⟩

theorem steps_of_step (h : pool.step exec jobs e = some pool') : pool.Steps exec jobs e pool' := by
  cases e with
  | serve i job =>
    replace h : pool.serve i (jobs job) = some pool' := h
    unfold serve at h
    split at h
    · obtain rfl := Option.some_inj.1 h
      exact .serve ‹_›
    · cases h
  | step i =>
    replace h : pool.advance exec i = some pool' := h
    unfold advance at h
    split at h
    · obtain rfl := Option.some_inj.1 h
      exact .done ‹_›
    · obtain rfl := Option.some_inj.1 h
      exact .call ‹_›
    · cases h

theorem step_of_steps (h : pool.Steps exec jobs e pool') : pool.step exec jobs e = some pool' := by
  cases h with
  | serve h => simp [step, serve, h]
  | done h => simp [step, advance, h]
  | call h => simp [step, advance, h]

/-- Nobody joins the pool or leaves it. -/
theorem length_step (h : pool.step exec jobs e = some pool') :
    pool'.workers.length = pool.workers.length := by
  cases steps_of_step h with
  | serve | done | call => exact List.length_set

theorem length_run {s : σ} {n : Nat} {events : List (PoolEvent ι)}
    (hrun : run (step exec jobs) (start s n) events = some pool) : pool.workers.length = n := by
  have hkeep : ∀ (pool : Pool S σ α) (e : PoolEvent ι) (pool' : Pool S σ α),
      pool.workers.length = n → pool.step exec jobs e = some pool' → pool'.workers.length = n :=
    fun _ _ _ h hstep => (length_step hstep).trans h
  exact run_mono hkeep List.length_replicate hrun

end Pool

namespace Pool

variable {exec : Exec S σ} {jobs : ι → Prog S α} {pool pool' : Pool S σ α}

/-- Only the calls of the workers change the shared state. -/
theorem shared_step {Inv : σ → Prop} (hexec : ∀ o s, Inv s → Inv (exec o s).2) (h : Inv pool.shared)
    {e : PoolEvent ι} (hstep : pool.step exec jobs e = some pool') : Inv pool'.shared := by
  cases steps_of_step hstep with
  | serve | done => exact h
  | call => exact hexec _ _ h

/-- What every call keeps holds of the shared state after every run. -/
theorem shared_run {Inv : σ → Prop} (hexec : ∀ o s, Inv s → Inv (exec o s).2) {s : σ} (hs : Inv s)
    {n : Nat} {events : List (PoolEvent ι)}
    (hrun : run (step exec jobs) (start s n) events = some pool) : Inv pool.shared := by
  let Kept (pool : Pool S σ α) : Prop := Inv pool.shared
  have hkeep : ∀ pool e pool', Kept pool → pool.step exec jobs e = some pool' → Kept pool' :=
    fun _ _ _ h hstep => shared_step hexec h hstep
  exact run_mono hkeep hs hrun

/-- The state after the jobs, each done before the next is taken up. -/
def afterJobs (exec : Exec S σ) (jobs : ι → Prog S α) (s : σ) (js : List ι) : σ :=
  js.foldl (fun s job => ((jobs job).run exec s).2) s

/-- One worker alone can do what it has at work to the end. -/
theorem exists_run_worker (p : Prog S α) (s : σ) :
    ∃ events, run (step exec jobs) ⟨s, [some p]⟩ events = some ⟨(p.run exec s).2, [none]⟩ := by
  induction p generalizing s with
  | ret a => exact ⟨[.step 0], rfl⟩
  | call o k ih =>
    obtain ⟨events, hrun⟩ := ih (exec o s).1 (exec o s).2
    exact ⟨.step 0 :: events, hrun⟩

/-- A pool of one worker can do jobs one after the other. -/
theorem exists_run_jobs (js : List ι) (s : σ) :
    ∃ events, run (step exec jobs) (start s 1) events = some ⟨afterJobs exec jobs s js, [none]⟩ := by
  induction js generalizing s with
  | nil => exact ⟨[], rfl⟩
  | cons job js ih =>
    obtain ⟨events, hrun⟩ : ∃ events, run (step exec jobs) ⟨s, [some (jobs job)]⟩ events =
        some ⟨((jobs job).run exec s).2, [none]⟩ := exists_run_worker (jobs job) s
    obtain ⟨events', hrun'⟩ := ih ((jobs job).run exec s).2
    refine ⟨.serve 0 job :: (events ++ events'), ?_⟩
    show run (step exec jobs) ⟨s, [some (jobs job)]⟩ (events ++ events') = _
    rw [run_append, hrun]
    exact hrun'

end Pool

/-! ### Two pools with jobs that are alike -/

/-- The same worker takes up jobs that go together, or makes its next call. -/
inductive PoolEvent.Like {κ : Type} (J : ι → κ → Prop) : PoolEvent ι → PoolEvent κ → Prop
  | serve (i : Nat) {job : ι} {job' : κ} (h : J job job') : Like J (.serve i job) (.serve i job')
  | step (i : Nat) : Like J (.step i) (.step i)

namespace Pool

variable {τ κ : Type} {L : Likeness S} {exec : Exec S σ} {exec' : Exec S τ} {jobs : ι → Prog S α}
  {jobs' : κ → Prog S α} {R : σ → τ → Prop} {J : ι → κ → Prop}

/-- What the workers have left to do is alike. -/
structure LikeUnder (L : Likeness S) (R : σ → τ → Prop) (pool : Pool S σ α) (pool' : Pool S τ α) :
    Prop where
  shared : R pool.shared pool'.shared
  workers : ∀ i : Nat, Option.Rel (Option.Rel (Prog.Like L)) pool.workers[i]? pool'.workers[i]?

theorem rel_set {δ : Type} {Q : δ → δ → Prop} {ws ws' : List δ}
    (h : ∀ i : Nat, Option.Rel Q ws[i]? ws'[i]?) (i : Nat) {w w' : δ} (hw : Q w w') (j : Nat) :
    Option.Rel Q (ws.set i w)[j]? (ws'.set i w')[j]? := by
  by_cases hij : i = j
  · subst hij
    have hi := h i
    rw [List.getElem?_set_self', List.getElem?_set_self']
    generalize ws[i]? = v, ws'[i]? = v' at hi
    cases hi with
    | none => exact .none
    | some _ => exact .some hw
  · rw [List.getElem?_set_ne hij, List.getElem?_set_ne hij]
    exact h j

theorem likeUnder_step (h : RefinesLike L exec exec' R)
    (hjobs : ∀ job job', J job job' → (jobs job).Like L (jobs' job')) {pool : Pool S σ α}
    {pool' : Pool S τ α} (hpools : LikeUnder L R pool pool') {e : PoolEvent ι} {e' : PoolEvent κ}
    (he : e.Like J e') : Option.Rel (LikeUnder L R) (pool.step exec jobs e) (pool'.step exec' jobs' e') := by
  cases he with
  | @serve i job job' hjob =>
    have hw := hpools.workers i
    rw [step, step, serve, serve]
    generalize pool.workers[i]? = w, pool'.workers[i]? = w' at hw
    cases hw with
    | none => exact .none
    | some hw =>
      cases hw with
      | none => exact .some ⟨hpools.shared, rel_set hpools.workers i (.some (hjobs job job' hjob))⟩
      | some _ => exact .none
  | step i =>
    have hw := hpools.workers i
    rw [step, step, advance, advance]
    generalize pool.workers[i]? = w, pool'.workers[i]? = w' at hw
    cases hw with
    | none => exact .none
    | some hw =>
      cases hw with
      | none => exact .none
      | @some p p' hp =>
        cases p with
        | ret a =>
          cases p' with
          | ret a' => exact .some ⟨hpools.shared, rel_set hpools.workers i .none⟩
          | call o' k' => cases hp
        | call o k =>
          cases p' with
          | ret a' => cases hp
          | call o' k' =>
            obtain ⟨ho, hk⟩ := hp
            obtain ⟨hans, hshared⟩ := h o o' _ _ ho hpools.shared
            exact .some ⟨hshared, rel_set hpools.workers i (.some (hk _ _ hans))⟩

/-- **Whatever the workers do, and in whatever order, pools whose jobs and shared states are alike do
alike.** -/
theorem likeUnder_run (h : RefinesLike L exec exec' R)
    (hjobs : ∀ job job', J job job' → (jobs job).Like L (jobs' job')) {s : σ} {t : τ} (hR : R s t) (n : Nat)
    {events : List (PoolEvent ι)} {events' : List (PoolEvent κ)}
    (hevents : List.Forall₂ (PoolEvent.Like J) events events') :
    Option.Rel (LikeUnder L R) (run (step exec jobs) (start s n) events)
      (run (step exec' jobs') (start t n) events') := by
  have hstart : LikeUnder L R (start s n : Pool S σ α) (start t n) := by
    refine ⟨hR, fun i => ?_⟩
    show Option.Rel _ (List.replicate n none)[i]? (List.replicate n none)[i]?
    rw [List.getElem?_replicate]
    split
    · exact .some .none
    · exact .none
  refine run_related (fun pool pool' e e' he hpools => ?_) hevents hstart
  exact likeUnder_step h hjobs hpools he

/-- Such pools reply the same. -/
theorem LikeUnder.reply {pool : Pool S σ α} {pool' : Pool S τ α} (h : LikeUnder L R pool pool') (i : Nat) :
    pool.reply i = pool'.reply i := by
  have hw := h.workers i
  unfold Pool.reply
  generalize pool.workers[i]? = w, pool'.workers[i]? = w' at hw
  cases hw with
  | none => rfl
  | some hw =>
    cases hw with
    | none => rfl
    | @some p p' hp =>
      cases p with
      | ret a =>
        cases p' with
        | ret a' => exact congrArg some hp
        | call o' k' => cases hp
      | call o k =>
        cases p' with
        | ret a' => cases hp
        | call o' k' => rfl

/-- The workers are at the same points of the same programs. -/
structure Alike (R : σ → τ → Prop) (pool : Pool S σ α) (pool' : Pool S τ α) : Prop where
  shared : R pool.shared pool'.shared
  workers : pool.workers = pool'.workers

theorem LikeUnder.alike {pool : Pool S σ α} {pool' : Pool S τ α} (h : LikeUnder (.same S) R pool pool') :
    Alike R pool pool' := by
  refine ⟨h.shared, List.ext_getElem? fun i => ?_⟩
  have hw := h.workers i
  generalize pool.workers[i]? = w, pool'.workers[i]? = w' at hw
  cases hw with
  | none => rfl
  | some hw =>
    cases hw with
    | none => rfl
    | some hp => rw [like_same.1 hp]

/-- **With the same jobs they do the same.** -/
theorem alike_run (h : Refines exec exec' R) {s : σ} {t : τ} (hR : R s t) (n : Nat)
    (events : List (PoolEvent ι)) :
    Option.Rel (Alike R) (run (step exec jobs) (start s n) events)
      (run (step exec' jobs) (start t n) events) := by
  have hevents : List.Forall₂ (PoolEvent.Like Eq) events events :=
    List.forall₂_same.2 fun e _ => by
      cases e with
      | serve i job => exact .serve i rfl
      | step i => exact .step i
  have hjobs : ∀ job job' : ι, job = job' → (jobs job).Like (.same S) (jobs job') := by
    rintro job _ rfl
    exact like_same.2 rfl
  exact rel_imp (fun _ _ => LikeUnder.alike) (likeUnder_run h.like hjobs hR n hevents)

end Pool

/-! ### An invariant of the shared state, and the replies -/

namespace Pool

variable {P : S.Op → Prop} {A : (o : S.Op) → S.Ans o → Prop} {Q : α → Prop} {Inv : σ → Prop}
  {exec : Exec S σ} {jobs : ι → Prog S α} {pool pool' : Pool S σ α}

/-- What every worker has left to do meets the calls' pre- and postconditions. -/
structure Meets (P : S.Op → Prop) (A : (o : S.Op) → S.Ans o → Prop) (Q : α → Prop) (Inv : σ → Prop)
    (pool : Pool S σ α) : Prop where
  programs : ∀ p, some p ∈ pool.workers → p.Meets P A Q
  shared : Inv pool.shared

theorem Meets.step (hexec : ∀ o s, P o → Inv s → A o (exec o s).1 ∧ Inv (exec o s).2)
    (h : pool.Meets P A Q Inv) {e : PoolEvent ι} (hjob : ∀ i job, e = .serve i job → (jobs job).Meets P A Q)
    (hstep : pool.step exec jobs e = some pool') : pool'.Meets P A Q Inv := by
  cases steps_of_step hstep with
  | @serve i job hidle =>
    refine ⟨fun p hp => ?_, h.shared⟩
    rcases List.mem_or_eq_of_mem_set hp with hp | hp
    · exact h.programs p hp
    · rw [Option.some_inj.1 hp]
      exact hjob i job rfl
  | done hret =>
    refine ⟨fun p hp => ?_, h.shared⟩
    rcases List.mem_or_eq_of_mem_set hp with hp | hp
    · exact h.programs p hp
    · cases hp
  | call hcall =>
    obtain ⟨ho, hk⟩ := h.programs _ (List.mem_of_getElem? hcall)
    obtain ⟨hans, hinv⟩ := hexec _ _ ho h.shared
    refine ⟨fun p hp => ?_, hinv⟩
    rcases List.mem_or_eq_of_mem_set hp with hp | hp
    · exact h.programs p hp
    · rw [Option.some_inj.1 hp]
      exact hk _ hans

/-- **Whatever the order of the calls, the state keeps its invariant and every reply is as its job
promises.** -/
theorem meets_run (hexec : ∀ o s, P o → Inv s → A o (exec o s).1 ∧ Inv (exec o s).2) {s : σ} (hs : Inv s)
    {n : Nat} {events : List (PoolEvent ι)}
    (hjobs : ∀ i job, .serve i job ∈ events → (jobs job).Meets P A Q)
    (hrun : run (step exec jobs) (start s n) events = some pool) :
    Inv pool.shared ∧ ∀ i a, pool.reply i = some a → Q a := by
  have hstart : (start s n : Pool S σ α).Meets P A Q Inv := by
    refine ⟨fun p hp => ?_, hs⟩
    cases List.eq_of_mem_replicate hp
  have hpool : pool.Meets P A Q Inv := by
    refine run_inv_mem (fun _ e he _ h hstep => ?_) hstart hrun
    exact h.step hexec (fun i job hjob => hjobs i job (hjob ▸ he)) hstep
  refine ⟨hpool.shared, fun i a ha => ?_⟩
  exact hpool.programs _ (List.mem_of_getElem? (reply_eq_some.1 ha))

theorem Meets.step_congr {exec' : Exec S σ} (hsame : ∀ o s, P o → exec' o s = exec o s)
    (h : pool.Meets P A Q Inv) (e : PoolEvent ι) : pool.step exec' jobs e = pool.step exec jobs e := by
  cases e with
  | serve i job => rfl
  | step i =>
    show pool.advance exec' i = pool.advance exec i
    unfold advance
    split
    · rfl
    · rename_i o k hcall
      rw [hsame o pool.shared (h.programs _ (List.mem_of_getElem? hcall)).1]
    · rfl

/-- Two ways to execute the calls that agree on those that are made give the same run. -/
theorem meets_run_congr (hexec : ∀ o s, P o → Inv s → A o (exec o s).1 ∧ Inv (exec o s).2)
    {exec' : Exec S σ} (hsame : ∀ o s, P o → exec' o s = exec o s) {s : σ} (hs : Inv s) {n : Nat}
    {events : List (PoolEvent ι)} (hjobs : ∀ i job, .serve i job ∈ events → (jobs job).Meets P A Q) :
    run (step exec' jobs) (start s n) events = run (step exec jobs) (start s n) events := by
  have hstart : (start s n : Pool S σ α).Meets P A Q Inv := by
    refine ⟨fun p hp => ?_, hs⟩
    cases List.eq_of_mem_replicate hp
  generalize (start s n : Pool S σ α) = pool at hstart
  induction events generalizing pool with
  | nil => rfl
  | cons e events ih =>
    rw [run_cons, run_cons, hstart.step_congr hsame]
    cases hstep : pool.step exec jobs e with
    | none => rfl
    | some next =>
      have hjob : ∀ i job, e = .serve i job → (jobs job).Meets P A Q := fun i job he =>
        hjobs i job (he ▸ List.mem_cons_self ..)
      exact ih (fun i job hmem => hjobs i job (List.mem_cons_of_mem _ hmem)) next
        (hstart.step hexec hjob hstep)

end Pool

/-! ### One worker and the others -/

namespace Pool

variable {P : S.Op → Prop} {exec : Exec S σ} {jobs : ι → Prog S α} {pool pool' : Pool S σ α}

/-- The workers only make calls of one kind, and the shared state is such. -/
structure Within (P : S.Op → Prop) (Inv : σ → Prop) (pool : Pool S σ α) : Prop where
  programs : ∀ p, some p ∈ pool.workers → p.All P
  shared : Inv pool.shared

/-- No job makes other calls. -/
def JobsWithin (P : S.Op → Prop) (jobs : ι → Prog S α) (e : PoolEvent ι) : Prop :=
  ∀ i job, e = .serve i job → (jobs job).All P

theorem Within.step {Inv : σ → Prop} (hexec : ∀ o s, P o → Inv s → Inv (exec o s).2)
    (h : Within P Inv pool) {e : PoolEvent ι} (he : JobsWithin P jobs e)
    (hstep : pool.step exec jobs e = some pool') : Within P Inv pool' := by
  cases steps_of_step hstep with
  | @serve i job hidle =>
    refine ⟨fun p hp => ?_, h.shared⟩
    rcases List.mem_or_eq_of_mem_set hp with hp | hp
    · exact h.programs p hp
    · rw [Option.some_inj.1 hp]
      exact he i job rfl
  | done hret =>
    refine ⟨fun p hp => ?_, h.shared⟩
    rcases List.mem_or_eq_of_mem_set hp with hp | hp
    · exact h.programs p hp
    · cases hp
  | call hcall =>
    obtain ⟨ho, hk⟩ := h.programs _ (List.mem_of_getElem? hcall)
    refine ⟨fun p hp => ?_, hexec _ _ ho h.shared⟩
    rcases List.mem_or_eq_of_mem_set hp with hp | hp
    · exact h.programs p hp
    · rw [Option.some_inj.1 hp]
      exact hk _

theorem Within.run {Inv : σ → Prop} (hexec : ∀ o s, P o → Inv s → Inv (exec o s).2)
    (h : Within P Inv pool) {events : List (PoolEvent ι)} (hevents : ∀ e ∈ events, JobsWithin P jobs e)
    (hrun : Runs.run (Pool.step exec jobs) pool events = some pool') : Within P Inv pool' :=
  run_inv_mem (fun _ e he _ h hstep => h.step hexec (hevents e he) hstep) h hrun

/-- What is claimed of one worker's program and the shared state, `A`, while the others make calls of
one kind. -/
structure Watched (P : S.Op → Prop) (A : Option (Prog S α) → σ → Prop) (i : Nat) (pool : Pool S σ α) :
    Prop where
  others : ∀ j p, j ≠ i → pool.workers[j]? = some (some p) → p.All P
  own : ∀ w, pool.workers[i]? = some w → A w pool.shared

/-- The others' calls keep the claim, and so do the worker's own steps. -/
structure KeptBy (exec : Exec S σ) (P : S.Op → Prop) (A : Option (Prog S α) → σ → Prop) : Prop where
  other : ∀ o s w, P o → A w s → A w (exec o s).2
  call : ∀ o k s, A (some (.call o k)) s → A (some (k (exec o s).1)) (exec o s).2
  done : ∀ a s, A (some (.ret a)) s → A none s

/-- The worker takes up no job, and no job makes other calls. -/
def OthersWithin (P : S.Op → Prop) (jobs : ι → Prog S α) (i : Nat) (e : PoolEvent ι) : Prop :=
  ∀ j job, e = .serve j job → j ≠ i ∧ (jobs job).All P

/-- When a worker takes up a job, it has that job's program, and all others are as they were. -/
theorem Within.watched {Inv : σ → Prop} (h : Within P Inv pool) {i : Nat} {job : ι}
    (hstep : pool.step exec jobs (.serve i job) = some pool') {A : Option (Prog S α) → σ → Prop}
    (hA : Inv pool.shared → A (some (jobs job)) pool.shared) : Watched P A i pool' := by
  cases steps_of_step hstep with
  | serve hidle =>
    obtain ⟨hi, -⟩ := List.getElem?_eq_some_iff.1 hidle
    refine ⟨fun j p hj hp => ?_, fun w hw => ?_⟩
    · rw [List.getElem?_set_ne hj.symm] at hp
      exact h.programs p (List.mem_of_getElem? hp)
    · rw [List.getElem?_set_self hi, Option.some_inj] at hw
      rw [← hw]
      exact hA h.shared

theorem Watched.step {A : Option (Prog S α) → σ → Prop} (hA : KeptBy exec P A) {i : Nat}
    (h : Watched P A i pool) {e : PoolEvent ι} (he : OthersWithin P jobs i e)
    (hstep : pool.step exec jobs e = some pool') : Watched P A i pool' := by
  -- a step of worker `j` that leaves it with `w`
  have hset : ∀ {j : Nat} {w : Option (Prog S α)} {s : σ}, j < pool.workers.length →
      (∀ p, j ≠ i → w = some p → p.All P) → (j = i → A w s) →
      (j ≠ i → ∀ w, pool.workers[i]? = some w → A w s) →
      Watched P A i ⟨s, pool.workers.set j w⟩ := by
    intro j w s hj hp hself hother
    refine ⟨fun j' p hj' hget => ?_, fun w' hget => ?_⟩
    · by_cases hjj : j = j'
      · subst hjj
        rw [List.getElem?_set_self hj, Option.some_inj] at hget
        exact hp p hj' hget
      · rw [List.getElem?_set_ne hjj] at hget
        exact h.others j' p hj' hget
    · by_cases hji : j = i
      · subst hji
        rw [List.getElem?_set_self hj, Option.some_inj] at hget
        rw [← hget]
        exact hself rfl
      · rw [List.getElem?_set_ne hji] at hget
        exact hother hji w' hget
  cases steps_of_step hstep with
  | @serve j job hidle =>
    obtain ⟨hj, -⟩ := List.getElem?_eq_some_iff.1 hidle
    obtain ⟨hji, hjob⟩ := he j job rfl
    refine hset hj (fun p _ hw => ?_) (fun hji' => absurd hji' hji) fun _ => h.own
    rw [← Option.some_inj.1 hw]
    exact hjob
  | @done j a hret =>
    obtain ⟨hj, -⟩ := List.getElem?_eq_some_iff.1 hret
    refine hset hj (fun p _ hw => by cases hw) (fun hji => ?_) fun _ => h.own
    rw [hji] at hret
    exact hA.done a _ (h.own _ hret)
  | @call j o k hcall =>
    obtain ⟨hj, -⟩ := List.getElem?_eq_some_iff.1 hcall
    refine hset hj (fun p hji hw => ?_) (fun hji => ?_) fun hji w hw => ?_
    · rw [← Option.some_inj.1 hw]
      exact (h.others j _ hji hcall).2 _
    · rw [hji] at hcall
      exact hA.call o k _ (h.own _ hcall)
    · exact hA.other o _ w (h.others j _ hji hcall).1 (h.own w hw)

theorem Watched.run {A : Option (Prog S α) → σ → Prop} (hA : KeptBy exec P A) {i : Nat}
    (h : Watched P A i pool) {events : List (PoolEvent ι)}
    (hevents : ∀ e ∈ events, OthersWithin P jobs i e)
    (hrun : Runs.run (Pool.step exec jobs) pool events = some pool') : Watched P A i pool' :=
  run_inv_mem (fun _ e he _ h hstep => h.step hA (hevents e he) hstep) h hrun

end Pool

/-! ### Calls in pairs -/

/-- Which calls take the resource, and which give it back. -/
structure Pairing (S : Signature) where
  takes : S.Op → Bool
  gives : S.Op → Bool

namespace Pairing

variable (B : Pairing S)

/-- The program is about to give the resource back. -/
def inside : Prog S α → Bool
  | .ret _ => false
  | .call o _ => B.gives o

/-- On every path a call that takes the resource is followed at once by one that gives it back, and
these occur nowhere else. -/
def Paired : Prog S α → Prop
  | .ret _ => True
  | .call o k => ∀ r, B.inside (k r) = B.takes o ∧ Paired (k r)

/-- A job is paired, and does not begin inside. -/
def Job (p : Prog S α) : Prop := B.Paired p ∧ B.inside p = false

/-- What the calls do to the amount that is held. -/
def Counts (exec : Exec S σ) (held : σ → Nat) : Prop :=
  ∀ o s, (B.gives o = true → 0 < held s) →
    held (exec o s).2 + (B.gives o).toNat = held s + (B.takes o).toNat

variable {B} {exec : Exec S σ} {held : σ → Nat} {p : Prog S α} {f : α → Prog S β}

theorem job_pure (a : α) : B.Job (pure a : Prog S α) := ⟨trivial, rfl⟩

theorem inside_bind (hf : ∀ a, B.inside (f a) = false) : B.inside (p >>= f) = B.inside p := by
  cases p with
  | ret a => exact hf a
  | call o k => rfl

theorem paired_bind (hp : B.Paired p) (hf : ∀ a, B.Job (f a)) : B.Paired (p >>= f) := by
  show B.Paired (p.bind f)
  induction p with
  | ret a => exact (hf a).1
  | call o k ih =>
    intro r
    obtain ⟨hinside, hrest⟩ := hp r
    exact ⟨(inside_bind fun a => (hf a).2).trans hinside, ih r hrest⟩

theorem Job.bind (hp : B.Job p) (hf : ∀ a, B.Job (f a)) : B.Job (p >>= f) :=
  ⟨paired_bind hp.1 hf, (inside_bind fun a => (hf a).2).trans hp.2⟩

/-- A call that neither takes nor gives. -/
theorem job_op {o : S.Op} (htakes : B.takes o = false) (hgives : B.gives o = false) :
    B.Job (Prog.op o) :=
  ⟨fun _ => ⟨htakes.symm, trivial⟩, hgives⟩

/-- A pair of calls. -/
theorem job_pair {o : S.Op} {o' : S.Ans o → S.Op} (htakes : B.takes o = true)
    (hgives : B.gives o = false) (hgives' : ∀ r, B.gives (o' r) = true)
    (htakes' : ∀ r, B.takes (o' r) = false) {f : (r : S.Ans o) → S.Ans (o' r) → Prog S β}
    (hf : ∀ r a, B.Job (f r a)) :
    B.Job (Prog.op o >>= fun r => Prog.op (o' r) >>= f r) := by
  refine ⟨fun r => ⟨(hgives' r).trans htakes.symm, fun a => ⟨?_, (hf r a).1⟩⟩, hgives⟩
  exact (hf r a).2.trans (htakes' r).symm

/-! ### What is held -/

/-- The programs at work are paired, and as much is held as there are workers inside. -/
structure Held (B : Pairing S) (held : σ → Nat) (pool : Pool S σ α) : Prop where
  paired : ∀ p, some p ∈ pool.workers → B.Paired p
  count : held pool.shared = pool.workers.countP fun w => w.any B.inside

namespace Held

variable {pool pool' : Pool S σ α} {jobs : ι → Prog S α}

theorem start {s : σ} {n : Nat} (hs : held s = 0) : B.Held held (Pool.start s n : Pool S σ α) where
  paired p hp := by cases List.eq_of_mem_replicate hp
  count := by
    have hidle : (List.replicate n (none : Option (Prog S α))).countP (fun w => w.any B.inside) = 0 := by
      rw [List.countP_eq_zero]
      intro w hw
      rw [List.eq_of_mem_replicate hw]
      simp
    exact hs.trans hidle.symm

/-- The program that a worker has after its step is paired as well. -/
theorem paired_set {i : Nat} {w : Option (Prog S α)} (h : B.Held held pool)
    (hw : ∀ p, w = some p → B.Paired p) (p : Prog S α) (hp : some p ∈ pool.workers.set i w) :
    B.Paired p := by
  rcases List.mem_or_eq_of_mem_set hp with hp | hp
  · exact h.paired p hp
  · exact hw p hp.symm

theorem step {e : PoolEvent ι} (hcounts : B.Counts exec held) (hjobs : ∀ job, B.Job (jobs job))
    (h : B.Held held pool) (hstep : pool.step exec jobs e = some pool') : B.Held held pool' := by
  cases Pool.steps_of_step hstep with
  | @serve i job hidle =>
    obtain ⟨hi, hget⟩ := List.getElem?_eq_some_iff.1 hidle
    refine ⟨h.paired_set (fun p hp => Option.some_inj.1 hp ▸ (hjobs job).1), ?_⟩
    rw [List.countP_set hi, hget]
    simpa [(hjobs job).2] using h.count
  | done hret =>
    obtain ⟨hi, hget⟩ := List.getElem?_eq_some_iff.1 hret
    refine ⟨h.paired_set (fun p hp => by cases hp), ?_⟩
    rw [List.countP_set hi, hget]
    simpa [inside] using h.count
  | @call i o k hcall =>
    obtain ⟨hi, hget⟩ := List.getElem?_eq_some_iff.1 hcall
    have hmem : some (Prog.call o k) ∈ pool.workers := List.mem_of_getElem? hcall
    obtain ⟨hinside, hrest⟩ := h.paired _ hmem (exec o pool.shared).1
    -- a worker that gives the resource back was counted
    have hpos : B.gives o = true → 0 < held pool.shared := by
      intro hgives
      rw [h.count, List.countP_pos_iff]
      exact ⟨_, hmem, hgives⟩
    have hcount := hcounts o pool.shared hpos
    refine ⟨h.paired_set (fun p hp => Option.some_inj.1 hp ▸ hrest), ?_⟩
    rw [List.countP_set hi, hget]
    have hheld := h.count
    have hinside' : B.inside (Prog.call o k) = B.gives o := rfl
    simp only [Option.any_some, hinside, hinside'] at hheld ⊢
    cases hgives : B.gives o <;> cases htakes : B.takes o <;> simp [hgives, htakes] at hcount hpos ⊢ <;>
      omega

end Held

/-- **As much is held as there are workers inside of a pair.** -/
theorem held_eq_countP {s : σ} {n : Nat} {jobs : ι → Prog S α} {events : List (PoolEvent ι)}
    {pool : Pool S σ α} (hcounts : B.Counts exec held) (hjobs : ∀ job, B.Job (jobs job))
    (hs : held s = 0) (hrun : run (Pool.step exec jobs) (Pool.start s n) events = some pool) :
    held pool.shared = pool.workers.countP fun w => w.any B.inside :=
  (run_mono (fun _ _ _ h hstep => h.step hcounts hjobs hstep) (Held.start hs) hrun).count

/-- So no more is held than there are workers. -/
theorem held_le {s : σ} {n : Nat} {jobs : ι → Prog S α} {events : List (PoolEvent ι)}
    {pool : Pool S σ α} (hcounts : B.Counts exec held) (hjobs : ∀ job, B.Job (jobs job))
    (hs : held s = 0) (hrun : run (Pool.step exec jobs) (Pool.start s n) events = some pool) :
    held pool.shared ≤ n := by
  rw [held_eq_countP hcounts hjobs hs hrun, ← Pool.length_run hrun]
  exact List.countP_le_length

end Pairing

end Interleaving
