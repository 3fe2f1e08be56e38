import Sp2p.Lib.Pool
import Sp2p.Tracker.Run

/-!
# Transactions on the shared connection

All pool threads use one `PsqlConnector`, and it has one connection, on which pqxx allows one open
transaction: starting a second throws a logic error, which no `catch` in the connector takes. Here a
call of the connector is no longer atomic. It starts a transaction and ends it, and the calls of other
threads can come in between; `updateServer` may do so twice.

The session store locks a mutex in each call. Nothing locks the connector, so what
`oneTransaction_iff` says is all there is: one transaction at a time needs a pool of one thread.
-/

namespace Sp2p.Tracker

open Interleaving Runs Protocol

namespace PsqlConnector

/-- The first transaction of `updateServer`: what the method returns in it, if it does. It is not
committed then. -/
def updateServerUpdate (fault : Bool) (network user ip : String) (t : Tables) : Option DBResponse :=
  match BpChar.ofText 20 ip with
  | none => some .internalError
  | some _ =>
    if fault then some .internalError
    else if (t.servers.find? (t.userId? user) (t.networkId? network)).isSome then some .ok
    else none

/-- The second transaction of `updateServer`. -/
def updateServerInsert (network user ip : String) (port ttl : Int) (t : Tables) :
    DBResponse × Tables :=
  match BpChar.ofText 20 ip with
  | none => (.internalError, t)
  | some addr => work false .notFound t (t.insertServer network user ⟨addr, port, ttl⟩)

theorem valid_updateServerInsert {t : Tables} (h : t.Valid) (network user ip : String)
    (port ttl : Int) : (updateServerInsert network user ip port ttl t).2.Valid := by
  unfold updateServerInsert
  split
  · exact h
  · exact valid_work h (by decide) fun _ hx => h.insertServer hx

/-- The two transactions together. -/
theorem updateServer_eq (fault : Bool) (network user ip : String) (port ttl : Int) (t : Tables) :
    updateServer fault network user ip port ttl t =
      match updateServerUpdate fault network user ip t with
      | some r => (r, t)
      | none => updateServerInsert network user ip port ttl t := by
  unfold updateServer updateServerUpdate updateServerInsert
  cases BpChar.ofText 20 ip with
  | none => rfl
  | some addr =>
    cases fault with
    | true => rfl
    | false =>
      cases h : (t.servers.find? (t.userId? user) (t.networkId? network)).isSome <;> simp

end PsqlConnector

/-! ### Calls in steps -/

/-- `commit` is the statement of a call with the end of its transaction. -/
inductive Step
  | session (c : Call)
  | work
  | commit (c : Call)
  | commitUpdate (fault : Bool) (network user ip : String)
  | commitInsert (network user ip : String) (port ttl : Int)

abbrev Step.Ans : Step → Type
  | .session c | .commit c => c.Ans
  | .work => Unit
  | .commitUpdate .. => Option DBResponse
  | .commitInsert .. => DBResponse

abbrev steps : Signature := ⟨Step, Step.Ans⟩

/-- `opened` counts the transactions on the connection that were started and not ended. -/
structure Connected where
  state : State
  opened : Nat

def execStep : Exec steps Connected
  | .session c, s => ((exec c s.state).1, { s with state := (exec c s.state).2 })
  | .work, s => ((), { s with opened := s.opened + 1 })
  | .commit c, s => ((exec c s.state).1, ⟨(exec c s.state).2, s.opened - 1⟩)
  | .commitUpdate fault network user ip, s =>
    (PsqlConnector.updateServerUpdate fault network user ip s.state.db.tables,
      { s with opened := s.opened - 1 })
  | .commitInsert network user ip port ttl, s =>
    let r := s.state.write (PsqlConnector.updateServerInsert network user ip port ttl)
      (PsqlConnector.valid_updateServerInsert s.state.db.valid ..)
    (r.1, ⟨r.2, s.opened - 1⟩)

abbrev callStep (o : Step) : Prog steps o.Ans := Prog.op (S := steps) o

/-- What `updateServer` does after its first transaction. -/
def insertServerSteps (network user ip : String) (port ttl : Int) :
    Option DBResponse → Prog steps DBResponse
  | some r => pure r
  | none => callStep .work >>= fun (_ : Unit) =>
      callStep (.commitInsert network user ip port ttl) >>= pure

/-- The steps of a call. -/
def Call.steps : (c : Call) → Prog steps c.Ans
  | .getLogin cookie => callStep (.session (.getLogin cookie))
  | .login l cookie now => callStep (.session (.login l cookie now))
  | .logout cookie => callStep (.session (.logout cookie))
  | .updateServer fault network user ip port ttl =>
    callStep .work >>= fun (_ : Unit) =>
      callStep (.commitUpdate fault network user ip) >>= insertServerSteps network user ip port ttl
  | c => callStep .work >>= fun (_ : Unit) => callStep (.commit c) >>= pure

/-- A program of calls, step by step. -/
def inSteps {α : Type} : Prog shared α → Prog Tracker.steps α
  | .ret a => .ret a
  | .call c k => c.steps >>= fun r => inSteps (k r)

/-- What one transaction does, and then the rest. -/
theorem run_transaction {α : Type} (o : Step) (f : o.Ans → Prog steps α) (s : Connected) :
    (callStep .work >>= fun (_ : Unit) => callStep o >>= f).run execStep s =
      (f (execStep o { s with opened := s.opened + 1 }).1).run execStep
        (execStep o { s with opened := s.opened + 1 }).2 :=
  rfl

/-- With nothing in between, the steps of a call are the call. -/
theorem run_steps (c : Call) (s : Connected) :
    c.steps.run execStep s = ((exec c s.state).1, { s with state := (exec c s.state).2 }) := by
  cases c with
  | updateServer fault network user ip port ttl =>
    have heq := PsqlConnector.updateServer_eq fault network user ip port ttl s.state.db.tables
    rw [Call.steps, run_transaction]
    cases h : PsqlConnector.updateServerUpdate fault network user ip s.state.db.tables with
    | some r =>
      rw [h] at heq
      simp [insertServerSteps, execStep, exec, State.write, h, heq]
    | none =>
      rw [h] at heq
      simp only [execStep, h, insertServerSteps]
      rw [run_transaction]
      simp [execStep, exec, State.write, heq]
  | _ => rfl

theorem run_inSteps {α : Type} (p : Prog shared α) (s : Connected) :
    (inSteps p).run execStep s =
      ((p.run exec s.state).1, { s with state := (p.run exec s.state).2 }) := by
  induction p generalizing s with
  | ret a => rfl
  | call c k ih =>
    rw [inSteps, run_bind, run_steps, ih]
    rfl

/-! ### Open transactions -/

def transaction : Pairing steps where
  takes
    | .work => true
    | _ => false
  gives
    | .commit _ | .commitUpdate .. | .commitInsert .. => true
    | _ => false

theorem transaction_counts : transaction.Counts execStep Connected.opened := by
  intro o s hpos
  cases o with
  | session c => rfl
  | work => rfl
  | commit c => exact Nat.sub_add_cancel (hpos rfl)
  | commitUpdate fault network user ip => exact Nat.sub_add_cancel (hpos rfl)
  | commitInsert network user ip port ttl => exact Nat.sub_add_cancel (hpos rfl)

/-- Every call of the connector ends the transactions it starts, one after the other. -/
theorem job_steps (c : Call) : transaction.Job c.steps := by
  cases c with
  | getLogin | login | logout => exact Pairing.job_op rfl rfl
  | updateServer fault network user ip port ttl =>
    refine Pairing.job_pair rfl rfl (fun _ => rfl) (fun _ => rfl) fun _ r => ?_
    cases r with
    | some r => exact Pairing.job_pure r
    | none => exact Pairing.job_pair rfl rfl (fun _ => rfl) (fun _ => rfl) fun _ r => Pairing.job_pure r
  | _ => exact Pairing.job_pair rfl rfl (fun _ => rfl) (fun _ => rfl) fun _ r => Pairing.job_pure r

theorem job_inSteps {α : Type} (p : Prog shared α) : transaction.Job (inSteps p) := by
  induction p with
  | ret a => exact Pairing.job_pure a
  | call c k ih => exact (job_steps c).bind ih

/-! ### The thread pool -/

/-- A thread takes up a request from a connection of its own, or makes its next step. After the logic
error of a second transaction, which ends its thread and the program, there are no more steps. -/
def serverStep (pool : Pool steps Connected NodeMessage) (e : PoolEvent (Env × ClientMessage)) :
    Option (Pool steps Connected NodeMessage) :=
  if pool.shared.opened ≤ 1 then
    pool.step execStep (fun request => inSteps (handleRequest request.1 request.2)) e
  else none

/-- `Server::run` with a pool of `n` threads. -/
def serverStart (s : State) (n : Nat) : Pool steps Connected NodeMessage := Pool.start ⟨s, 0⟩ n

/-- No thread starts a transaction while another has one open. -/
def OneTransaction (s : State) (n : Nat) : Prop :=
  ∀ events pool, run serverStep (serverStart s n) events = some pool → pool.shared.opened ≤ 1

/-- Two threads have each taken up a REGISTER and started their transactions. -/
def twoRegisters : List (PoolEvent (Env × ClientMessage)) :=
  let request := (Env.sample, (Request.register Env.sample "bob" "secret" "request").message)
  [.serve 0 request, .serve 1 request, .step 0, .step 1]

theorem not_oneTransaction (s : State) (n : Nat) : ¬ OneTransaction s (n + 2) := by
  intro h
  have hrun : (run serverStep (serverStart s (n + 2)) twoRegisters).map (·.shared.opened) = some 2 :=
    rfl
  obtain ⟨pool, hpool, hopened⟩ := Option.map_eq_some_iff.1 hrun
  have hle := h _ _ hpool
  omega

/-- **There is never more than one transaction on the connection exactly when the pool has at most one
thread.** -/
theorem oneTransaction_iff (s : State) (n : Nat) : OneTransaction s n ↔ n ≤ 1 := by
  constructor
  · intro h
    by_contra hn
    obtain ⟨k, rfl⟩ := Nat.exists_eq_add_of_le' (Nat.lt_of_not_le hn)
    exact not_oneTransaction s k h
  · intro hn events pool hrun
    have hsteps : ∀ pool e pool', serverStep pool e = some pool' → Pool.step execStep
        (fun request : Env × ClientMessage => inSteps (handleRequest request.1 request.2)) pool e =
          some pool' := by
      intro pool e pool' hstep
      unfold serverStep at hstep
      split at hstep
      · exact hstep
      · cases hstep
    have hheld := Pairing.held_le transaction_counts (fun request => job_inSteps _) rfl
      (run_of_imp hsteps hrun)
    omega

/-- The second of two threads starts a transaction within that of the first. -/
theorem not_oneTransaction_two : ¬ OneTransaction State.empty 2 :=
  not_oneTransaction State.empty 0

end Sp2p.Tracker
