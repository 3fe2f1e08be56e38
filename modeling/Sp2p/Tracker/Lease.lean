import Sp2p.Tracker.Registration
import Sp2p.Tracker.Run

/-!
# Server leases

The `ttl` of a servers row is what the SQL function `clean` goes by. `lease_iff` compares it with the
lease that the reply of UPDATE_SERVER promises: they never agree for all times, since `clean` itself
fails once its clock is past an `integer`, and up to then they agree by coincidence only: the clock
counts milliseconds, `clean` and the reply count seconds, and the parameter has 32 bits.
-/

namespace Sp2p.Tracker

open Interleaving Protocol NodeMessageFactory
open Framing (toInt32 toInt32_eq_iff)

/-! ### The function `clean` -/

/-- `extract(epoch FROM now())` rounded to an integer: `now` is in microseconds, and a half goes to
the even side as with any double precision number. -/
def epochSeconds (now : Int) : Int :=
  let rest := now % 1000000
  if rest < 500000 ∨ (rest = 500000 ∧ now / 1000000 % 2 = 0) then now / 1000000
  else now / 1000000 + 1

/-- The range of the SQL type `integer`. -/
def IsInteger (x : Int) : Prop := -2 ^ 31 ≤ x ∧ x < 2 ^ 31

instance (x : Int) : Decidable (IsInteger x) := inferInstanceAs (Decidable (_ ∧ _))

/-- A value that is to be an `integer`: an error when it is out of range. -/
def pgInteger (x : Int) : Except SqlError Int := if IsInteger x then .ok x else .error .failure

/-- `clean(T)`, run at `now`. -/
def Tables.clean (t : Tables) (now T : Int) : Except SqlError Tables := do
  let curr ← pgInteger (epochSeconds now)
  let limit ← pgInteger (curr - T)
  return { t with servers := { t.servers with rows := t.servers.rows.filter fun r => !(r.data.ttl < limit) } }

/-- Running `clean(T)` at `now` deletes the row. -/
def Tables.Cleans (t : Tables) (now T : Int) (row : LinkRow ServerData) : Prop :=
  ∃ t', t.clean now T = .ok t' ∧ row ∉ t'.servers.rows

theorem Tables.cleans_iff {t : Tables} {now T : Int} {row : LinkRow ServerData}
    (hrow : row ∈ t.servers.rows) :
    t.Cleans now T row ↔ IsInteger (epochSeconds now) ∧ IsInteger (epochSeconds now - T) ∧
      row.data.ttl < epochSeconds now - T := by
  unfold Tables.Cleans Tables.clean pgInteger
  by_cases hcurr : IsInteger (epochSeconds now)
  · by_cases hlimit : IsInteger (epochSeconds now - T)
    · simp only [bind, Except.bind, hcurr, hlimit, if_true, pure, Except.pure, Except.ok.injEq,
        exists_eq_left', true_and]
      rw [List.mem_filter, not_and, Bool.not_eq_true', decide_eq_false_iff_not, not_not]
      exact ⟨fun h => h hrow, fun h _ => h⟩
    · simp [hcurr, hlimit, bind, Except.bind]
  · simp [hcurr, bind, Except.bind]

/-! ### The lease -/

/-- From the clock reading `start` on, in milliseconds, and at the times `P`, `clean` deletes the row
exactly when the `seconds` of the lease and the grace are over. -/
def LeaseKept (P : Int → Prop) (t : Tables) (row : LinkRow ServerData) (start seconds : Int) : Prop :=
  ∀ now T, start * 1000 ≤ now → P now → 0 ≤ T → T < 2 ^ 31 →
    (t.Cleans now T row ↔ start * 1000 + (seconds + T) * 1000000 < now)

/-- The whole seconds that are an SQL `integer`. -/
def WholeSecond (now : Int) : Prop := ∃ c : Int, now = c * 1000000 ∧ c < 2 ^ 31

@[simp] theorem epochSeconds_mul (c : Int) : epochSeconds (c * 1000000) = c := by
  unfold epochSeconds
  simp only [Int.mul_emod_left]
  rw [if_pos (by omega)]
  omega

variable {t : Tables} {row : LinkRow ServerData} {start seconds : Int}

/-- Once its clock is past an `integer`, `clean` deletes nothing. -/
theorem not_leaseKept (hrow : row ∈ t.servers.rows) :
    ¬ LeaseKept (fun _ => True) t row start seconds := by
  intro h
  obtain ⟨c, hc⟩ : ∃ c : Int, 2 ^ 31 ≤ c ∧ start * 1000 ≤ c * 1000000 ∧
      start * 1000 + seconds * 1000000 < c * 1000000 := by
    refine ⟨max (2 ^ 31) (max (start / 1000 + 1) (start / 1000 + seconds + 1)), ?_⟩
    omega
  obtain ⟨hcurr, -⟩ := (Tables.cleans_iff hrow).1
    ((h (c * 1000000) 0 hc.2.1 trivial (le_refl _) (by omega)).2 (by omega))
  rw [epochSeconds_mul] at hcurr
  unfold IsInteger at hcurr
  omega

/-- At whole seconds a lease is kept when `ttl` is the second it ends in. -/
theorem leaseKept_wholeSecond_iff (hrow : row ∈ t.servers.rows) (hstart : 0 ≤ start)
    (hseconds : 0 < seconds) (hend : start / 1000 + seconds + 1 < 2 ^ 31) :
    LeaseKept WholeSecond t row start seconds ↔ row.data.ttl = start / 1000 + seconds := by
  constructor
  · intro h
    have hat := h ((start / 1000 + seconds) * 1000000) 0 (by omega)
      ⟨_, rfl, by omega⟩ (le_refl _) (by omega)
    have hpast := h ((start / 1000 + seconds + 1) * 1000000) 0 (by omega)
      ⟨_, rfl, by omega⟩ (le_refl _) (by omega)
    rw [Tables.cleans_iff hrow, epochSeconds_mul] at hat hpast
    unfold IsInteger at hat hpast
    omega
  · intro httl now T hnow hP hT hT'
    obtain ⟨c, rfl, hc⟩ := hP
    rw [Tables.cleans_iff hrow, epochSeconds_mul, httl]
    unfold IsInteger
    omega

/-! ### What is stored -/

variable {env : Env} {m : ClientMessage} {s : State}

/-- The `ttl` in the row of the user's server after it is registered: the one there was, if there
was one, else the low 32 bits of the lease's end in milliseconds. -/
def storedTtl (env : Env) (s : State) (network u : String) : Int :=
  match s.db.tables.servers.find? (s.db.tables.userId? u) (s.db.tables.networkId? network) with
  | some old => old.data.ttl
  | none => toInt32 (env.currTimeInMS + SERVER_TTL)

/-- These happen to be the second the lease ends in. -/
def EncodesLease (env : Env) (s : State) (network u : String) : Prop :=
  match s.db.tables.servers.find? (s.db.tables.userId? u) (s.db.tables.networkId? network) with
  | some old => old.data.ttl = env.currTimeInMS / 1000 + SERVER_TTL
  | none => (2 ^ 32 : Int) ∣ env.currTimeInMS - env.currTimeInMS / 1000

theorem storedTtl_eq_iff {network u : String} (hstart : 0 ≤ env.currTimeInMS)
    (hend : env.currTimeInMS / 1000 + SERVER_TTL + 1 < 2 ^ 31) :
    storedTtl env s network u = env.currTimeInMS / 1000 + SERVER_TTL ↔
      EncodesLease env s network u := by
  unfold storedTtl EncodesLease
  split
  · rfl
  · rw [toInt32_eq_iff (by unfold SERVER_TTL; omega) (by omega)]
    rw [show env.currTimeInMS + SERVER_TTL - (env.currTimeInMS / 1000 + SERVER_TTL) =
      env.currTimeInMS - env.currTimeInMS / 1000 by omega]

/-- The row of the user's server after it is registered. -/
theorem Registers.exists_row {network u : String} {port : Int} {s' : State}
    (h : Registers env network u port s s') :
    ∃ row, s'.db.tables.servers.find? (s'.db.tables.userId? u) (s'.db.tables.networkId? network) =
        some row ∧ row.data.ttl = storedTtl env s network u := by
  unfold storedTtl
  cases h with
  | known hrow hs =>
    rw [hs, hrow]
    exact ⟨_, rfl, rfl⟩
  | fresh haddr hu hn hnew ht hs =>
    have hu' : s'.db.tables.userId? u = s.db.tables.userId? u := by rw [ht]; rfl
    have hn' : s'.db.tables.networkId? network = s.db.tables.networkId? network := by rw [ht]; rfl
    rw [hu', hn', hu, hn, hnew, ht]
    exact ⟨_, LinkTable.find?_push hnew, rfl⟩

/-- **No lease is kept at all times; at the whole seconds of an `integer` it is kept when what is
stored happens to be the second it ends in.** -/
theorem lease_iff (hm : m.requestType = .updateServer) (hok : (handle env m s).1.isOk) :
    ∃ sub u row, UpdatedServer env m s sub u (handle env m s) ∧
      (handle env m s).2.db.tables.servers.find? ((handle env m s).2.db.tables.userId? u)
        ((handle env m s).2.db.tables.networkId? (sub.networkName.getD "")) = some row ∧
      ¬ LeaseKept (fun _ => True) (handle env m s).2.db.tables row env.currTimeInMS SERVER_TTL ∧
      (0 ≤ env.currTimeInMS → env.currTimeInMS / 1000 + SERVER_TTL + 1 < 2 ^ 31 →
        (LeaseKept WholeSecond (handle env m s).2.db.tables row env.currTimeInMS SERVER_TTL ↔
          EncodesLease env s (sub.networkName.getD "") u)) := by
  obtain ⟨sub, u, hupd⟩ := handle_updateServer_ok hm hok
  obtain ⟨row, hrow, httl⟩ := hupd.registers.exists_row
  have hmem : row ∈ (handle env m s).2.db.tables.servers.rows := List.mem_of_find?_eq_some hrow
  refine ⟨sub, u, row, hupd, hrow, not_leaseKept hmem, fun hstart hend => ?_⟩
  rw [leaseKept_wholeSecond_iff hmem hstart (by decide) hend, httl]
  exact storedTtl_eq_iff hstart hend

/-- Bob is logged in and has a network. -/
def bobsNetwork : State :=
  after [.register Env.sample "bob" "secret" "request", .login Env.sample "bob" "secret",
    .createUnlisted Env.sample "c00kie" "net"]

theorem state_bobsNetwork :
    bobsNetwork.sessions.getLogin "c00kie" = "bob" ∧ bobsNetwork.db.tables.userId? "bob" = some 1 ∧
      bobsNetwork.db.tables.networkId? "net" = some 1 ∧
      bobsNetwork.db.tables.servers.find? (some 1) (some 1) = none := by
  decide +kernel

/-- A clock in May 2014. -/
def clock2014 : Env := { Env.sample with currTimeInMS := 1400000000000 }

def updateBob : ClientMessage where
  request := some .updateServer
  updateServerMessage := some ⟨some "c00kie", some "net", some 8080⟩

theorem lease_iff_bob :
    ∃ row ∈ (handle clock2014 updateBob bobsNetwork).2.db.tables.servers.rows,
      (LeaseKept WholeSecond (handle clock2014 updateBob bobsNetwork).2.db.tables row 1400000000000
          SERVER_TTL ↔ EncodesLease clock2014 bobsNetwork "net" "bob") := by
  have hok : (handle clock2014 updateBob bobsNetwork).1.isOk := by decide +kernel
  obtain ⟨sub, u, row, hupd, hrow, -, hiff⟩ := lease_iff rfl hok
  obtain rfl : _ = sub := Option.some_inj.1 hupd.message
  obtain rfl : "bob" = u := Eq.trans state_bobsNetwork.1.symm hupd.login.login
  exact ⟨row, List.mem_of_find?_eq_some hrow, hiff (by decide) (by decide)⟩

/-- `clean(0)` deletes bob's server in the moment it is registered. -/
theorem lease_not_kept_bob :
    ∃ row ∈ (handle clock2014 updateBob bobsNetwork).2.db.tables.servers.rows,
      (handle clock2014 updateBob bobsNetwork).2.db.tables.Cleans (1400000000000 * 1000) 0 row ∧
      ¬ LeaseKept (fun _ => True) (handle clock2014 updateBob bobsNetwork).2.db.tables row
        1400000000000 SERVER_TTL := by
  have hmem : (⟨1, 1, 1, ⟨⟨"10.0.0.1", by decide, by decide⟩, 8080, -157538496⟩⟩ : LinkRow ServerData) ∈
      (handle clock2014 updateBob bobsNetwork).2.db.tables.servers.rows := by
    decide +kernel
  refine ⟨_, hmem, ?_, fun h => ?_⟩
  · rw [Tables.cleans_iff hmem]
    decide
  · have hclean := h (1400000000000 * 1000) 0 (le_refl _) trivial (le_refl _) (by decide)
    rw [Tables.cleans_iff hmem] at hclean
    exact absurd hclean (by decide)

end Sp2p.Tracker
