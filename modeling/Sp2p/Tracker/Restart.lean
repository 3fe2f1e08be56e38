import Sp2p.Tracker.Transactions

/-!
# Restarts

`getRandomString` takes its characters from `rand()`, which nothing seeds: every process of the
tracker goes through the same sequence of values from its beginning. All calls of `getRandomString`
share it, the names of the transactions in the connector as well as the cookies, and the threads of
the pool draw from it in any order. Here a program draws one value at a time. What a draw answers is
the place of the value in the sequence; `rand place` is the value.
-/

namespace Sp2p.Tracker

open Interleaving Runs Protocol

/-! ### Random strings -/

def charset : List Char := "0123456789ABCDEFGHIJKLMNOPQRSTUVWXYZabcdefghijklmnopqrstuvwxyz".toList

theorem nodup_charset : charset.Nodup := by decide +kernel

/-- `randchar`, for a value of `rand()`. -/
def randchar (value : Nat) : Char := charset.getD (value % charset.length) '0'

theorem getD_mod_eq_iff {l : List Char} (hl : l.Nodup) (hpos : 0 < l.length) {v w : Nat} (d : Char) :
    l.getD (v % l.length) d = l.getD (w % l.length) d ↔ v % l.length = w % l.length := by
  have hget : ∀ x, l.getD (x % l.length) d =
      l.get ⟨x % l.length, Nat.mod_lt x hpos⟩ := by
    intro x
    simp [List.getElem?_eq_getElem (Nat.mod_lt x hpos)]
  rw [hget, hget]
  rw [List.Nodup.get_inj_iff hl, Fin.mk.injEq]

theorem randchar_eq_iff {v w : Nat} :
    randchar v = randchar w ↔ v % charset.length = w % charset.length :=
  getD_mod_eq_iff nodup_charset (by decide +kernel) '0'

/-- The string of the values at these places of the sequence. -/
def textAt (rand : Nat → Nat) {n : Nat} (places : Vector Nat n) : String :=
  String.ofList (places.toList.map fun place => randchar (rand place))

theorem textAt_eq_iff {rand : Nat → Nat} {n : Nat} {p q : Vector Nat n} :
    textAt rand p = textAt rand q ↔
      ∀ i : Fin n, rand p[i] % charset.length = rand q[i] % charset.length := by
  have hlist : textAt rand p = textAt rand q ↔
      p.toList.map (fun place => randchar (rand place)) =
        q.toList.map fun place => randchar (rand place) := String.ofList_inj
  rw [hlist]
  constructor
  · intro h i
    have hi := congrArg (fun l => l[i.val]?) h
    simpa [randchar_eq_iff] using hi
  · intro h
    apply List.ext_getElem (by simp)
    intro i hi hi'
    have hn : i < n := by simpa using hi
    have hchar := randchar_eq_iff.2 (h ⟨i, hn⟩)
    simpa using hchar

/-! ### The process -/

def COOKIE_LEN : Nat := 15

/-- `rand` is one call of `rand()`. `updateFirst` and `updateSecond` are the two transactions of
`updateServer`. -/
inductive ProcessCall
  | rand
  | call (c : Call)
  | login (login : String) (places : Vector Nat COOKIE_LEN) (now : Int)
  | updateFirst (fault : Bool) (network user ip : String)
  | updateSecond (fault : Bool) (network user ip : String) (port ttl : Int)

abbrev ProcessCall.Ans : ProcessCall → Type
  | .rand => Nat
  | .call c => c.Ans
  | .login .. => String
  | .updateFirst .. => Option DBResponse
  | .updateSecond .. => DBResponse

abbrev process : Signature := ⟨ProcessCall, ProcessCall.Ans⟩

/-- A cookie that a LOGIN was given, and the places of the values it was made from. -/
structure Issue where
  user : String
  places : Vector Nat COOKIE_LEN
  cookie : String

/-- `drawn` values of the sequence were drawn. -/
structure Process where
  state : State
  drawn : Nat
  issued : List Issue

/-- The first transaction of `updateServer`. An address that is too long is an error only where there
is a row to write it to. -/
def PsqlConnector.updateServerFirst (fault : Bool) (network user ip : String) (t : Tables) :
    Option DBResponse :=
  if fault then some .internalError
  else if (t.servers.find? (t.userId? user) (t.networkId? network)).isSome then
    match BpChar.ofText 20 ip with
    | none => some .internalError
    | some _ => some .ok
  else none

/-- The two transactions together, when the second does not fail. -/
theorem PsqlConnector.updateServer_eq_first (fault : Bool) (network user ip : String) (port ttl : Int)
    (t : Tables) :
    updateServer fault network user ip port ttl t =
      match updateServerFirst fault network user ip t with
      | some r => (r, t)
      | none => updateServerInsert network user ip port ttl t := by
  unfold updateServer updateServerFirst updateServerInsert
  cases BpChar.ofText 20 ip <;> cases fault <;>
    cases h : (t.servers.find? (t.userId? user) (t.networkId? network)).isSome <;> simp

def execProcess (rand : Nat → Nat) : Exec process Process
  | .rand, s => (s.drawn, { s with drawn := s.drawn + 1 })
  | .call c, s => ((exec c s.state).1, { s with state := (exec c s.state).2 })
  | .login user places now, s =>
    let cookie := textAt rand places
    (cookie, { s with
      state := (exec (.login user cookie now) s.state).2
      issued := ⟨user, places, cookie⟩ :: s.issued })
  | .updateFirst fault network user ip, s =>
    (PsqlConnector.updateServerFirst fault network user ip s.state.db.tables, s)
  | .updateSecond fault network user ip port ttl, s =>
    if fault then (.internalError, s)
    else
      let r := s.state.write (PsqlConnector.updateServerInsert network user ip port ttl)
        (PsqlConnector.valid_updateServerInsert s.state.db.valid ..)
      (r.1, { s with state := r.2 })

abbrev callProcess (o : ProcessCall) : Prog process o.Ans := Prog.op (S := process) o

/-! ### What each request draws -/

/-- The places its characters come from. -/
def getRandomString : (len : Nat) → Prog process (Vector Nat len)
  | 0 => pure #v[]
  | len + 1 => getRandomString len >>= fun places =>
      callProcess .rand >>= fun (place : Nat) => pure (places.push place)

/-- What `updateServer` does after its first transaction. -/
def insertServer (late : Bool) (network user ip : String) (port ttl : Int) :
    Option DBResponse → Prog process DBResponse
  | some r => pure r
  | none => getRandomString 10 >>= fun _ =>
      callProcess (.updateSecond late network user ip port ttl)

/-- A call with the values it draws: a method of the connector draws the name of each of its
transactions before it starts it. `late` is a failure of the second transaction of `updateServer`. -/
def Call.drawing (late : Bool) : (c : Call) → Prog process c.Ans
  | .getLogin cookie => callProcess (.call (.getLogin cookie))
  | .login l cookie now => callProcess (.call (.login l cookie now))
  | .logout cookie => callProcess (.call (.logout cookie))
  | .updateServer fault network user ip port ttl =>
    getRandomString 10 >>= fun _ => callProcess (.updateFirst fault network user ip) >>=
      insertServer late network user ip port ttl
  | c => getRandomString 10 >>= fun _ => callProcess (.call c)

def withDraws {α : Type} (late : Bool) : Prog shared α → Prog process α
  | .ret a => .ret a
  | .call c k => c.drawing late >>= fun r => withDraws late (k r)

/-- A request with its environment; the cookie of its LOGIN is drawn, so `randomString` is not used. -/
structure ProcessJob where
  env : Env
  message : ClientMessage
  late : Bool

open NodeMessageFactory in
/-- `handleLogin`, with the cookie that `SessionControler::login` draws. -/
def drawLogin (env : Env) (m : ClientMessage) : Prog process NodeMessage :=
  match m.loginMessage with
  | some ⟨some login, some pass⟩ =>
    withDraws false (goodCredentials env login pass) >>= fun goodPass =>
      if goodPass = false then pure (errorMesage .badCredentials)
      else
        getRandomString COOKIE_LEN >>= fun places =>
          callProcess (.login login places env.currTimeInMS) >>= fun (cookie : String) =>
            pure (loginResponse cookie "notimplementedyet")
  | _ => pure badRequestMessage

def drawRequest (job : ProcessJob) : Prog process NodeMessage :=
  match job.message.requestType with
  | .login => drawLogin job.env job.message
  | _ => withDraws job.late (handleRequest job.env job.message)

/-- The threads of the pool draw and call in any order, also where the mutex of the session store would
make one wait. -/
def processStep (rand : Nat → Nat) (pool : Pool process Process NodeMessage)
    (e : PoolEvent ProcessJob) : Option (Pool process Process NodeMessage) :=
  pool.step (execProcess rand) drawRequest e

/-- `main`, with a pool of `n` threads: no session, and nothing drawn. The database is what it was. -/
def processStart (db : Database) (n : Nat) : Pool process Process NodeMessage :=
  Pool.start ⟨⟨db, SessionControler.empty⟩, 0, []⟩ n

/-! ### Places -/

/-- The next places after `d` values were drawn. -/
def placesFrom (d n : Nat) : Vector Nat n := Vector.ofFn fun i => d + i

theorem placesFrom_get (d : Nat) {n : Nat} (i : Fin n) : (placesFrom d n)[i] = d + i := by
  simp [placesFrom]

theorem run_getRandomString (rand : Nat → Nat) (len : Nat) (s : Process) :
    (getRandomString len).run (execProcess rand) s =
      (placesFrom s.drawn len, { s with drawn := s.drawn + len }) := by
  induction len with
  | zero => rfl
  | succ len ih =>
    have hplaces : (placesFrom s.drawn len).push (s.drawn + len) = placesFrom s.drawn (len + 1) := by
      rw [placesFrom, placesFrom, Vector.ofFn_succ]
      rfl
    rw [getRandomString, run_bind, ih, run_bind]
    show ((placesFrom s.drawn len).push (s.drawn + len), _) = _
    rw [hplaces]
    rfl

/-- One transaction, whose name is drawn. -/
theorem run_named (rand : Nat → Nat) (o : ProcessCall) (s : Process) :
    (getRandomString 10 >>= fun _ => callProcess o).run (execProcess rand) s =
      execProcess rand o { s with drawn := s.drawn + 10 } := by
  rw [run_bind, run_getRandomString, run_op]

/-- How many values a call draws. -/
def Call.draws : Call → State → Nat
  | .getLogin _, _ | .login .., _ | .logout _, _ => 0
  | .updateServer fault network user ip _ _, s =>
    if (PsqlConnector.updateServerFirst fault network user ip s.db.tables).isSome then 10 else 20
  | _, _ => 10

/-- How many values a program draws that runs alone. -/
def draws {α : Type} : Prog shared α → State → Nat
  | .ret _, _ => 0
  | .call c k, s => c.draws s + draws (k (exec c s).1) (exec c s).2

theorem run_drawing (rand : Nat → Nat) (c : Call) (s : Process) :
    (c.drawing false).run (execProcess rand) s =
      ((exec c s.state).1, ⟨(exec c s.state).2, s.drawn + c.draws s.state, s.issued⟩) := by
  cases c with
  | getLogin | login | logout => rfl
  | updateServer fault network user ip port ttl =>
    have heq := PsqlConnector.updateServer_eq_first fault network user ip port ttl s.state.db.tables
    have hfirst : (Call.drawing false (.updateServer fault network user ip port ttl)).run
        (execProcess rand) s =
          (insertServer false network user ip port ttl
            (PsqlConnector.updateServerFirst fault network user ip s.state.db.tables)).run
              (execProcess rand) { s with drawn := s.drawn + 10 } := by
      rw [Call.drawing, run_bind, run_getRandomString, run_bind, run_op]
      rfl
    rw [hfirst]
    cases h : PsqlConnector.updateServerFirst fault network user ip s.state.db.tables with
    | some r =>
      rw [h] at heq
      simp [exec, State.write, Call.draws, insertServer, h, heq]
    | none =>
      rw [h] at heq
      rw [insertServer, run_named]
      simp [execProcess, exec, State.write, Call.draws, h, heq]
  | _ => exact run_named rand _ s

theorem run_withDraws {α : Type} (rand : Nat → Nat) (p : Prog shared α) (s : Process) :
    (withDraws false p).run (execProcess rand) s =
      ((p.run exec s.state).1,
        ⟨(p.run exec s.state).2, s.drawn + draws p s.state, s.issued⟩) := by
  induction p generalizing s with
  | ret a => rfl
  | call c k ih =>
    rw [withDraws, run_bind, run_drawing, ih, run_call, draws, Nat.add_assoc]

/-- The cookie of a LOGIN that is handled after `d` values were drawn, with none drawn in between. -/
def cookieAfter (rand : Nat → Nat) (d : Nat) : String := textAt rand (placesFrom (d + 10) COOKIE_LEN)

/-- Only LOGIN looks at the cookie it is given. -/
theorem handleRequest_cookie (env : Env) (cookie : String) {m : ClientMessage}
    (hm : m.requestType ≠ .login) :
    handleRequest { env with randomString := cookie } m = handleRequest env m := by
  unfold handleRequest
  cases h : m.requestType with
  | login => exact absurd h hm
  | _ => rfl

theorem goodCredentials_cookie {env : Env} {cookie user pass : String} {s : State} :
    GoodCredentials { env with randomString := cookie } s user pass ↔ GoodCredentials env s user pass :=
  Iff.rfl

section

open NodeMessageFactory

variable {env : Env} {m : ClientMessage} {user pass : String}

theorem drawLogin_bad (hm : ¬ ∃ user pass, m.loginMessage = some ⟨some user, some pass⟩) :
    drawLogin env m = pure badRequestMessage := by
  unfold drawLogin
  split
  · rename_i user pass h
    exact absurd ⟨user, pass, h⟩ hm
  · rfl

/-- LOGIN draws ten values for its transaction, and then the cookie. -/
theorem run_drawLogin (rand : Nat → Nat) (hm : m.loginMessage = some ⟨some user, some pass⟩)
    (s : Process) :
    (drawLogin env m).run (execProcess rand) s =
      if GoodCredentials env s.state user pass then
        (loginResponse (cookieAfter rand s.drawn) "notimplementedyet",
          { state := { s.state with
              sessions := s.state.sessions.login user (cookieAfter rand s.drawn) env.currTimeInMS }
            drawn := s.drawn + 10 + COOKIE_LEN
            issued := ⟨user, placesFrom (s.drawn + 10) COOKIE_LEN, cookieAfter rand s.drawn⟩ ::
              s.issued })
      else (errorMesage .badCredentials, { s with drawn := s.drawn + 10 }) := by
  have hdraws : draws (goodCredentials env user pass) s.state = 10 := rfl
  unfold drawLogin
  rw [hm, run_bind, run_withDraws, run_goodCredentials, hdraws, run_ite, run_pure, run_bind,
    run_getRandomString]
  by_cases hgood : GoodCredentials env s.state user pass
  · simp only [hgood, decide_true, Bool.true_eq_false, if_false, if_true]
    rfl
  · simp only [hgood, decide_false, if_true, if_false]

end

/-- **A request that is handled alone is handled as if its LOGIN were given the cookie at the place that
was reached.** -/
theorem run_drawRequest (rand : Nat → Nat) (env : Env) (m : ClientMessage) (s : Process) :
    ((drawRequest ⟨env, m, false⟩).run (execProcess rand) s).1 =
        (handle { env with randomString := cookieAfter rand s.drawn } m s.state).1 ∧
      ((drawRequest ⟨env, m, false⟩).run (execProcess rand) s).2.state =
        (handle { env with randomString := cookieAfter rand s.drawn } m s.state).2 := by
  by_cases hm : m.requestType = .login
  · have hdraw : drawRequest ⟨env, m, false⟩ = drawLogin env m := by
      unfold drawRequest
      rw [hm]
    have hhandle : ∀ env', handleRequest env' m = handleLogin env' m := by
      intro env'
      unfold handleRequest
      rw [hm]
    rw [handle, hdraw, hhandle]
    by_cases hsub : ∃ user pass, m.loginMessage = some ⟨some user, some pass⟩
    · obtain ⟨user, pass, hsub⟩ := hsub
      rw [run_handleLogin hsub, run_drawLogin rand hsub]
      simp only [goodCredentials_cookie]
      split
      · exact ⟨rfl, rfl⟩
      · exact ⟨rfl, rfl⟩
    · rw [drawLogin_bad hsub, handleLogin_bad hsub]
      exact ⟨rfl, rfl⟩
  · have hdraw : drawRequest ⟨env, m, false⟩ = withDraws false (handleRequest env m) := by
      unfold drawRequest
      split
      · contradiction
      · rfl
    rw [handle, handleRequest_cookie env _ hm, hdraw, run_withDraws]
    exact ⟨rfl, rfl⟩

/-! ### A short history -/

/-- After the REGISTER of the user the password is good. -/
def GoodOnceRegistered (user : String) (s : State) : Prop :=
  Env.sample.checkBcrypt "secret" (PsqlConnector.getPassHash (Env.sample.fault 0) user
    ((Request.register Env.sample user "secret" "request").handle s).2.db.tables) = true

instance (user : String) (s : State) : Decidable (GoodOnceRegistered user s) :=
  inferInstanceAs (Decidable (_ = _))

theorem draws_call {α : Type} (c : Call) (k : c.Ans → Prog shared α) (s : State) :
    draws (callShared c >>= k) s = c.draws s + draws (k (exec c s).1) (exec c s).2 := rfl

theorem draws_register (env : Env) (username password key : String) (s : State) :
    draws (handleRequest env (Request.register env username password key).message) s = 10 := by
  show draws (handleRegister env (Request.register env username password key).message) s = 10
  unfold handleRegister
  dsimp only [Request.register]
  rw [draws_call]
  split
  · dsimp only
    split
    · rfl
    · rfl
  · rfl

/-- The job of a user who registers. -/
def registerJob (user : String) : ProcessJob :=
  ⟨Env.sample, (Request.register Env.sample user "secret" "request").message, false⟩

theorem run_registerJob (rand : Nat → Nat) (user : String) (s : Process) :
    (drawRequest (registerJob user)).run (execProcess rand) s =
      (((Request.register Env.sample user "secret" "request").handle s.state).1,
        ⟨((Request.register Env.sample user "secret" "request").handle s.state).2,
          s.drawn + 10, s.issued⟩) := by
  rw [← draws_register Env.sample user "secret" "request" s.state]
  exact run_withDraws rand
    (handleRequest Env.sample (Request.register Env.sample user "secret" "request").message) s

/-- A user registers and logs in. -/
def registerAndLogin (user : String) : List ProcessJob :=
  [registerJob user, ⟨Env.sample, (Request.login Env.sample user "secret").message, false⟩]

/-- Two names of transactions are drawn before the cookie is. -/
theorem afterJobs_registerAndLogin (rand : Nat → Nat) {user : String} {s : Process}
    (h : GoodOnceRegistered user s.state) :
    Pool.afterJobs (execProcess rand) drawRequest s (registerAndLogin user) =
      let r := ((Request.register Env.sample user "secret" "request").handle s.state).2
      { state := { r with
          sessions := r.sessions.login user (cookieAfter rand (s.drawn + 10)) Env.sample.currTimeInMS }
        drawn := s.drawn + 10 + 10 + COOKIE_LEN
        issued := ⟨user, placesFrom (s.drawn + 10 + 10) COOKIE_LEN, cookieAfter rand (s.drawn + 10)⟩ ::
          s.issued } := by
  have hlogin : drawRequest ⟨Env.sample, (Request.login Env.sample user "secret").message, false⟩ =
      drawLogin Env.sample (Request.login Env.sample user "secret").message := rfl
  simp only [registerAndLogin, Pool.afterJobs, List.foldl_cons, List.foldl_nil, run_registerJob, hlogin]
  rw [run_drawLogin rand rfl]
  have hgood : GoodCredentials Env.sample
      ((Request.register Env.sample user "secret" "request").handle s.state).2 user "secret" := h
  simp only [if_pos hgood]

/-- The history as a run of the process with one thread. -/
theorem exists_run_registerAndLogin (rand : Nat → Nat) {user : String} {db : Database}
    (h : GoodOnceRegistered user ⟨db, SessionControler.empty⟩) :
    ∃ events pool, run (processStep rand) (processStart db 1) events = some pool ∧
      pool.shared.issued = [⟨user, placesFrom 20 COOKIE_LEN, cookieAfter rand 10⟩] ∧
      pool.shared.state.db = ((Request.register Env.sample user "secret" "request").handle
        ⟨db, SessionControler.empty⟩).2.db := by
  obtain ⟨events, hrun⟩ := @Pool.exists_run_jobs _ _ _ _ (execProcess rand) drawRequest
    (registerAndLogin user) ⟨⟨db, SessionControler.empty⟩, 0, []⟩
  rw [@afterJobs_registerAndLogin rand user ⟨⟨db, SessionControler.empty⟩, 0, []⟩ h] at hrun
  dsimp only at hrun
  rw [Nat.zero_add, show 10 + 10 = 20 from rfl] at hrun
  refine ⟨events, _, hrun, ?_, ?_⟩
  · dsimp only
  · dsimp only

/-! ### Cookies of two processes -/

/-- No cookie of the later process is one that the earlier gave to a different user. -/
def NoCarryOver (earlier later : List Issue) : Prop :=
  ∀ e ∈ earlier, ∀ e' ∈ later, rstrip e.user ≠ rstrip e'.user → e'.cookie ≠ e.cookie

/-- The cookies that were issued are the values at their places. -/
def Drawn (rand : Nat → Nat) (s : Process) : Prop := ∀ e ∈ s.issued, e.cookie = textAt rand e.places

theorem drawn_exec {rand : Nat → Nat} (o : ProcessCall) (s : Process) (h : Drawn rand s) :
    Drawn rand (execProcess rand o s).2 := by
  cases o with
  | rand | call | updateFirst => exact h
  | login user places now =>
    intro e he
    rcases List.mem_cons.1 he with rfl | he
    · rfl
    · exact h e he
  | updateSecond fault network user ip port ttl =>
    have hissued : (execProcess rand (.updateSecond fault network user ip port ttl) s).2.issued =
        s.issued := by
      unfold execProcess
      dsimp only
      split
      · rfl
      · rfl
    intro e he
    exact h e (hissued ▸ he)

/-- In every run of the process, on any database and with any number of threads. -/
theorem drawn_run {rand : Nat → Nat} {db : Database} {n : Nat} {events : List (PoolEvent ProcessJob)}
    {pool : Pool process Process NodeMessage}
    (hrun : run (processStep rand) (processStart db n) events = some pool) :
    Drawn rand pool.shared :=
  Pool.shared_run (fun o s h => drawn_exec o s h) (by simp [Drawn]) hrun

/-- **No cookie carries over to a different user exactly when any two LOGINs of different users, one in
each process, draw values that differ modulo the length of the charset.** -/
theorem noCarryOver_iff {rand : Nat → Nat} {db db' : Database} {n n' : Nat}
    {events events' : List (PoolEvent ProcessJob)} {earlier later : Pool process Process NodeMessage}
    (hearlier : run (processStep rand) (processStart db n) events = some earlier)
    (hlater : run (processStep rand) (processStart db' n') events' = some later) :
    NoCarryOver earlier.shared.issued later.shared.issued ↔
      ∀ e ∈ earlier.shared.issued, ∀ e' ∈ later.shared.issued, rstrip e.user ≠ rstrip e'.user →
        ∃ i : Fin COOKIE_LEN,
          rand e'.places[i] % charset.length ≠ rand e.places[i] % charset.length := by
  have htext : ∀ e ∈ earlier.shared.issued, ∀ e' ∈ later.shared.issued,
      e'.cookie ≠ e.cookie ↔ ∃ i : Fin COOKIE_LEN,
        rand e'.places[i] % charset.length ≠ rand e.places[i] % charset.length := by
    intro e he e' he'
    rw [drawn_run hearlier e he, drawn_run hlater e' he', ne_eq, textAt_eq_iff, not_forall]
  constructor
  · intro h e he e' he' hne
    exact (htext e he e' he').1 (h e he e' he' hne)
  · intro h e he e' he' hne
    exact (htext e he e' he').2 (h e he e' he' hne)

/-- In particular a cookie carries over where two LOGINs of different users draw theirs after equally many
values. -/
theorem carriesOver_of_placesFrom {rand : Nat → Nat} {db db' : Database} {n n' : Nat}
    {events events' : List (PoolEvent ProcessJob)} {earlier later : Pool process Process NodeMessage}
    (hearlier : run (processStep rand) (processStart db n) events = some earlier)
    (hlater : run (processStep rand) (processStart db' n') events' = some later)
    {e e' : Issue} (he : e ∈ earlier.shared.issued) (he' : e' ∈ later.shared.issued)
    (hne : rstrip e.user ≠ rstrip e'.user) {d : Nat} (hd : e.places = placesFrom d COOKIE_LEN)
    (hd' : e'.places = placesFrom d COOKIE_LEN) :
    ¬ NoCarryOver earlier.shared.issued later.shared.issued := by
  intro h
  refine h e he e' he' hne ?_
  rw [drawn_run hearlier e he, drawn_run hlater e' he', hd, hd']

/-- Alice registers and logs in. Then the process is started again on its database, and bob does the
same: his cookie comes from the places of hers. -/
theorem not_noCarryOver :
    ¬ ∃ rand : Nat → Nat, ∀ (db : Database) (n n' : Nat) (events events' : List (PoolEvent ProcessJob))
      (earlier later : Pool process Process NodeMessage),
      run (processStep rand) (processStart db n) events = some earlier →
      run (processStep rand) (processStart earlier.shared.state.db n') events' = some later →
      NoCarryOver earlier.shared.issued later.shared.issued := by
  rintro ⟨rand, h⟩
  have halice : GoodOnceRegistered "alice" ⟨Database.empty, SessionControler.empty⟩ := by decide +kernel
  have hbob : GoodOnceRegistered "bob"
      ⟨((Request.register Env.sample "alice" "secret" "request").handle
        ⟨Database.empty, SessionControler.empty⟩).2.db, SessionControler.empty⟩ := by decide +kernel
  obtain ⟨events, earlier, hearlier, hissued, hdb⟩ := exists_run_registerAndLogin rand halice
  rw [← hdb] at hbob
  obtain ⟨events', later, hlater, hissued', -⟩ := exists_run_registerAndLogin rand hbob
  have hcookie := h Database.empty 1 1 events events' earlier later hearlier hlater
  have hfirst : ⟨"alice", placesFrom 20 COOKIE_LEN, cookieAfter rand 10⟩ ∈ earlier.shared.issued := by
    rw [hissued]
    exact List.mem_singleton_self _
  have hsecond : ⟨"bob", placesFrom 20 COOKIE_LEN, cookieAfter rand 10⟩ ∈ later.shared.issued := by
    rw [hissued']
    exact List.mem_singleton_self _
  have hne : rstrip "alice" ≠ rstrip "bob" := by decide
  exact carriesOver_of_placesFrom hearlier hlater hfirst hsecond hne rfl rfl hcookie

/-- Where a third user registers first, bob's cookie comes from other places. -/
theorem noCarryOver_of_register :
    ∃ (events events' : List (PoolEvent ProcessJob)) (earlier later : Pool process Process NodeMessage),
      run (processStep id) (processStart Database.empty 1) events = some earlier ∧
      run (processStep id) (processStart Database.empty 1) events' = some later ∧
      earlier.shared.issued.map (·.user) = ["alice"] ∧ later.shared.issued.map (·.user) = ["bob"] ∧
      NoCarryOver earlier.shared.issued later.shared.issued := by
  have halice : GoodOnceRegistered "alice" ⟨Database.empty, SessionControler.empty⟩ := by decide +kernel
  let carol : State := ((Request.register Env.sample "carol" "secret" "request").handle
    ⟨Database.empty, SessionControler.empty⟩).2
  have hbob : GoodOnceRegistered "bob" carol := by decide +kernel
  obtain ⟨events, earlier, hearlier, hissued, -⟩ := exists_run_registerAndLogin id halice
  obtain ⟨events', hlater⟩ := @Pool.exists_run_jobs _ _ _ _ (execProcess id) drawRequest
    (registerJob "carol" :: registerAndLogin "bob") ⟨⟨Database.empty, SessionControler.empty⟩, 0, []⟩
  have hfirst : Pool.afterJobs (execProcess id) drawRequest
      ⟨⟨Database.empty, SessionControler.empty⟩, 0, []⟩ (registerJob "carol" :: registerAndLogin "bob") =
        Pool.afterJobs (execProcess id) drawRequest ⟨carol, 0 + 10, []⟩ (registerAndLogin "bob") := by
    rw [Pool.afterJobs, List.foldl_cons, run_registerJob]
    rfl
  rw [hfirst, @afterJobs_registerAndLogin id "bob" ⟨carol, 0 + 10, []⟩ hbob] at hlater
  refine ⟨events, events', earlier, _, hearlier, hlater, by rw [hissued]; rfl, rfl, ?_⟩
  refine (noCarryOver_iff hearlier hlater).2 ?_
  rw [hissued]
  intro e he e' he' _
  obtain rfl := List.mem_singleton.1 he
  obtain rfl := List.mem_singleton.1 he'
  refine ⟨⟨0, by decide⟩, ?_⟩
  rw [placesFrom_get, placesFrom_get]
  decide +kernel

end Sp2p.Tracker
