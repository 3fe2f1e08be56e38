import Sp2p.Tracker.Gate
import Sp2p.Tracker.Restart

/-!
# Cookies

What a cookie is good for. LOGIN writes the string it is given over whatever session that string had,
so no session is captured exactly when the string is not a live cookie (`login_captures_iff`).

A cookie should then work until it is given up, by a LOGOUT or a REMOVE_USER that carries it. Requests
are served by the threads of the pool, so this is about runs of a `Pool`: a thread that has answered a
LOGIN, and what the others do from then on. `getLogin` says with the empty string that a cookie is
dead, and every handler but LOGOUT takes it so; the cookie works exactly when the username is another
(`works_iff`).
-/

namespace Sp2p.Tracker

open Interleaving Runs Protocol NodeMessageFactory

/-! ### The string a LOGIN is given -/

/-- Every session is as it was, and the cookie that was given out is new. -/
structure CapturesNone (sc : SessionControler) (cookie : String) (sc' : SessionControler) : Prop where
  kept : ∀ c l, sc.loginOf c = some l → sc'.loginOf c = some l
  fresh : ¬ sc.isLogged cookie

/-- **A login captures no session exactly when the string it draws is not a live cookie; in any case it
leaves the sessions of all other cookies, and the string is the new user's from then on.** -/
theorem login_captures_iff (sc : SessionControler) (login currCookie : String) (now : Int) :
    (CapturesNone sc currCookie (sc.login login currCookie now) ↔ ¬ sc.isLogged currCookie) ∧
      (∀ c, c ≠ currCookie → (sc.login login currCookie now).loginOf c = sc.loginOf c) ∧
      (sc.login login currCookie now).loginOf currCookie = some login := by
  have hother : ∀ c, c ≠ currCookie →
      (sc.login login currCookie now).loginOf c = sc.loginOf c := by
    intro c hc
    rw [SessionControler.loginOf_login, if_neg hc.symm]
  refine ⟨⟨CapturesNone.fresh, fun hfresh => ⟨fun c l hl => ?_, hfresh⟩⟩, hother, ?_⟩
  · by_cases hc : c = currCookie
    · rw [hc] at hl
      exact absurd (SessionControler.isLogged_iff.2 ⟨l, hl⟩) hfresh
    · rw [hother c hc, hl]
  · rw [SessionControler.loginOf_login, if_pos rfl]

/-- A cookie that the generator can return. -/
def zeros : String := "000000000000000"

theorem zeros_eq_textAt (places : Vector Nat COOKIE_LEN) : textAt (fun _ => 0) places = zeros := by
  have hall : ∀ place ∈ places.toList, randchar ((fun _ => 0) place) = '0' := by
    intro place _
    exact (by decide : randchar 0 = '0')
  rw [textAt, List.map_congr_left hall, List.map_const', Vector.length_toList]
  decide

/-- Alice's cookie is drawn again for bob, and is his from then on. -/
theorem login_captures_alice :
    (SessionControler.empty.login "alice" zeros 0).loginOf zeros = some "alice" ∧
      ((SessionControler.empty.login "alice" zeros 0).login "bob" zeros 1).loginOf zeros =
        some "bob" ∧
      ¬ CapturesNone (SessionControler.empty.login "alice" zeros 0) zeros
        ((SessionControler.empty.login "alice" zeros 0).login "bob" zeros 1) := by
  have halice : (SessionControler.empty.login "alice" zeros 0).loginOf zeros = some "alice" := by
    rw [SessionControler.loginOf_login, if_pos rfl]
  refine ⟨halice, ?_, fun h => h.fresh (SessionControler.isLogged_iff.2 ⟨_, halice⟩)⟩
  rw [SessionControler.loginOf_login, if_pos rfl]

/-! ### The calls about a session -/

/-- The call begins no session with the cookie and ends none. -/
def Spares (c : String) : Call → Prop
  | .login _ cookie _ => cookie ≠ c
  | .logout cookie => cookie ≠ c
  | _ => True

theorem SessionFree.spares (c : String) {o : Call} (h : SessionFree o) : Spares c o := by
  cases o with
  | login => exact h.elim
  | logout => exact h.elim
  | _ => trivial

/-- The session of the cookie stays as it is. -/
theorem loginOf_exec {c : String} {o : Call} (h : Spares c o) (s : State) :
    (exec o s).2.sessions.loginOf c = s.sessions.loginOf c := by
  cases o with
  | login l cookie now =>
    show (s.sessions.login l cookie now).loginOf c = _
    rw [SessionControler.loginOf_login, if_neg h]
  | logout cookie =>
    show (s.sessions.logout cookie).2.loginOf c = _
    rw [SessionControler.loginOf_logout, if_neg h]
  | getLogin | userExists | getPassHash | getUserInfo | getAllNetworks | getUserNetworks
  | networkExists | canSeeNetwork | canAddServer | getServers => rfl
  | _ => exact congrArg (SessionControler.loginOf · c) (write_sessions s _ _)

theorem Gated.all {c : String} {cookie : Option String} {h : Handler} (hg : Gated (Spares c) cookie h) :
    h.All (Spares c) := by
  cases hg with
  | absent => trivial
  | behind _ hk => exact ⟨trivial, fun login => all_ite trivial (hk login).calls⟩

/-! ### The pool -/

/-- The threads serve requests at the same time. -/
def trackerStep (pool : Pool shared State NodeMessage) (e : PoolEvent Request) :
    Option (Pool shared State NodeMessage) :=
  pool.step exec (fun r : Request => handleRequest r.env r.message) e

/-- The request gives the cookie up. -/
def GivesUp (c : String) (r : Request) : Prop :=
  (r.message.requestType = .logout ∨ r.message.requestType = .removeUser) ∧ r.message.cookie = some c

/-- The request is a LOGIN, and the generator has this cookie for it. -/
def Draws (c : String) (r : Request) : Prop :=
  r.message.requestType = .login ∧ r.env.randomString = c

/-- No request is taken up that gives the cookie up or draws it again. -/
def LeavesAlone (c : String) (e : PoolEvent Request) : Prop :=
  ∀ i r, e = .serve i r → ¬ Draws c r ∧ ¬ GivesUp c r

/-- The thread takes up no request. -/
def NotServedBy (i : Nat) (e : PoolEvent Request) : Prop := ∀ r, e ≠ .serve i r

theorem leavesAlone_step (c : String) (i j : Nat) :
    LeavesAlone c (.step j) ∧ NotServedBy i (.step j) := by
  refine ⟨fun _ _ he => ?_, fun _ he => ?_⟩
  · cases he
  · cases he

/-- **The cookie works**: whatever is served in between, a request that comes with it later, while it
has not been given up, is not answered `NOT_LOGGED`. It may itself give the cookie up. -/
def Works (c : String) (pool : Pool shared State NodeMessage) : Prop :=
  ∀ since j r later pool' reply, (∀ e ∈ since, LeavesAlone c e) →
    (∀ e ∈ later, LeavesAlone c e ∧ NotServedBy j e) → r.message.cookie = some c →
    run trackerStep pool (since ++ .serve j r :: later) = some pool' →
    pool'.reply j = some reply → Admitted reply

variable {c u : String} {r : Request} {pool pool' : Pool shared State NodeMessage}

theorem register_sessionFree (env : Env) (m : ClientMessage) : (handleRegister env m).All SessionFree := by
  unfold handleRegister
  split
  · refine ⟨trivial, fun r => ?_⟩
    cases r with
    | ok => exact all_ite trivial trivial
    | _ => trivial
  · trivial

theorem login_spares {env : Env} {m : ClientMessage} (h : env.randomString ≠ c) :
    (handleLogin env m).All (Spares c) := by
  unfold handleLogin
  split
  · exact all_bind ⟨trivial, fun _ => trivial⟩ fun _ => all_ite trivial ⟨h, fun _ => trivial⟩
  · trivial

theorem logout_spares {m : ClientMessage} (hm : m.requestType = .logout) (h : m.cookie ≠ some c) :
    (handleLogout m).All (Spares c) := by
  unfold handleLogout
  split
  · rename_i cookie hsub
    refine ⟨fun hc => h ?_, fun _ => trivial⟩
    rw [← hc]
    simp [ClientMessage.cookie, hm, hsub]
  · trivial

/-- A request that neither draws the cookie nor gives it up leaves its session alone. -/
theorem handleRequest_spares (hdraw : ¬ Draws c r) (hgive : ¬ GivesUp c r) :
    (handleRequest r.env r.message).All (Spares c) := by
  by_cases hlogin : r.message.requestType = .login
  · simp only [handleRequest, hlogin]
    exact login_spares fun h => hdraw ⟨hlogin, h⟩
  by_cases hlogout : r.message.requestType = .logout
  · simp only [handleRequest, hlogout]
    exact logout_spares hlogout fun h => hgive ⟨.inl hlogout, h⟩
  by_cases hregister : r.message.requestType = .register
  · simp only [handleRequest, hregister]
    exact all_imp (fun _ h => h.spares c) (register_sessionFree _ _)
  have hgated : Gated (Spares c) r.message.cookie (handleRequest r.env r.message) := by
    apply gated_handleRequest (fun _ h => h.spares c) r.initialized hregister hlogin hlogout
    intro hremove c' hc' hcc
    exact hgive ⟨.inr hremove, hcc ▸ hc'⟩
  exact hgated.all

/-- Behind the lookup of a live cookie the request is admitted. -/
theorem Gated.admits {P : Call → Prop} {h : Handler} (hg : Gated P (some c) h) (hu : u ≠ "") :
    ∃ o k, h = .call o k ∧
      ∀ s : State, s.sessions.loginOf c = some u → (k (exec o s).1).Returns Admitted := by
  cases hg with
  | absent _ hc => cases hc
  | @behind c' k hc hk =>
    obtain rfl := Option.some_inj.1 hc
    refine ⟨.getLogin c, _, rfl, fun s hlive => ?_⟩
    have hlogin : (exec (.getLogin c) s).1 = u := by
      show s.sessions.getLogin c = u
      rw [SessionControler.getLogin, hlive]
      rfl
    rw [hlogin]
    show Prog.Returns Admitted (if u = "" then _ else k u)
    rw [if_neg hu]
    exact (hk u).returns

/-- A LOGOUT with a live cookie finds it. -/
theorem handleLogout_admits {m : ClientMessage} {cookie : String}
    (hsub : m.logoutMessage = some ⟨some cookie⟩) :
    ∃ o k, handleLogout m = .call o k ∧
      ∀ s : State, s.sessions.loginOf cookie = some u → (k (exec o s).1).Returns Admitted := by
  refine ⟨.logout cookie, fun done => .ret (errorMesage (if done then .ok else .notLogged)), ?_, ?_⟩
  · unfold handleLogout
    rw [hsub]
    rfl
  · intro s hlive
    have hdone : (exec (.logout cookie) s).1 = true := by
      show (s.sessions.logout cookie).1 = true
      rw [SessionControler.logout_fst]
      exact decide_eq_true (SessionControler.isLogged_iff.2 ⟨u, hlive⟩)
    rw [hdone]
    exact (tame_status (by decide) : Tame (fun _ => True) _).returns

/-- A request with a live cookie looks it up first, and is admitted. -/
theorem handleRequest_admits (hc : r.message.cookie = some c) (hu : u ≠ "") :
    ∃ o k, handleRequest r.env r.message = .call o k ∧
      ∀ s : State, s.sessions.loginOf c = some u → (k (exec o s).1).Returns Admitted := by
  by_cases hlogout : r.message.requestType = .logout
  · have hinit := r.initialized
    simp only [ClientMessage.isInitialized, Bool.and_eq_true] at hinit
    have hcookie : r.message.logoutMessage.all (·.cookie.isSome) = true := by tauto
    simp only [ClientMessage.cookie, hlogout] at hc
    obtain ⟨⟨_ | cookie⟩, hsub, rfl⟩ := Option.map_eq_some_iff.1 hc
    · rw [hsub] at hcookie
      cases hcookie
    · simp only [handleRequest, hlogout]
      exact handleLogout_admits hsub
  · have hne : r.message.requestType ≠ .register ∧ r.message.requestType ≠ .login := by
      refine ⟨fun h => ?_, fun h => ?_⟩
      · simp [ClientMessage.cookie, h] at hc
      · simp [ClientMessage.cookie, h] at hc
    have hgated : Gated (fun _ => True) r.message.cookie (handleRequest r.env r.message) :=
      gated_handleRequest (fun _ _ => trivial) r.initialized hne.1 hne.2 hlogout fun _ _ _ => trivial
    rw [hc] at hgated
    exact hgated.admits hu

/-! ### From the LOGIN on -/

/-- The program has not logged the user in yet; until it has, it does not say so. -/
def Pending (c u : String) : Handler → Prop
  | .ret a => a ≠ loginResponse c "notimplementedyet"
  | .call o k => (∃ now, o = .login u c now) ∧ (∀ a, (k a).All (Spares c)) ∨
    Spares c o ∧ ∀ a, Pending c u (k a)

theorem pending_login (hm : r.message.requestType = .login)
    (hname : r.message.loginMessage.bind (·.username) = some u) :
    Pending c u (handleRequest r.env r.message) := by
  have hrefused : ∀ t, t ≠ .ok → Pending c u (pure (errorMesage t)) := by
    intro t ht hreply
    apply ht
    rw [← isOk_errorMesage t, hreply]
    rfl
  simp only [handleRequest, hm]
  unfold handleLogin
  rcases hsub : r.message.loginMessage with _ | ⟨_ | login, _ | pass⟩
  · exact hrefused _ (by decide)
  · exact hrefused _ (by decide)
  · exact hrefused _ (by decide)
  · exact hrefused _ (by decide)
  · obtain rfl : login = u := by simpa [hsub] using hname
    refine .inr ⟨trivial, fun hash => ?_⟩
    show Pending c login (if r.env.checkBcrypt pass hash = false then _ else _)
    split
    · exact hrefused _ (by decide)
    · by_cases hdraw : r.env.randomString = c
      · rw [hdraw]
        exact .inl ⟨⟨_, rfl⟩, fun _ => trivial⟩
      · refine .inr ⟨hdraw, fun _ hreply => hdraw ?_⟩
        have hcookie := congrArg (fun m => m.loginResponse.bind (·.cookie)) hreply
        exact Option.some_inj.1 hcookie

/-- What is known of the thread with the LOGIN, while the others leave the cookie alone. -/
def LoggingIn (c u : String) (w : Option Handler) (s : State) : Prop :=
  ∀ p, w = some p → Pending c u p ∨ s.sessions.loginOf c = some u ∧ p.All (Spares c)

theorem keptBy_loggingIn : Pool.KeptBy exec (Spares c) (LoggingIn c u) where
  other o s w ho h p hp := by
    rw [loginOf_exec ho]
    exact h p hp
  call o k s h p hp := by
    obtain rfl := Option.some_inj.1 hp
    rcases h _ rfl with (⟨⟨now, rfl⟩, hk⟩ | ⟨-, hk⟩) | ⟨hlive, ho, hk⟩
    · refine .inr ⟨?_, hk _⟩
      show (s.sessions.login u c now).loginOf c = some u
      rw [SessionControler.loginOf_login, if_pos rfl]
    · exact .inl (hk _)
    · exact .inr ⟨(loginOf_exec ho s).trans hlive, hk _⟩
  done a s _ p hp := by cases hp

/-- What is known of a thread with a request that came with the live cookie. -/
def Admitting (c u : String) (r : Request) (w : Option Handler) (s : State) : Prop :=
  ∀ p, w = some p →
    p = handleRequest r.env r.message ∧ s.sessions.loginOf c = some u ∨ p.Returns Admitted

theorem keptBy_admitting (hc : r.message.cookie = some c) (hu : u ≠ "") :
    Pool.KeptBy exec (Spares c) (Admitting c u r) where
  other o s w ho h p hp := by
    rw [loginOf_exec ho]
    exact h p hp
  call o k s h p hp := by
    obtain rfl := Option.some_inj.1 hp
    right
    rcases h _ rfl with ⟨hstart, hlive⟩ | hreturns
    · obtain ⟨o', k', hcall, hadmit⟩ := handleRequest_admits hc hu
      rw [hcall] at hstart
      cases hstart
      exact hadmit s hlive
    · exact hreturns _
  done a s _ p hp := by cases hp

/-- The session of the cookie is live, and no thread is about to end it or begin another. -/
abbrev Live (c u : String) (pool : Pool shared State NodeMessage) : Prop :=
  pool.Within (Spares c) fun s => s.sessions.loginOf c = some u

theorem jobsWithin {e : PoolEvent Request} (h : LeavesAlone c e) :
    Pool.JobsWithin (Spares c) (fun r : Request => handleRequest r.env r.message) e :=
  fun i r he => handleRequest_spares (h i r he).1 (h i r he).2

theorem othersWithin {i : Nat} {e : PoolEvent Request} (h : LeavesAlone c e) (hi : NotServedBy i e) :
    Pool.OthersWithin (Spares c) (fun r : Request => handleRequest r.env r.message) i e :=
  fun j r he => ⟨fun hji => hi r (hji ▸ he), handleRequest_spares (h j r he).1 (h j r he).2⟩

/-- When the LOGIN is answered, the session is live. -/
theorem live_of_answered {i : Nat} {answered : List (PoolEvent Request)}
    (hidle : ∀ p, some p ∈ pool.workers → p.All (Spares c)) (hm : r.message.requestType = .login)
    (hname : r.message.loginMessage.bind (·.username) = some u)
    (hothers : ∀ e ∈ answered, LeavesAlone c e ∧ NotServedBy i e)
    (hrun : run trackerStep pool (.serve i r :: answered) = some pool')
    (hreply : pool'.reply i = some (loginResponse c "notimplementedyet")) : Live c u pool' := by
  obtain ⟨served, hserve, hrest⟩ := Option.bind_eq_some_iff.1 hrun
  have hwithin : pool.Within (Spares c) fun _ => True := ⟨hidle, trivial⟩
  have hserved : Pool.Watched (Spares c) (LoggingIn c u) i served := by
    apply hwithin.watched hserve
    intro _ p hp
    rw [← Option.some_inj.1 hp]
    exact .inl (pending_login hm hname)
  have hwatched : Pool.Watched (Spares c) (LoggingIn c u) i pool' :=
    hserved.run keptBy_loggingIn (fun e he => othersWithin (hothers e he).1 (hothers e he).2) hrest
  rw [Pool.reply_eq_some] at hreply
  have hlive : pool'.shared.sessions.loginOf c = some u := by
    rcases hwatched.own _ hreply _ rfl with hpending | ⟨hlive, -⟩
    · exact absurd rfl hpending
    · exact hlive
  refine ⟨fun p hp => ?_, hlive⟩
  obtain ⟨j, hj⟩ := List.getElem?_of_mem hp
  by_cases hji : j = i
  · rw [hji, hreply] at hj
    rw [← Option.some_inj.1 (Option.some_inj.1 hj)]
    trivial
  · exact hwatched.others j p hji hj

theorem Live.works (hlive : Live c u pool) (hu : u ≠ "") : Works c pool := by
  intro since j r later pool' reply hsince hlater hc hrun hreply
  rw [run_append] at hrun
  obtain ⟨mid, hmid, hrest⟩ := Option.bind_eq_some_iff.1 hrun
  obtain ⟨served, hserve, hlate⟩ := Option.bind_eq_some_iff.1 hrest
  have hmid : Live c u mid :=
    hlive.run (fun o s ho h => (loginOf_exec ho s).trans h) (fun e he => jobsWithin (hsince e he)) hmid
  have hserved : Pool.Watched (Spares c) (Admitting c u r) j served := by
    apply hmid.watched hserve
    intro h p hp
    exact .inl ⟨(Option.some_inj.1 hp).symm, h⟩
  have hwatched : Pool.Watched (Spares c) (Admitting c u r) j pool' :=
    hserved.run (keptBy_admitting hc hu)
      (fun e he => othersWithin (hlater e he).1 (hlater e he).2) hlate
  rw [Pool.reply_eq_some] at hreply
  rcases hwatched.own _ hreply _ rfl with ⟨hstart, -⟩ | hadmitted
  · obtain ⟨o, k, hcall, -⟩ := handleRequest_admits hc hu
    rw [hcall] at hstart
    cases hstart
  · exact hadmitted

/-- The empty username is taken for a dead cookie: the thread that answered the LOGIN may as well serve
a LIST_NETWORKS next. -/
theorem not_works_empty (hlive : Live c "" pool) {i : Nat} {reply : NodeMessage}
    (hreply : pool.reply i = some reply) : ¬ Works c pool := by
  intro hworks
  rw [Pool.reply_eq_some] at hreply
  obtain ⟨hi, -⟩ := List.getElem?_eq_some_iff.1 hreply
  let r : Request := .listNetworks Env.sample c
  have hleaves : ∀ e ∈ [PoolEvent.step i], LeavesAlone c e ∧ NotServedBy i e := by
    intro e he
    rw [List.mem_singleton.1 he]
    exact leavesAlone_step c i i
  have hdead : (exec (.getLogin c) pool.shared).1 = "" := by
    show pool.shared.sessions.getLogin c = ""
    rw [SessionControler.getLogin, hlive.shared]
    rfl
  -- the thread is done with the LOGIN, takes up the LIST_NETWORKS, and looks the session up
  let idle : Pool shared State NodeMessage := ⟨pool.shared, pool.workers.set i none⟩
  let busy : Pool shared State NodeMessage :=
    ⟨pool.shared, idle.workers.set i (some (handleRequest r.env r.message))⟩
  let refused : Pool shared State NodeMessage :=
    ⟨pool.shared, busy.workers.set i (some (pure (errorMesage .notLogged)))⟩
  have hidle : trackerStep pool (.step i) = some idle := Pool.step_of_steps (.done hreply)
  have hbusy : trackerStep idle (.serve i r) = some busy :=
    Pool.step_of_steps (.serve (List.getElem?_set_self hi))
  have hcall : busy.workers[i]? = some (some (handleRequest r.env r.message)) :=
    List.getElem?_set_self (by simpa [idle] using hi)
  have hrefused : trackerStep busy (.step i) = some refused := by
    have hstep := Pool.step_of_steps (Pool.Steps.call hcall : Pool.Steps exec
      (fun r : Request => handleRequest r.env r.message) busy (.step i) _)
    rw [trackerStep, hstep]
    show some (Pool.mk pool.shared (busy.workers.set i
      (some (if (exec (.getLogin c) pool.shared).1 = "" then _ else _)))) = _
    rw [if_pos hdead]
  have hrun : run trackerStep pool ([.step i] ++ .serve i r :: [.step i]) = some refused := by
    rw [run_append, run_cons, hidle, Option.bind_some, run_nil, Option.bind_some, run_cons, hbusy,
      Option.bind_some, run_cons, hrefused, Option.bind_some, run_nil]
  have hlast : refused.reply i = some (errorMesage .notLogged) :=
    Pool.reply_eq_some.2 (List.getElem?_set_self (by simpa [idle, busy] using hi))
  have hadmitted := hworks [.step i] i r [.step i] refused _ (fun e he => (hleaves e he).1) hleaves rfl
    hrun hlast
  exact hadmitted rfl

/-- **A cookie that was issued works until it is given up exactly when the username is not empty.** -/
theorem works_iff {i : Nat} {answered : List (PoolEvent Request)}
    (hidle : ∀ p, some p ∈ pool.workers → p.All (Spares c)) (hm : r.message.requestType = .login)
    (hname : r.message.loginMessage.bind (·.username) = some u)
    (hothers : ∀ e ∈ answered, LeavesAlone c e ∧ NotServedBy i e)
    (hrun : run trackerStep pool (.serve i r :: answered) = some pool')
    (hreply : pool'.reply i = some (loginResponse c "notimplementedyet")) :
    Works c pool' ↔ u ≠ "" := by
  have hlive := live_of_answered hidle hm hname hothers hrun hreply
  constructor
  · rintro hworks rfl
    exact not_works_empty hlive hreply hworks
  · exact hlive.works

/-- The generator has this cookie for the LOGINs. -/
def zerosEnv : Env := { Env.sample with randomString := zeros }

/-- One thread, and a registered user. -/
def registered (user : String) : Pool shared State NodeMessage :=
  Pool.start (after [.register zerosEnv user "secret" "request"]) 1

/-- The thread serves the LOGIN of the user. -/
def loginEvents (user : String) : List (PoolEvent Request) :=
  [.serve 0 (.login zerosEnv user "secret"), .step 0, .step 0]

/-- Bob's cookie works. -/
theorem works_bob :
    ∃ pool, run trackerStep (registered "bob") (loginEvents "bob") = some pool ∧
      pool.reply 0 = some (loginResponse zeros "notimplementedyet") ∧ Works zeros pool := by
  have hanswer : (run trackerStep (registered "bob") (loginEvents "bob")).bind (·.reply 0) =
      some (loginResponse zeros "notimplementedyet") := by
    decide +kernel
  obtain ⟨pool, hrun, hreply⟩ := Option.bind_eq_some_iff.1 hanswer
  refine ⟨pool, hrun, hreply, ?_⟩
  apply (works_iff (fun p hp => ?_) rfl rfl (fun e he => ?_) hrun hreply).2 (by decide)
  · cases List.eq_of_mem_replicate hp
  · obtain rfl : e = .step 0 := by simpa using he
    exact leavesAlone_step zeros 0 0

/-- The empty username is registered and logs in, and the next request with its cookie is refused. -/
theorem empty_username_not_logged :
    ((Request.register zerosEnv "" "secret" "request").handle State.empty).1.isOk ∧
      (run trackerStep (registered "") (loginEvents "")).bind (·.reply 0) =
        some (loginResponse zeros "notimplementedyet") ∧
      (run trackerStep (registered "") (loginEvents "" ++
        [.step 0, .serve 0 (.listNetworks zerosEnv zeros), .step 0])).bind (·.reply 0) =
        some (errorMesage .notLogged) ∧
      ∀ pool, run trackerStep (registered "") (loginEvents "") = some pool → ¬ Works zeros pool := by
  obtain ⟨hregister, hlogin, hlist⟩ :
      ((Request.register zerosEnv "" "secret" "request").handle State.empty).1.isOk ∧
      (run trackerStep (registered "") (loginEvents "")).bind (·.reply 0) =
        some (loginResponse zeros "notimplementedyet") ∧
      (run trackerStep (registered "") (loginEvents "" ++
        [.step 0, .serve 0 (.listNetworks zerosEnv zeros), .step 0])).bind (·.reply 0) =
        some (errorMesage .notLogged) := by
    decide +kernel
  refine ⟨hregister, hlogin, hlist, fun pool hrun hworks => ?_⟩
  obtain ⟨pool', hrun', hreply⟩ := Option.bind_eq_some_iff.1 hlist
  rw [run_append, hrun] at hrun'
  refine hworks [.step 0] 0 _ [.step 0] pool' _ ?_ ?_ rfl hrun' hreply rfl
  · intro e he
    rw [List.mem_singleton.1 he]
    exact (leavesAlone_step zeros 0 0).1
  · intro e he
    rw [List.mem_singleton.1 he]
    exact leavesAlone_step zeros 0 0

end Sp2p.Tracker
