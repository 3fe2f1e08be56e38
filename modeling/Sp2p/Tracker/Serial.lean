import Sp2p.Tracker.Conflict
import Sp2p.Tracker.Run

/-!
# Requests on several threads

Pool threads serve requests at the same time, and nothing is locked over more than one call. Where
the calls of two requests that conflict are made in one order, the requests are served as in that
order (`interleaved_serial`). A handler that checks in one call and acts in a later one can have a
conflicting call of the other request between the two: `two_changePasswords`.

Half of the requests make one database call. Any two of these are serializable, whatever the
schedule, unless one issues or ends the other's session (`serializable_of_oneDbCall`).
-/

namespace Sp2p.Tracker

open Interleaving Protocol

/-- **If every call of one request that conflicts with a call of the other comes before it, the
requests are served as in that order.** -/
theorem interleaved_serial (env env' : Env) (m m' : ClientMessage) (s : State) (w : List Bool)
    (r : NodeMessage × NodeMessage × State)
    (h : interleave exec w (handleRequest env m) (handleRequest env' m') s = some r) :
    (After Conflict false (trace exec w (handleRequest env m) (handleRequest env' m') s) →
      r = (((handleRequest env m).run exec s).1,
        (handleRequest env' m').run exec ((handleRequest env m).run exec s).2)) ∧
    (After Conflict true (trace exec w (handleRequest env m) (handleRequest env' m') s) →
      r = (((handleRequest env m).run exec ((handleRequest env' m').run exec s).2).1,
        ((handleRequest env' m').run exec s).1,
        ((handleRequest env m).run exec ((handleRequest env' m').run exec s).2).2)) :=
  ⟨fun hafter => (left_first exec commute_of_not_conflict h hafter).1,
    right_first exec commute_of_not_conflict h⟩

/-- Alice has registered and logged in. -/
def aliceLoggedIn : State :=
  after [.register Env.sample "alice" "secret" "request", .login Env.sample "alice" "secret"]

/-- Alice lists the networks and logs out on two threads, and the LOGOUT is between the two calls of
the LIST_NETWORKS: its session is looked up before, the table is read after. -/
theorem interleaved_serial_logout :
    let listing := handleRequest Env.sample (Request.listNetworks Env.sample "c00kie").message
    let ending := handleRequest Env.sample
      { request := some .logout, logoutMessage := some ⟨some "c00kie"⟩ }
    interleave exec [true, false, true] listing ending aliceLoggedIn =
      some ((listing.run exec aliceLoggedIn).1,
        ending.run exec (listing.run exec aliceLoggedIn).2) := by
  intro listing ending
  obtain ⟨r, hr⟩ := Option.isSome_iff_exists.1
    (by decide : (interleave exec [true, false, true] listing ending aliceLoggedIn).isSome = true)
  rw [hr, (interleaved_serial Env.sample Env.sample _ _ aliceLoggedIn [true, false, true] r hr).1
    (by unfold After; decide)]

/-! ### Two changes of one password -/

def changeTo (newPassword : String) : Handler :=
  handleRequest Env.sample (Request.changePassword Env.sample "c00kie" "secret" newPassword).message

/-- Both changes check the old password before either sets a new one, and both are answered `OK`. -/
theorem two_changePasswords :
    ¬ Serializable exec (changeTo "first") (changeTo "second") aliceLoggedIn := by
  intro h
  have hrun : (interleave exec [true, false, true, false, true, false] (changeTo "first")
      (changeTo "second") aliceLoggedIn).map (fun r => (r.1, r.2.1)) =
      some (NodeMessageFactory.errorMesage .ok, NodeMessageFactory.errorMesage .ok) := by
    decide
  have hsecond : ((changeTo "second").run exec ((changeTo "first").run exec aliceLoggedIn).2).1 =
      NodeMessageFactory.errorMesage .badCredentials := by decide
  have hfirst : ((changeTo "first").run exec ((changeTo "second").run exec aliceLoggedIn).2).1 =
      NodeMessageFactory.errorMesage .badCredentials := by decide
  obtain ⟨r, hr, hans⟩ := Option.map_eq_some_iff.1 hrun
  rcases h _ r hr with rfl | rfl
  · exact absurd (hsecond.symm.trans (Prod.mk.inj hans).2) (by decide)
  · exact absurd (hfirst.symm.trans (Prod.mk.inj hans).1) (by decide)

/-! ### Requests with one database call -/

/-- The cookie a request presents, or that it is issued. -/
def sessionCookie (env : Env) (m : ClientMessage) : Option String :=
  if m.requestType = .login then some env.randomString else m.cookie

/-- All that a call reads or writes. -/
def Call.footprint (c : Call) : List View := c.reads ++ c.writes

/-- A call of the session store is for this cookie. -/
def UsesCookie (cookie : Option String) (c : Call) : Prop :=
  ∀ k, View.session k ∈ c.footprint → cookie = some k

/-- A call of the database connector. -/
def IsDbCall (c : Call) : Prop := ∀ k, View.session k ∉ c.footprint

def View.isSession : View → Bool
  | .session _ => true
  | _ => false

theorem isDbCall_of {c : Call} (h : (c.footprint.all fun v => !v.isSession) = true) : IsDbCall c :=
  fun k hk => by simpa [View.isSession] using List.all_eq_true.1 h (.session k) hk

/-- The kinds of requests whose handlers make one database call, or none. -/
def OneDbCall : RequestType → Prop
  | .register | .unregister | .login | .logout | .listNetworks | .listMyNetworks | .removeUser
  | .signKey => True
  | _ => False

/-- A session is the only thing a call of the session store looks at. -/
theorem eq_session {c : Call} {k : String} (hk : View.session k ∈ c.footprint) {v : View}
    (hv : v ∈ c.footprint) : v = .session k := by
  cases c <;> simp_all [Call.footprint, Call.reads, Call.writes]

/-- What conflicts with a call of the session store is another one, for the same cookie. -/
theorem session_of_conflict {c d : Call} (h : Conflict c d ∨ Conflict d c) {k : String}
    (hk : View.session k ∈ c.footprint) : View.session k ∈ d.footprint := by
  have hmeet : (∃ v ∈ c.footprint, d.alters v) ∨ ∃ v ∈ d.footprint, c.alters v := by
    rcases h with (⟨v, hv, hd⟩ | ⟨v, hv, hc⟩) | (⟨v, hv, hc⟩ | ⟨v, hv, hd⟩)
    · exact .inl ⟨v, hv, hd⟩
    · exact .inr ⟨v, List.mem_append_left _ hv, hc⟩
    · exact .inr ⟨v, hv, hc⟩
    · exact .inl ⟨v, List.mem_append_left _ hv, hd⟩
  rcases hmeet with ⟨v, hv, hd⟩ | ⟨v, hv, hc⟩
  · obtain rfl := eq_session hk hv
    obtain ⟨w, hw, hmeets⟩ := List.any_eq_true.1 hd
    obtain rfl := eq_of_meets (v := .session k) rfl (by simp) hmeets
    exact List.mem_append_right _ hw
  · obtain ⟨w, hw, hmeets⟩ := List.any_eq_true.1 hc
    obtain rfl := eq_session hk (List.mem_append_right _ hw)
    have hvk : v = .session k := by
      cases v <;> simp_all [View.meets]
    exact hvk ▸ hv

/-- With different cookies only the database calls of two requests can conflict. -/
theorem isDbCall_of_conflict {k k' : Option String} (hne : ∀ c, k = some c → k' ≠ some c) {c d : Call}
    (hc : UsesCookie k c) (hd : UsesCookie k' d) (h : Conflict c d ∨ Conflict d c) :
    IsDbCall c ∧ IsDbCall d := by
  refine ⟨fun x hx => ?_, fun x hx => ?_⟩
  · exact hne x (hc x hx) (hd x (session_of_conflict h hx))
  · exact hne x (hc x (session_of_conflict h.symm hx)) (hd x hx)

variable {env : Env} {m : ClientMessage}

/-- A handler that looks the session up and then makes one more call at most. -/
def SingleCall (cookie : Option String) (h : Handler) : Prop :=
  h.All (UsesCookie cookie) ∧ h.AtMostOne IsDbCall

theorem singleCall_pure {cookie : Option String} (r : NodeMessage) : SingleCall cookie (pure r) :=
  ⟨trivial, trivial⟩

/-- A call of the session store costs nothing. -/
theorem singleCall_session {cookie : String} {c : Call} (hc : c.footprint = [.session cookie])
    {k : c.Ans → Handler} (hk : ∀ r, SingleCall (some cookie) (k r)) :
    SingleCall (some cookie) (callShared c >>= k) := by
  have huses : UsesCookie (some cookie) c := by simp [UsesCookie, hc]
  have hdb : ¬ IsDbCall c := by simp [IsDbCall, hc]
  exact ⟨all_op_bind.2 ⟨huses, fun r => (hk r).1⟩,
    atMostOne_op_bind.2 fun r => ⟨(hk r).2, fun h => absurd h hdb⟩⟩

/-- The one call of the database, with nothing but calls of the session store behind it. -/
theorem singleCall_db {cookie : Option String} {c : Call} (hc : IsDbCall c) {k : c.Ans → Handler}
    (hk : ∀ r, (k r).All (UsesCookie cookie) ∧ (k r).All fun d => ¬ IsDbCall d) :
    SingleCall cookie (callShared c >>= k) :=
  ⟨all_op_bind.2 ⟨fun x hx => absurd hx (hc x), fun r => (hk r).1⟩,
    atMostOne_op_bind.2 fun r => ⟨atMostOne_of_all (hk r).2, fun _ => (hk r).2⟩⟩

theorem singleCall_authenticated {cookie : String} {k : String → Handler}
    (hk : ∀ login, SingleCall (some cookie) (k login)) :
    SingleCall (some cookie) (authenticated cookie k) := by
  refine singleCall_session rfl fun login => ?_
  split
  · exact singleCall_pure _
  · exact hk login

/-- What is behind the database call of a request with one such call: mostly nothing. -/
theorem done (cookie : Option String) (r : NodeMessage) :
    (pure r : Handler).All (UsesCookie cookie) ∧ (pure r : Handler).All fun d => ¬ IsDbCall d :=
  ⟨trivial, trivial⟩

theorem singleCall_register : SingleCall (sessionCookie env m) (handleRegister env m) := by
  unfold handleRegister
  split
  · refine singleCall_db (isDbCall_of rfl) fun r => ?_
    cases r with
    | ok =>
      simp only
      split <;> exact done _ _
    | internalError | notFound | notPermited | notUnique => exact done _ _
  · exact singleCall_pure _

theorem singleCall_unregister (hm : m.requestType = .unregister) :
    SingleCall (sessionCookie env m) (handleUnregister env m) := by
  unfold handleUnregister
  split
  · rename_i cookie hsub
    rw [show sessionCookie env m = some cookie by simp [sessionCookie, ClientMessage.cookie, hm, hsub]]
    exact singleCall_authenticated fun _ => singleCall_db (isDbCall_of rfl) fun _ => done _ _
  · exact singleCall_pure _

theorem singleCall_login (hm : m.requestType = .login) :
    SingleCall (sessionCookie env m) (handleLogin env m) := by
  have hcookie : sessionCookie env m = some env.randomString := if_pos hm
  unfold handleLogin
  split
  · rename_i login pass _
    rw [hcookie]
    refine singleCall_db (c := .getPassHash (env.fault 0) login) (isDbCall_of rfl) fun hash => ?_
    refine ⟨all_ite trivial (all_op_bind.2 ⟨?_, fun _ => trivial⟩),
      all_ite trivial (all_op_bind.2 ⟨?_, fun _ => trivial⟩)⟩
    · simp [UsesCookie, Call.footprint, Call.reads, Call.writes]
    · simp [IsDbCall, Call.footprint, Call.reads, Call.writes]
  · exact singleCall_pure _

theorem singleCall_logout (hm : m.requestType = .logout) :
    SingleCall (sessionCookie env m) (handleLogout m) := by
  unfold handleLogout
  split
  · rename_i cookie hsub
    rw [show sessionCookie env m = some cookie by simp [sessionCookie, ClientMessage.cookie, hm, hsub]]
    exact singleCall_session rfl fun _ => singleCall_pure _
  · exact singleCall_pure _

theorem singleCall_listNetworks (hm : m.requestType = .listNetworks) :
    SingleCall (sessionCookie env m) (handleListNetworks env m) := by
  unfold handleListNetworks
  split
  · rename_i cookie hsub
    rw [show sessionCookie env m = some cookie by simp [sessionCookie, ClientMessage.cookie, hm, hsub]]
    exact singleCall_authenticated fun _ => singleCall_db (isDbCall_of rfl) fun _ => done _ _
  · exact singleCall_pure _

theorem singleCall_listMyNetworks (hm : m.requestType = .listMyNetworks) :
    SingleCall (sessionCookie env m) (handleListMyNetworks env m) := by
  unfold handleListMyNetworks
  split
  · rename_i cookie hsub
    rw [show sessionCookie env m = some cookie by simp [sessionCookie, ClientMessage.cookie, hm, hsub]]
    exact singleCall_authenticated fun _ => singleCall_db (isDbCall_of rfl) fun _ => done _ _
  · exact singleCall_pure _

/-- Behind the removal there is the end of the session. -/
theorem singleCall_removeUser (hm : m.requestType = .removeUser) :
    SingleCall (sessionCookie env m) (handleRemoveUser env m) := by
  unfold handleRemoveUser
  split
  · rename_i sub hsub
    rw [show sessionCookie env m = some (sub.cookie.getD "") by
      simp [sessionCookie, ClientMessage.cookie, hm, hsub]]
    refine singleCall_authenticated fun _ => singleCall_db (isDbCall_of rfl) fun _ => ⟨?_, ?_⟩
    · refine all_op_bind.2 ⟨?_, fun _ => trivial⟩
      simp [UsesCookie, Call.footprint, Call.reads, Call.writes]
    · refine all_op_bind.2 ⟨?_, fun _ => trivial⟩
      simp [IsDbCall, Call.footprint, Call.reads, Call.writes]
  · exact singleCall_pure _

theorem singleCall_signKey (hm : m.requestType = .signKey) :
    SingleCall (sessionCookie env m) (handleSignKey env m) := by
  unfold handleSignKey
  split
  · rename_i sub hsub
    rw [show sessionCookie env m = some (sub.cookie.getD "") by
      simp [sessionCookie, ClientMessage.cookie, hm, hsub]]
    refine singleCall_authenticated fun _ => singleCall_db (isDbCall_of rfl) fun r => ?_
    split
    · exact done _ _
    · cases r <;> exact done _ _
  · exact singleCall_pure _

theorem singleCall_handleRequest (hone : OneDbCall m.requestType) :
    SingleCall (sessionCookie env m) (handleRequest env m) := by
  unfold handleRequest
  cases hm : m.requestType with
  | register => exact singleCall_register
  | unregister => exact singleCall_unregister hm
  | login => exact singleCall_login hm
  | logout => exact singleCall_logout hm
  | listNetworks => exact singleCall_listNetworks hm
  | listMyNetworks => exact singleCall_listMyNetworks hm
  | removeUser => exact singleCall_removeUser hm
  | signKey => exact singleCall_signKey hm
  | _ =>
    rw [hm] at hone
    exact hone.elim

/-- **Requests with one database call each are serializable**, in whatever state and with whatever
schedule, if they do not use one cookie. -/
theorem serializable_of_oneDbCall (env env' : Env) (m m' : ClientMessage)
    (hone : OneDbCall m.requestType) (hone' : OneDbCall m'.requestType)
    (hne : ∀ c, sessionCookie env m = some c → sessionCookie env' m' ≠ some c) (s : State) :
    Serializable exec (handleRequest env m) (handleRequest env' m') s := by
  intro w r h
  have hp : SingleCall (sessionCookie env m) (handleRequest env m) := singleCall_handleRequest hone
  have hq : SingleCall (sessionCookie env' m') (handleRequest env' m') :=
    singleCall_handleRequest hone'
  refine serial_of_oneWay exec commute_of_not_conflict h ?_
  exact oneWay_of_pivots exec (fun c d => isDbCall_of_conflict hne) hp.1 hq.1 hp.2 hq.2 w s

end Sp2p.Tracker
