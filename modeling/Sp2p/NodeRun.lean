import Sp2p.Lib.Runs
import Sp2p.Sercli.NodeCalls
import Sp2p.Tracker.SessionLife

/-!
# A node and its tracker

One node with the tracker it talks to. One thread calls the operations of the node; while an operation
waits, only replies to `asyncUpdateServer` can change the node. A request reaches the tracker later or
never, also when the operation has given up on it (`adrift`), and the reply may be lost. In between the
tracker handles the requests of other clients.

An operation looks at `is_logged` and sends its request in one step. Only the handler of a reply to
`asyncUpdateServer` could come in between, and that template is instantiated nowhere.

`issued` is every cookie that the tracker has given out for a LOGIN, with its username.
`session_sound` is what ties it to the requests of the node.
-/

namespace Sp2p

open Runs Protocol Tracker Sercli

/-- The cookie and the username of a LOGIN that is answered with a cookie. -/
def Tracker.Request.issued (r : Request) (s : State) : Option (String × String) :=
  if r.message.requestType = .login then
    match r.message.loginMessage.bind (·.username), (r.handle s).1.loginResponse.bind (·.cookie) with
    | some login, some cookie => some (cookie, login)
    | _, _ => none
  else none

/-- The request as it reaches the tracker. -/
def Sercli.Outgoing.to (o : Outgoing) (env : Env) : Request := ⟨env, o.message, o.initialized⟩

/-- A request that the node sent, and what the tracker answered, if it has. -/
structure Exchange where
  request : Outgoing
  reply : Option NodeMessage := none

/-- A request that nobody waits for any more may still reach the tracker. -/
def Exchange.adrift (x : Exchange) : List Outgoing := if x.reply.isNone then [x.request] else []

/-- The exchange that a call waits for. -/
structure Waiting extends Exchange where
  call : NodeCall

structure NodeRun where
  node : NodeState
  tracker : State
  waiting : Option Waiting := none
  asyncs : List Exchange := []
  adrift : List Outgoing := []
  issued : List (String × String) := []

inductive NodeEvent
  | call (c : NodeCall) (connected hasKey : Bool)
  | setUser (user : MyUser) (active : Bool)
  /-- The request that is waited for reaches the tracker. -/
  | arrive (env : Env)
  | arriveAsync (i : Nat) (env : Env)
  | arriveAdrift (i : Nat) (env : Env)
  /-- The reply reaches the node. -/
  | receive (readable : Bool)
  | receiveAsync (i : Nat)
  /-- The connection fails, and request or reply is lost. -/
  | sendError
  | sendErrorAsync (i : Nat)
  /-- Another client's request. -/
  | other (r : Request)

namespace NodeRun

def start (node : Node) (tracker : State) : NodeRun := { node := { node with }, tracker }

/-- The request that the tracker handles in a step. -/
def served (w : NodeRun) : NodeEvent → Option Request
  | .arrive env => w.waiting.bind fun x => if x.reply.isNone then some (x.request.to env) else none
  | .arriveAsync i env =>
    w.asyncs[i]?.bind fun x => if x.reply.isNone then some (x.request.to env) else none
  | .arriveAdrift i env => w.adrift[i]?.map (·.to env)
  | .other r => some r
  | _ => none

/-- What handling a request does to the tracker. -/
def serve (w : NodeRun) (r : Request) : NodeRun :=
  { w with
    tracker := (r.handle w.tracker).2
    issued := (r.issued w.tracker).toList ++ w.issued }

/-- The caller is free for a call, and `asyncUpdateServer` does not need it. -/
def call (w : NodeRun) (c : NodeCall) (connected hasKey : Bool) : Option NodeRun :=
  if c.isAsync then
    match w.node.begin connected hasKey c with
    | .ok request => some { w with asyncs := w.asyncs ++ [{ request }] }
    | .error _ => some w
  else if w.waiting.isSome then none
  else
    match w.node.begin connected hasKey c with
    | .ok request => some { w with waiting := some { request, call := c } }
    | .error _ => some w

def step (w : NodeRun) (e : NodeEvent) : Option NodeRun :=
  match e with
  | .call c connected hasKey => w.call c connected hasKey
  | .setUser user active =>
    if w.waiting.isSome then none
    else some (if active then w else { w with node := w.node.setUser user })
  | .arrive _ => do
    let x ← w.waiting
    let r ← w.served e
    some { w.serve r with waiting := some { x with reply := some (r.handle w.tracker).1 } }
  | .arriveAsync i _ => do
    let x ← w.asyncs[i]?
    let r ← w.served e
    some { w.serve r with asyncs := w.asyncs.set i { x with reply := some (r.handle w.tracker).1 } }
  | .arriveAdrift i _ => do
    let r ← w.served e
    some { w.serve r with adrift := w.adrift.eraseIdx i }
  | .receive readable => do
    let x ← w.waiting
    let reply ← x.reply
    some { w with node := (w.node.receive readable reply x.call).2, waiting := none }
  | .receiveAsync i => do
    let x ← w.asyncs[i]?
    let reply ← x.reply
    some { w with
      node := (w.node.receiveDefault (reply.responseType.getD .ok)).2
      asyncs := w.asyncs.eraseIdx i }
  | .sendError => do
    let x ← w.waiting
    some { w with waiting := none, adrift := w.adrift ++ x.adrift }
  | .sendErrorAsync i => do
    let x ← w.asyncs[i]?
    some { w with asyncs := w.asyncs.eraseIdx i, adrift := w.adrift ++ x.adrift }
  | .other r => some (w.serve r)

/-- The request that the node sends in a step. -/
def sends (w : NodeRun) : NodeEvent → Option Outgoing
  | .call c connected hasKey => (w.node.begin connected hasKey c).toOption
  | _ => none

/-- The call that returns in a step, and what it returns. -/
def returns (w : NodeRun) : NodeEvent → Option (NodeCall × NodeError)
  | .call c connected hasKey =>
    match w.node.begin connected hasKey c with
    | .ok _ => none
    | .error error => some (c, error)
  | .receive readable => do
    let x ← w.waiting
    let reply ← x.reply
    some (x.call, (w.node.receive readable reply x.call).1)
  | .sendError => w.waiting.map fun x => (x.call, .sendError)
  | _ => none

/-! ### What a step can do -/

inductive Steps (w : NodeRun) : NodeEvent → NodeRun → Prop
  | refused {c : NodeCall} {connected hasKey : Bool} {error : NodeError}
      (hidle : c.isAsync = false → w.waiting = none)
      (hbegin : w.node.begin connected hasKey c = .error error) : Steps w (.call c connected hasKey) w
  | sent {c : NodeCall} {connected hasKey : Bool} {request : Outgoing} (hidle : w.waiting = none)
      (hbegin : w.node.begin connected hasKey c = .ok request) :
      Steps w (.call c connected hasKey) { w with waiting := some { request, call := c } }
  | sentAsync {c : NodeCall} {connected hasKey : Bool} {request : Outgoing} (hasync : c.isAsync = true)
      (hbegin : w.node.begin connected hasKey c = .ok request) :
      Steps w (.call c connected hasKey) { w with asyncs := w.asyncs ++ [{ request }] }
  | sameUser {user : MyUser} : Steps w (.setUser user true) w
  | newUser {user : MyUser} (hidle : w.waiting = none) :
      Steps w (.setUser user false) { w with node := w.node.setUser user }
  | arrive {x : Waiting} {env : Env} (hx : w.waiting = some x)
      (hr : w.served (.arrive env) = some (x.request.to env)) (hreply : x.reply = none) :
      Steps w (.arrive env) { w.serve (x.request.to env) with
        waiting := some { x with reply := some ((x.request.to env).handle w.tracker).1 } }
  | arriveAsync {i : Nat} {x : Exchange} {env : Env} (hx : w.asyncs[i]? = some x)
      (hr : w.served (.arriveAsync i env) = some (x.request.to env)) :
      Steps w (.arriveAsync i env) { w.serve (x.request.to env) with
        asyncs := w.asyncs.set i { x with reply := some ((x.request.to env).handle w.tracker).1 } }
  | arriveAdrift {i : Nat} {o : Outgoing} {env : Env} (ho : w.adrift[i]? = some o)
      (hr : w.served (.arriveAdrift i env) = some (o.to env)) :
      Steps w (.arriveAdrift i env) { w.serve (o.to env) with adrift := w.adrift.eraseIdx i }
  | receive {x : Waiting} {reply : NodeMessage} {readable : Bool} (hx : w.waiting = some x)
      (hreply : x.reply = some reply) :
      Steps w (.receive readable)
        { w with node := (w.node.receive readable reply x.call).2, waiting := none }
  | receiveAsync {i : Nat} {x : Exchange} {reply : NodeMessage} (hx : w.asyncs[i]? = some x)
      (hreply : x.reply = some reply) :
      Steps w (.receiveAsync i)
        { w with
          node := (w.node.receiveDefault (reply.responseType.getD .ok)).2
          asyncs := w.asyncs.eraseIdx i }
  | sendError {x : Waiting} (hx : w.waiting = some x) :
      Steps w .sendError { w with waiting := none, adrift := w.adrift ++ x.adrift }
  | sendErrorAsync {i : Nat} {x : Exchange} (hx : w.asyncs[i]? = some x) :
      Steps w (.sendErrorAsync i)
        { w with asyncs := w.asyncs.eraseIdx i, adrift := w.adrift ++ x.adrift }
  | other {r : Request} : Steps w (.other r) (w.serve r)

theorem steps_call {w w' : NodeRun} {c : NodeCall} {connected hasKey : Bool}
    (hstep : w.call c connected hasKey = some w') : Steps w (.call c connected hasKey) w' := by
  unfold call at hstep
  split at hstep
  · rename_i hasync
    split at hstep
    · rename_i request hbegin
      obtain rfl := Option.some_inj.1 hstep
      exact .sentAsync hasync hbegin
    · rename_i error hbegin
      obtain rfl := Option.some_inj.1 hstep
      refine .refused (fun hsync => ?_) hbegin
      rw [hasync] at hsync
      cases hsync
  · split at hstep
    · cases hstep
    · rename_i hidle
      rw [Option.not_isSome_iff_eq_none] at hidle
      split at hstep
      · rename_i request hbegin
        obtain rfl := Option.some_inj.1 hstep
        exact .sent hidle hbegin
      · rename_i error hbegin
        obtain rfl := Option.some_inj.1 hstep
        exact .refused (fun _ => hidle) hbegin

theorem steps_of_step {w w' : NodeRun} {e : NodeEvent} (hstep : w.step e = some w') :
    Steps w e w' := by
  cases e with
  | call c connected hasKey => exact steps_call hstep
  | setUser user active =>
    replace hstep : (if w.waiting.isSome then none
      else some (if active then w else { w with node := w.node.setUser user })) = some w' := hstep
    split at hstep
    · cases hstep
    · rename_i hidle
      obtain rfl := Option.some_inj.1 hstep
      cases active with
      | true => exact .sameUser
      | false => exact .newUser (Option.not_isSome_iff_eq_none.1 hidle)
  | arrive env =>
    obtain ⟨x, hx, hstep⟩ := Option.bind_eq_some_iff.1 hstep
    obtain ⟨r, hr, hstep⟩ := Option.bind_eq_some_iff.1 hstep
    obtain rfl := Option.some_inj.1 hstep
    have hserved := hr
    simp only [served, hx, Option.bind_some] at hserved
    split at hserved
    · rename_i hreply
      obtain rfl := Option.some_inj.1 hserved
      exact .arrive hx hr (Option.isNone_iff_eq_none.1 hreply)
    · cases hserved
  | arriveAsync i env =>
    obtain ⟨x, hx, hstep⟩ := Option.bind_eq_some_iff.1 hstep
    obtain ⟨r, hr, hstep⟩ := Option.bind_eq_some_iff.1 hstep
    obtain rfl := Option.some_inj.1 hstep
    have hserved := hr
    simp only [served, hx, Option.bind_some] at hserved
    split at hserved
    · obtain rfl := Option.some_inj.1 hserved
      exact .arriveAsync hx hr
    · cases hserved
  | arriveAdrift i env =>
    obtain ⟨r, hr, hstep⟩ := Option.bind_eq_some_iff.1 hstep
    obtain rfl := Option.some_inj.1 hstep
    obtain ⟨o, ho, rfl⟩ := Option.map_eq_some_iff.1 hr
    exact .arriveAdrift ho hr
  | receive readable =>
    obtain ⟨x, hx, hstep⟩ := Option.bind_eq_some_iff.1 hstep
    obtain ⟨reply, hreply, hstep⟩ := Option.bind_eq_some_iff.1 hstep
    obtain rfl := Option.some_inj.1 hstep
    exact .receive hx hreply
  | receiveAsync i =>
    obtain ⟨x, hx, hstep⟩ := Option.bind_eq_some_iff.1 hstep
    obtain ⟨reply, hreply, hstep⟩ := Option.bind_eq_some_iff.1 hstep
    obtain rfl := Option.some_inj.1 hstep
    exact .receiveAsync hx hreply
  | sendError =>
    obtain ⟨x, hx, hstep⟩ := Option.bind_eq_some_iff.1 hstep
    obtain rfl := Option.some_inj.1 hstep
    exact .sendError hx
  | sendErrorAsync i =>
    obtain ⟨x, hx, hstep⟩ := Option.bind_eq_some_iff.1 hstep
    obtain rfl := Option.some_inj.1 hstep
    exact .sendErrorAsync hx
  | other r =>
    obtain rfl := Option.some_inj.1 hstep
    exact .other

/-! ### Cookies at the tracker -/

/-- The tracker does not give out a cookie that it has given out before. -/
def FreshCookies (w : NodeRun) (e : NodeEvent) : Prop :=
  ∀ r ∈ w.served e, ∀ given ∈ r.issued w.tracker, given.1 ∉ w.issued.map (·.1)

instance (w : NodeRun) (e : NodeEvent) : Decidable (w.FreshCookies e) :=
  inferInstanceAs (Decidable (∀ r ∈ w.served e, ∀ given ∈ r.issued w.tracker, _))

theorem issued_of_issues {r : Request} {s : State} {c l : String} (h : Issues s r c l) :
    r.issued s = some (c, l) := by
  obtain ⟨hm, hsub, hreply⟩ := h
  unfold Request.issued
  rw [if_pos hm, hsub, hreply]
  rfl

/-- A cookie that was given out and is dead stays dead. -/
theorem not_isLogged_serve {w : NodeRun} {e : NodeEvent} {r : Request} (hfresh : w.FreshCookies e)
    (hr : w.served e = some r) {c l : String} (hissued : (c, l) ∈ w.issued)
    (hdead : ¬ w.tracker.sessions.isLogged c) : ¬ (w.serve r).tracker.sessions.isLogged c := by
  intro hlive
  obtain ⟨l', hl'⟩ := SessionControler.isLogged_iff.1 hlive
  rcases loginOf_step hl' with hold | hnew
  · exact hdead (SessionControler.isLogged_iff.2 ⟨l', hold⟩)
  · exact hfresh r hr (c, l') (issued_of_issues hnew) (List.mem_map.2 ⟨(c, l), hissued, rfl⟩)

/-- After a LOGOUT of the node that was answered `OK` or `NOT_LOGGED` its cookie is dead. -/
theorem not_isLogged_logOut (n : NodeState) (env : Env) (s : State) :
    ¬ (((n.request .logOut).to env).handle s).2.sessions.isLogged n.cookie := by
  have hhandle : ((n.request .logOut).to env).handle s =
      (NodeMessageFactory.errorMesage (if (s.sessions.logout n.cookie).1 then .ok else .notLogged),
        { s with sessions := (s.sessions.logout n.cookie).2 }) := rfl
  rw [hhandle, SessionControler.isLogged_iff]
  rintro ⟨l, hl⟩
  rw [SessionControler.loginOf_logout, if_pos rfl] at hl
  cases hl

/-- The cookie in the reply to a LOGIN of the node was given out for its user. -/
theorem issued_logIn (n : NodeState) (env : Env) (s : State) {cookie : String}
    (h : (((n.request .logIn).to env).handle s).1.loginResponse.bind (·.cookie) = some cookie) :
    ((n.request .logIn).to env).issued s = some (cookie, n.myUser.username) := by
  have hkind : ((n.request .logIn).to env).message.requestType = .login := rfl
  unfold Request.issued
  rw [if_pos hkind, h]
  rfl

/-! ### The session of the node -/

/-- What ties the node to the cookies that were given out. While a call waits, its request is the one
that the node would send now. -/
structure Held (w : NodeRun) : Prop where
  logged : w.node.isLogged = true → (w.node.cookie, w.node.myUser.username) ∈ w.issued
  request : ∀ x, w.waiting = some x → x.request = w.node.request x.call
  cookie : ∀ x, w.waiting = some x → x.request.Authenticated →
    (w.node.cookie, w.node.myUser.username) ∈ w.issued
  logIn : ∀ x reply cookie, w.waiting = some x → x.call = .logIn → x.reply = some reply →
    reply.loginResponse.bind (·.cookie) = some cookie → (cookie, w.node.myUser.username) ∈ w.issued
  logOut : ∀ x reply, w.waiting = some x → x.call = .logOut → x.reply = some reply →
    ¬ w.tracker.sessions.isLogged w.node.cookie

namespace Held

variable {w w' : NodeRun} {e : NodeEvent} {r : Request}

theorem start (node : Node) (tracker : State) : Held (start node tracker) where
  logged h := by cases h
  request x h := by cases h
  cookie x h := by cases h
  logIn x reply cookie h := by cases h
  logOut x reply h := by cases h

theorem mem_serve {w : NodeRun} {x : String × String} (r : Request) (h : x ∈ w.issued) :
    x ∈ (w.serve r).issued := List.mem_append_right _ h

/-- The tracker handles a request that the node does not wait for. -/
theorem served (h : Held w) (hfresh : w.FreshCookies e) (hr : w.served e = some r)
    (hnode : w'.node = w.node) (hwaiting : w'.waiting = w.waiting)
    (htracker : w'.tracker = (w.serve r).tracker) (hissued : w'.issued = (w.serve r).issued) :
    Held w' where
  logged hlogged := by
    rw [hnode] at hlogged ⊢
    rw [hissued]
    exact mem_serve r (h.logged hlogged)
  request x hx := by
    rw [hnode]
    exact h.request x (hwaiting ▸ hx)
  cookie x hx hauth := by
    rw [hnode, hissued]
    exact mem_serve r (h.cookie x (hwaiting ▸ hx) hauth)
  logIn x reply cookie hx hcall hreply hcookie := by
    rw [hnode, hissued]
    exact mem_serve r (h.logIn x reply cookie (hwaiting ▸ hx) hcall hreply hcookie)
  logOut x reply hx hcall hreply := by
    rw [hwaiting] at hx
    have hsent : x.request = w.node.request .logOut := hcall ▸ h.request x hx
    have hmem := h.cookie x hx (by rw [hsent]; exact ⟨nofun, nofun⟩)
    rw [hnode, htracker]
    exact not_isLogged_serve hfresh hr hmem (h.logOut x reply hx hcall hreply)

/-- The tracker handles the request that the node waits for. -/
theorem arrive (h : Held w) {x : Waiting} {env : Env} (hx : w.waiting = some x) :
    Held { w.serve (x.request.to env) with
      waiting := some { x with reply := some ((x.request.to env).handle w.tracker).1 } } where
  logged hlogged := mem_serve _ (h.logged hlogged)
  request y hy := by
    obtain rfl := Option.some_inj.1 hy
    exact h.request x hx
  cookie y hy hauth := by
    obtain rfl := Option.some_inj.1 hy
    exact mem_serve _ (h.cookie x hx hauth)
  logIn y reply cookie hy hcall hreply hcookie := by
    obtain rfl := Option.some_inj.1 hy
    obtain rfl := Option.some_inj.1 hreply
    have hsent : x.request = w.node.request .logIn := hcall ▸ h.request x hx
    rw [hsent] at hcookie
    refine List.mem_append_left _ ?_
    rw [hsent, issued_logIn w.node env w.tracker hcookie]
    exact List.mem_singleton_self _
  logOut y reply hy hcall hreply := by
    obtain rfl := Option.some_inj.1 hy
    have hsent : x.request = w.node.request .logOut := hcall ▸ h.request x hx
    show ¬ ((x.request.to env).handle w.tracker).2.sessions.isLogged w.node.cookie
    rw [hsent]
    exact not_isLogged_logOut w.node env w.tracker

/-- A call begins: the node waits for a reply to the request that it sends now. -/
theorem begun (h : Held w) {c : NodeCall} {connected hasKey : Bool} {o : Outgoing}
    (hbegin : w.node.begin connected hasKey c = .ok o) :
    Held { w with waiting := some { request := o, call := c } } where
  logged := h.logged
  request y hy := by
    obtain rfl := Option.some_inj.1 hy
    exact (NodeState.begin_eq_ok hbegin).1
  cookie y hy hauth := by
    obtain rfl := Option.some_inj.1 hy
    exact h.logged ((NodeState.begin_eq_ok hbegin).2 hauth)
  logIn y reply cookie hy _ hreply := by
    obtain rfl := Option.some_inj.1 hy
    cases hreply
  logOut y reply hy _ hreply := by
    obtain rfl := Option.some_inj.1 hy
    cases hreply

/-- A reply to `asyncUpdateServer` can only end the session. -/
theorem default (h : Held w) {asyncs : List Exchange} (r : ResponseType) :
    Held { w with node := (w.node.receiveDefault r).2, asyncs } where
  logged hlogged := by
    have hsame := NodeState.sameSession_default w.node r
    have hmem := h.logged (hsame.isLogged hlogged)
    rwa [← hsame.cookie, ← hsame.username] at hmem
  request y hy := (h.request y hy).trans (NodeState.request_default w.node r y.call).symm
  cookie y hy hauth := by
    have hsame := NodeState.sameSession_default w.node r
    have hmem := h.cookie y hy hauth
    rwa [← hsame.cookie, ← hsame.username] at hmem
  logIn y reply cookie hy hcall hreply hcookie := by
    have hmem := h.logIn y reply cookie hy hcall hreply hcookie
    rwa [← (NodeState.sameSession_default w.node r).username] at hmem
  logOut y reply hy hcall hreply := by
    rw [(NodeState.sameSession_default w.node r).cookie]
    exact h.logOut y reply hy hcall hreply

/-- Nobody waits any more. -/
theorem idle (hidle : w'.waiting = none)
    (hlogged : w'.node.isLogged = true → (w'.node.cookie, w'.node.myUser.username) ∈ w'.issued) :
    Held w' where
  logged := hlogged
  request y hy := by rw [hidle] at hy; cases hy
  cookie y hy := by rw [hidle] at hy; cases hy
  logIn y reply cookie hy := by rw [hidle] at hy; cases hy
  logOut y reply hy := by rw [hidle] at hy; cases hy

/-- The reply reaches the node. -/
theorem logged_receive (h : Held w) {x : Waiting} {reply : NodeMessage} (hx : w.waiting = some x)
    (hreply : x.reply = some reply) (readable : Bool) :
    let n := (w.node.receive readable reply x.call).2
    n.isLogged = true → (n.cookie, n.myUser.username) ∈ w.issued := by
  intro n hlogged
  by_cases hin : x.call = .logIn
  · rcases NodeState.receive_logIn w.node readable reply with ⟨cookie, hcookie, hn⟩ | hn
    · have hmem := h.logIn x reply cookie hx hin hreply hcookie
      simpa only [n, hin, hn] using hmem
    · simp only [n, hin, hn] at hlogged ⊢
      exact h.logged hlogged
  · by_cases hout : x.call = .logOut
    · rcases NodeState.receive_logOut w.node readable reply with ⟨-, hlogged', -⟩ | ⟨-, hn⟩
      · simp only [n, hout] at hlogged
        rw [hlogged'] at hlogged
        cases hlogged
      · simp only [n, hout, hn] at hlogged ⊢
        exact h.logged hlogged
    · have hsame := NodeState.sameSession_receive w.node readable reply hin hout
      have hmem := h.logged (hsame.isLogged hlogged)
      rwa [← hsame.cookie, ← hsame.username] at hmem

theorem step (h : Held w) (hfresh : w.FreshCookies e) (hstep : w.step e = some w') : Held w' := by
  cases steps_of_step hstep with
  | refused _ _ | sameUser => exact h
  | sent _ hbegin => exact h.begun hbegin
  | newUser hidle => exact idle hidle nofun
  | arrive hx _ _ => exact h.arrive hx
  | arriveAsync _ hr | arriveAdrift _ hr => exact h.served hfresh hr rfl rfl rfl rfl
  | other => exact h.served hfresh rfl rfl rfl rfl rfl
  | @receive _ _ readable hx hreply => exact idle rfl (h.logged_receive hx hreply readable)
  | receiveAsync _ _ => exact h.default _
  | sendError _ => exact idle rfl h.logged
  | sentAsync _ _ | sendErrorAsync _ => exact ⟨h.logged, h.request, h.cookie, h.logIn, h.logOut⟩

end Held

/-! ### Session soundness -/

/-- Every authenticated request is sent while `is_logged` is true and carries the cookie of the node,
and that was given out for the user of the node. When `logOut` returns `OK`, the cookie that the node
held is dead. -/
structure SessionSound (w : NodeRun) (e : NodeEvent) : Prop where
  sends : ∀ o, w.sends e = some o → o.Authenticated →
    w.node.isLogged = true ∧ o.message.cookie = some w.node.cookie ∧
      (w.node.cookie, w.node.myUser.username) ∈ w.issued
  loggedOut : ∀ w', w.step e = some w' → w.returns e = some (.logOut, .ok) →
    ¬ w'.tracker.sessions.isLogged w.node.cookie

theorem Held.sound {w : NodeRun} (h : Held w) (e : NodeEvent) : SessionSound w e where
  sends o ho hauth := by
    cases e with
    | call c connected hasKey =>
      have hbegin : w.node.begin connected hasKey c = .ok o := by
        cases hb : w.node.begin connected hasKey c with
        | ok o' =>
          rw [NodeRun.sends, hb] at ho
          rw [Option.some_inj.1 ho]
        | error error =>
          rw [NodeRun.sends, hb] at ho
          cases ho
      obtain ⟨rfl, hlogged⟩ := NodeState.begin_eq_ok hbegin
      exact ⟨hlogged hauth, NodeState.cookie_request hauth, h.logged (hlogged hauth)⟩
    | _ => cases ho
  loggedOut w' hstep hreturns := by
    cases steps_of_step hstep with
    | refused _ hbegin =>
      rw [NodeRun.returns, hbegin] at hreturns
      cases hreturns
      exact absurd hbegin NodeState.begin_logOut
    | sent _ hbegin | sentAsync _ hbegin =>
      rw [NodeRun.returns, hbegin] at hreturns
      cases hreturns
    | @receive x reply _ hx hreply =>
      simp only [NodeRun.returns, hx, hreply, Option.bind_eq_bind, Option.bind_some] at hreturns
      obtain ⟨hcall, -⟩ := Prod.mk.inj (Option.some_inj.1 hreturns)
      exact h.logOut x reply hx hcall hreply
    | sendError _ =>
      obtain ⟨x, -, hx⟩ := Option.map_eq_some_iff.1 hreturns
      cases (Prod.mk.inj hx).2
    | _ => cases hreturns

/-- **In every run of a node and its tracker in which no cookie is given out twice, every step is
sound.** -/
theorem session_sound (node : Node) (tracker : State) (events : List NodeEvent)
    (hfresh : Along step FreshCookies (start node tracker) events) :
    Along step SessionSound (start node tracker) events :=
  along_of_inv (fun _ _ _ h hP hstep => h.step hP hstep) (fun _ e h _ => h.sound e)
    (Held.start node tracker) hfresh

/-- Alice registers, logs in, asks for her networks twice and logs out. The first of her two questions
fails, and reaches the tracker after she has logged out. -/
def aliceEvents : List NodeEvent :=
  [.call (.registerUser fun _ => "request") true true, .arrive Env.sample, .receive true,
    .call .logIn true true, .arrive Env.sample, .receive true,
    .call .getMyNetworks true true, .sendError,
    .call .getMyNetworks true true, .arrive Env.sample, .receive true,
    .call .logOut true true, .arrive Env.sample, .receive true, .arriveAdrift 0 Env.sample]

def alice : Node where
  nodeDesc := ⟨"10.0.0.2", "node", 7000⟩
  myUser := { username := "alice", email := "alice@node", password := "secret" }

theorem session_sound_alice :
    (run step (start alice State.empty) aliceEvents).isSome ∧
      Along step SessionSound (start alice State.empty) aliceEvents :=
  ⟨by decide +kernel, session_sound alice State.empty aliceEvents (by decide +kernel)⟩

end NodeRun

end Sp2p
