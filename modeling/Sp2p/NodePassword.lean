import Sp2p.Delivery
import Sp2p.NodeRun
import Sp2p.Tracker.Account

/-!
# The password of a node and of its tracker

`changePassword` sends the password that the node has as the old one, the tracker stores the new one,
and the node takes it when the reply is `OK`. So the two agree as long as the node gets that reply:
`password_kept`. Where it is lost, the node is left with a password that neither `logIn` nor
`changePassword` gets through with.
-/

namespace Sp2p

open Runs Protocol Tracker Sercli NodeMessageFactory

/-- The call is a `changePassword`. -/
def Sercli.NodeCall.changesPassword : NodeCall → Bool
  | .changePassword _ => true
  | _ => false

namespace NodeRun

/-- The password that the node has when it gets the reply it waits for. -/
def settled (w : NodeRun) : String :=
  match w.waiting with
  | some ⟨⟨_, some reply⟩, c⟩ => (w.node.receive true reply c).2.myUser.password
  | _ => w.node.myUser.password

/-- The tracker accepts the password that the node has, if there is an account. -/
def PasswordAccepted (check : String → String → Bool) (w : NodeRun) : Prop :=
  (w.tracker.db.tables.userId? w.node.myUser.username).isSome →
    Accepts check w.tracker.db.tables w.node.myUser.username w.node.myUser.password

instance (check : String → String → Bool) (w : NodeRun) : Decidable (PasswordAccepted check w) :=
  inferInstanceAs (Decidable (_ → _))

/-- When `changePassword` returns, the tracker accepts the password that the node has. -/
def PasswordKept (check : String → String → Bool) (w : NodeRun) (e : NodeEvent) : Prop :=
  ∀ w' ∈ w.step e, ∀ out ∈ w.returns e, out.1.changesPassword = true → w'.PasswordAccepted check

instance (check : String → String → Bool) (w : NodeRun) (e : NodeEvent) :
    Decidable (PasswordKept check w e) :=
  inferInstanceAs (Decidable (∀ w' ∈ w.step e, ∀ out ∈ w.returns e, _))

/-- The user is registered through the node, and the password changed only through it: `setUser` gives
it no other user, and other clients leave the account alone. -/
structure ThroughNode (check : String → String → Bool) (u : String) (w : NodeRun) (e : NodeEvent) :
    Prop where
  bcrypt : ∀ r ∈ w.served e, Bcrypt check r
  user : ∀ user, e ≠ .setUser user false
  others : ∀ r, e = .other r → KeepsAccount u w.tracker r

/-- The node gets the reply to every CHANGE_PASSWORD that is answered `OK`. -/
def ReplyArrives (w : NodeRun) : NodeEvent → Prop
  | .sendError => ∀ x ∈ w.waiting, x.call.changesPassword = true →
      ∀ reply ∈ x.reply, reply.responseType.getD .ok ≠ .ok
  | .arriveAdrift i env => ∀ o ∈ w.adrift[i]?, o.message.requestType = .changePassword →
      ¬ ((o.to env).handle w.tracker).1.isOk
  | _ => True

instance (w : NodeRun) : ∀ e, Decidable (w.ReplyArrives e)
  | .sendError => inferInstanceAs (Decidable (∀ x ∈ w.waiting, _ → ∀ reply ∈ x.reply, _))
  | .arriveAdrift i _ => inferInstanceAs (Decidable (∀ o ∈ w.adrift[i]?, _))
  | .call .. | .setUser .. | .arrive _ | .arriveAsync .. | .receive _ | .receiveAsync _
  | .sendErrorAsync _ | .other _ => .isTrue trivial

/-! ### Cookies and sessions -/

variable {w w' : NodeRun} {e : NodeEvent} {r : Request} {s : State} {c l : String}

/-- A LOGIN that is answered with a cookie is granted. -/
theorem issues_of_issued (h : r.issued s = some (c, l)) : Issues s r c l := by
  unfold Request.issued at h
  split at h
  · rename_i hm
    split at h
    · rename_i login cookie hlogin hcookie
      cases h
      refine ⟨hm, hlogin, ?_⟩
      have hhandle : r.handle s = (handleLogin r.env r.message).run exec s := by
        unfold Request.handle handle handleRequest
        rw [hm]
      rw [hhandle] at hcookie ⊢
      by_cases hsub : ∃ login pass, r.message.loginMessage = some ⟨some login, some pass⟩
      · obtain ⟨user, pass, hsub⟩ := hsub
        rw [run_handleLogin hsub] at hcookie ⊢
        by_cases hgood : GoodCredentials r.env s user pass
        · rw [if_pos hgood] at hcookie ⊢
          exact congrArg (loginResponse · "notimplementedyet") (Option.some_inj.1 hcookie)
        · rw [if_neg hgood] at hcookie
          cases hcookie
      · rw [handleLogin_bad hsub] at hcookie
        cases hcookie
    · cases h
  · cases h

/-- A live cookie that was given out is live for the login it was given to. -/
def SessionsAgree (w : NodeRun) : Prop :=
  ∀ c l l', (c, l) ∈ w.issued → w.tracker.sessions.loginOf c = some l' → l' = l

theorem SessionsAgree.serve (h : SessionsAgree w) (hfresh : w.FreshCookies e)
    (hr : w.served e = some r) : SessionsAgree (w.serve r) := by
  intro c l l' hmem hl'
  have hstep := loginOf_step hl'
  rcases List.mem_append.1 hmem with hnew | hold
  · have hissues := issues_of_issued (Option.mem_toList.1 hnew)
    exact Option.some_inj.1 (hl'.symm.trans (loginOf_of_issues hissues).1)
  · rcases hstep with hbefore | hissues
    · exact h c l l' hold hbefore
    · exact absurd (List.mem_map.2 ⟨(c, l), hold, rfl⟩)
        (hfresh r hr (c, l') (issued_of_issues hissues))

/-! ### The requests of a node -/

/-- The requests that are no REGISTER and no CHANGE_PASSWORD leave every account alone. -/
theorem keepsAccount_request {call : NodeCall} (hregister : ∀ pem, call ≠ .registerUser pem)
    (hchange : call.changesPassword = false) (n : NodeState) (env : Env) (u : String) (s : State) :
    KeepsAccount u s ((n.request call).to env) := by
  have htype : call.requestType ∉ [.register, .changePassword, .unregister, .removeUser] := by
    cases call with
    | registerUser pem => exact absurd rfl (hregister pem)
    | changePassword new => cases hchange
    | _ => simp [NodeCall.requestType]
  have hsame : ((n.request call).to env).message.requestType = call.requestType :=
    NodeState.requestType_request n call
  constructor
  · intro hm
    rw [hsame] at hm
    exact absurd (by simp [hm]) htype
  · intro hm
    rw [hsame] at hm
    exact absurd (List.mem_cons_of_mem _ hm) htype

/-- A request that some call sent. If it is a REGISTER, it is of this user, with the password that the
node has as long as there is no account. -/
def SentBy (u : String) (w : NodeRun) (o : Outgoing) : Prop :=
  ∃ (n : NodeState) (call : NodeCall), o = n.request call ∧
    ∀ pem, call = .registerUser pem → n.myUser.username = u ∧
      (w.tracker.db.tables.account? u = none → n.myUser.password = w.node.myUser.password)

theorem SentBy.mono {u : String} {o : Outgoing} (h : SentBy u w o)
    (hpassword : w'.tracker.db.tables.account? u = none → w.tracker.db.tables.account? u = none ∧
      w'.node.myUser.password = w.node.myUser.password) : SentBy u w' o := by
  obtain ⟨n, call, ho, hregister⟩ := h
  refine ⟨n, call, ho, fun pem hcall => ⟨(hregister pem hcall).1, fun hnone => ?_⟩⟩
  obtain ⟨hnone', hsame⟩ := hpassword hnone
  rw [hsame]
  exact (hregister pem hcall).2 hnone'

/-! ### The invariant -/

/-- If there is an account, it accepts the password that the node has or is about to have. -/
structure Agreed (check : String → String → Bool) (u : String) (w : NodeRun) : Prop where
  held : Held w
  username : w.node.myUser.username = u
  sessions : SessionsAgree w
  account : ∀ c, (c, u) ∈ w.issued → (w.tracker.db.tables.account? u).isSome
  accepts : (w.tracker.db.tables.account? u).isSome → Accepts check w.tracker.db.tables u w.settled
  asyncs : ∀ x ∈ w.asyncs, ∃ (n : NodeState) (call : NodeCall),
    x.request = n.request call ∧ call.isAsync = true
  adrift : ∀ o ∈ w.adrift, SentBy u w o

/-- The tracker has handled the request, and the node is as it was. -/
structure Handled (w : NodeRun) (r : Request) (w' : NodeRun) : Prop where
  held : Held w'
  node : w'.node = w.node
  tracker : w'.tracker = (w.serve r).tracker
  issued : w'.issued = (w.serve r).issued
  asyncs : ∀ x ∈ w'.asyncs, ∃ y ∈ w.asyncs, x.request = y.request
  adrift : ∀ o ∈ w'.adrift, o ∈ w.adrift

theorem settled_of_idle (h : w.waiting = none) : w.settled = w.node.myUser.password := by
  rw [settled, h]

theorem settled_of_sent {x : Waiting} (hx : w.waiting = some x) (hreply : x.reply = none) :
    w.settled = w.node.myUser.password := by
  obtain ⟨⟨request, reply⟩, call⟩ := x
  obtain rfl : reply = none := hreply
  rw [settled, hx]

theorem settled_of_replied {x : Waiting} {reply : NodeMessage} (hx : w.waiting = some x)
    (hreply : x.reply = some reply) :
    w.settled = (w.node.receive true reply x.call).2.myUser.password := by
  obtain ⟨⟨request, reply'⟩, call⟩ := x
  obtain rfl : reply' = some reply := hreply
  rw [settled, hx]

theorem settled_of_unchanged (h : ∀ x ∈ w.waiting, x.call.changesPassword = false) :
    w.settled = w.node.myUser.password := by
  cases hx : w.waiting with
  | none => exact settled_of_idle hx
  | some x =>
    cases hreply : x.reply with
    | none => exact settled_of_sent hx hreply
    | some reply =>
      rw [settled_of_replied hx hreply, NodeState.password_receive]
      split
      · rename_i new hcall
        have hno := h x hx
        rw [hcall] at hno
        cases hno
      · rfl

/-- A reply to `asyncUpdateServer` does not matter for it. -/
theorem settled_default {asyncs : List Exchange} {type : ResponseType} :
    settled { w with node := (w.node.receiveDefault type).2, asyncs } = w.settled := by
  have hsame := NodeState.myUser_default w.node type
  unfold settled
  dsimp only
  split
  · rw [NodeState.password_receive, NodeState.password_receive, hsame]
  · rw [hsame]

namespace Agreed

variable {check : String → String → Bool} {u : String}

/-- A call that changes the password has a cookie of the user, so there is an account. -/
theorem account_of_waiting (h : Agreed check u w) {x : Waiting} (hx : w.waiting = some x)
    (hcall : x.call.changesPassword = true) : (w.tracker.db.tables.account? u).isSome := by
  refine h.account w.node.cookie ?_
  rw [← h.username]
  refine h.held.cookie x hx ?_
  rw [h.held.request x hx]
  cases hc : x.call with
  | changePassword new => exact ⟨nofun, nofun⟩
  | _ =>
    rw [hc] at hcall
    cases hcall

/-- Without an account no change of the password is under way. -/
theorem settled_of_none (h : Agreed check u w) (hnone : w.tracker.db.tables.account? u = none) :
    w.settled = w.node.myUser.password := by
  apply settled_of_unchanged
  intro x hx
  by_contra hcall
  have hsome := h.account_of_waiting hx (Bool.not_eq_false _ ▸ hcall)
  rw [hnone] at hsome
  cases hsome

/-- The tracker handles a request: what is left to show is that the account accepts what the node is
to have. -/
theorem serve (h : Agreed check u w) (hfresh : w.FreshCookies e) (hbcrypt : Bcrypt check r)
    (hr : w.served e = some r) (hhandled : Handled w r w')
    (hsome : (w.tracker.db.tables.account? u).isSome → (w'.tracker.db.tables.account? u).isSome)
    (haccepts : (w'.tracker.db.tables.account? u).isSome →
      Accepts check w'.tracker.db.tables u w'.settled) : Agreed check u w' where
  held := hhandled.held
  username := by rw [hhandled.node]; exact h.username
  sessions := by
    intro c l l' hmem hl'
    rw [hhandled.issued] at hmem
    rw [hhandled.tracker] at hl'
    exact h.sessions.serve hfresh hr c l l' hmem hl'
  account c hmem := by
    rw [hhandled.issued] at hmem
    rcases List.mem_append.1 hmem with hnew | hold
    · exact hsome (hbcrypt.account_of_issues (issues_of_issued (Option.mem_toList.1 hnew)))
    · exact hsome (h.account c hold)
  accepts := haccepts
  asyncs x hx := by
    obtain ⟨y, hy, hrequest⟩ := hhandled.asyncs x hx
    rw [hrequest]
    exact h.asyncs y hy
  adrift o ho := by
    refine (h.adrift o (hhandled.adrift o ho)).mono fun hnone => ⟨?_, by rw [hhandled.node]⟩
    rw [← Option.not_isSome_iff_eq_none] at hnone ⊢
    exact fun hbefore => hnone (hsome hbefore)

/-- The tracker handles a request that leaves the account alone. -/
theorem keeps (h : Agreed check u w) (hfresh : w.FreshCookies e) (hbcrypt : Bcrypt check r)
    (hr : w.served e = some r)
    (hkeeps : (r.handle w.tracker).2.db.tables.account? u = w.tracker.db.tables.account? u)
    (hhandled : Handled w r w') (hsettled : w'.settled = w.settled) : Agreed check u w' := by
  have hsame : w'.tracker.db.tables.account? u = w.tracker.db.tables.account? u := by
    rw [hhandled.tracker]
    exact hkeeps
  refine h.serve hfresh hbcrypt hr hhandled ?_ ?_
  · rw [hsame]
    exact id
  · intro hsome
    rw [hsame] at hsome
    rw [hsettled]
    exact (accepts_congr hsame).2 (h.accepts hsome)

/-- The tracker handles a REGISTER of the user, with the password that the node has as long as there is
no account. -/
theorem registered (h : Agreed check u w) (hfresh : w.FreshCookies e) (hbcrypt : Bcrypt check r)
    (hr : w.served e = some r) (hm : r.message.requestType = .register) {pass : String}
    (hsub : ∃ key, r.message.registerMessage = some ⟨some u, some pass, some key⟩)
    (hpass : w.tracker.db.tables.account? u = none → pass = w.node.myUser.password)
    (hhandled : Handled w r w') (hsettled : w'.settled = w.settled) : Agreed check u w' := by
  obtain ⟨key, hsub⟩ := hsub
  have haccount := account?_register hbcrypt hm hsub (s := w.tracker)
  refine h.serve hfresh hbcrypt hr hhandled ?_ ?_
  · intro hsome
    rw [hhandled.tracker]
    rcases haccount with hsame | ⟨hnone, -⟩
    · exact hsame ▸ hsome
    · rw [hnone] at hsome
      cases hsome
  · intro hsome
    rw [hhandled.tracker] at hsome ⊢
    rw [hsettled]
    rcases haccount with hsame | ⟨hnone, haccepts⟩
    · exact (accepts_congr hsame).2 (h.accepts (hsame ▸ hsome))
    · rw [h.settled_of_none hnone, ← hpass hnone]
      exact haccepts

theorem handled_arrive (h : Agreed check u w) {x : Waiting} {env : Env} (hx : w.waiting = some x) :
    Handled w (x.request.to env) { w.serve (x.request.to env) with
      waiting := some { x with reply := some ((x.request.to env).handle w.tracker).1 } } :=
  ⟨h.held.arrive hx, rfl, rfl, rfl, fun y hy => ⟨y, hy, rfl⟩, fun _ ho => ho⟩

/-- A CHANGE_PASSWORD reaches the tracker: the account gets the new password exactly when the node is
to take it. -/
theorem arrive_changePassword (h : Agreed check u w) {x : Waiting} {env : Env} {new : String}
    (hx : w.waiting = some x) (hcall : x.call = .changePassword new) (hreply : x.reply = none)
    (hfresh : w.FreshCookies (.arrive env)) (hbcrypt : Bcrypt check (x.request.to env))
    (hr : w.served (.arrive env) = some (x.request.to env)) :
    Agreed check u { w.serve (x.request.to env) with
      waiting := some { x with reply := some ((x.request.to env).handle w.tracker).1 } } := by
  have hrequest : x.request = w.node.request (.changePassword new) := hcall ▸ h.held.request x hx
  have hmem : (w.node.cookie, u) ∈ w.issued := by
    rw [← h.username]
    exact h.held.cookie x hx (by rw [hrequest]; exact ⟨nofun, nofun⟩)
  have haccount := account?_changePassword (r := x.request.to env) (s := w.tracker) (u := u) hbcrypt
    (by rw [hrequest]; rfl) (by rw [hrequest]; rfl)
    (fun name hname => h.sessions w.node.cookie u name hmem hname)
  have hsome := h.account w.node.cookie hmem
  have hsettled := settled_of_sent hx hreply
  -- the reply says `OK` to the node when the tracker does
  have hok : ((x.request.to env).handle w.tracker).1.responseType.getD .ok = .ok ↔
      ((x.request.to env).handle w.tracker).1.isOk := by
    have hinit := handle_isInitialized env x.request.message w.tracker
    have htype : ((x.request.to env).handle w.tracker).1.responseType.isSome := by
      simp only [NodeMessage.isInitialized, Bool.and_eq_true] at hinit
      exact hinit.1.1.1.1.1.1.1.1
    obtain ⟨type, htype⟩ := Option.isSome_iff_exists.1 htype
    rw [NodeMessage.isOk, htype, Option.getD_some, Option.some.injEq]
  refine h.serve hfresh hbcrypt hr (h.handled_arrive hx) ?_ ?_
  · intro _
    rcases haccount with ⟨-, hsame⟩ | ⟨-, hsame, -⟩
    · exact hsame ▸ hsome
    · exact hsame.trans hsome
  · intro _
    rw [settled_of_replied rfl rfl, NodeState.password_receive]
    dsimp only
    rw [hcall]
    dsimp only
    rcases haccount with ⟨hno, hsame⟩ | ⟨hyes, -, haccepts⟩
    · rw [if_neg fun hgot => hno (hok.1 hgot)]
      have hbefore := h.accepts hsome
      rw [hsettled] at hbefore
      exact (accepts_congr hsame).2 hbefore
    · rw [if_pos (hok.2 hyes)]
      exact haccepts hsome

/-- The request that the node waits for reaches the tracker. -/
theorem arrive (h : Agreed check u w) {x : Waiting} {env : Env} (hx : w.waiting = some x)
    (hfresh : w.FreshCookies (.arrive env)) (hreply : x.reply = none)
    (hbcrypt : Bcrypt check (x.request.to env)) :
    Agreed check u { w.serve (x.request.to env) with
      waiting := some { x with reply := some ((x.request.to env).handle w.tracker).1 } } := by
  have hr : w.served (.arrive env) = some (x.request.to env) := by
    simp [served, hx, hreply]
  have hrequest := h.held.request x hx
  by_cases hchange : ∃ new, x.call = .changePassword new
  · obtain ⟨new, hcall⟩ := hchange
    exact h.arrive_changePassword hx hcall hreply hfresh hbcrypt hr
  · have hother : x.call.changesPassword = false := by
      cases hcall : x.call with
      | changePassword new => exact absurd ⟨new, hcall⟩ hchange
      | _ => rfl
    have hsettled : settled { w.serve (x.request.to env) with
        waiting := some { x with reply := some ((x.request.to env).handle w.tracker).1 } } =
          w.settled := by
      rw [settled_of_sent hx hreply]
      apply settled_of_unchanged
      intro y hy
      obtain rfl := Option.some_inj.1 hy
      exact hother
    by_cases hregister : ∃ pem, x.call = .registerUser pem
    · obtain ⟨pem, hcall⟩ := hregister
      rw [hcall] at hrequest
      refine h.registered hfresh hbcrypt hr ?_ ?_ (fun _ => rfl) (h.handled_arrive hx) hsettled
      · rw [hrequest]
        rfl
      · rw [hrequest, ← h.username]
        exact ⟨_, rfl⟩
    · refine h.keeps hfresh hbcrypt hr ?_ (h.handled_arrive hx) hsettled
      rw [hrequest]
      exact account?_handle (keepsAccount_request (fun pem hcall => hregister ⟨pem, hcall⟩) hother
        w.node env u w.tracker)

/-- A request that was given up on reaches the tracker. -/
theorem arriveAdrift (h : Agreed check u w) {i : Nat} {env : Env} {o : Outgoing}
    (ho : w.adrift[i]? = some o) (hfresh : w.FreshCookies (.arriveAdrift i env))
    (harrives : w.ReplyArrives (.arriveAdrift i env)) (hbcrypt : Bcrypt check (o.to env)) :
    Agreed check u { w.serve (o.to env) with adrift := w.adrift.eraseIdx i } := by
  have hr : w.served (.arriveAdrift i env) = some (o.to env) := by
    simp [served, ho]
  have hhandled : Handled w (o.to env) { w.serve (o.to env) with adrift := w.adrift.eraseIdx i } :=
    ⟨h.held.served hfresh hr rfl rfl rfl rfl, rfl, rfl, rfl, fun y hy => ⟨y, hy, rfl⟩,
      fun o' ho' => List.mem_of_mem_eraseIdx ho'⟩
  obtain ⟨n, call, hrequest, hsent⟩ := h.adrift o (List.mem_of_getElem? ho)
  by_cases hregister : ∃ pem, call = .registerUser pem
  · obtain ⟨pem, hcall⟩ := hregister
    obtain ⟨hname, hpass⟩ := hsent pem hcall
    rw [hcall] at hrequest
    refine h.registered hfresh hbcrypt hr ?_ ?_ hpass hhandled rfl
    · rw [hrequest]
      rfl
    · rw [hrequest, ← hname]
      exact ⟨_, rfl⟩
  · by_cases hchange : call.changesPassword = false
    · refine h.keeps hfresh hbcrypt hr ?_ hhandled rfl
      rw [hrequest]
      exact account?_handle (keepsAccount_request (fun pem hcall => hregister ⟨pem, hcall⟩) hchange n
        env u w.tracker)
    · -- it is refused, so the tracker is as it was
      have hm : o.message.requestType = .changePassword := by
        rw [hrequest, NodeState.requestType_request]
        cases call with
        | changePassword new => rfl
        | _ => exact absurd rfl hchange
      have hrefused : ((o.to env).handle w.tracker).2 = w.tracker := handle_refused hm (harrives o ho hm)
      exact h.keeps hfresh hbcrypt hr (by rw [hrefused]) hhandled rfl

/-- The tracker is not involved, and the node has or is about to have the same password. -/
theorem local_step (h : Agreed check u w) (hheld : Held w') (htracker : w'.tracker = w.tracker)
    (hissued : w'.issued = w.issued) (husername : w'.node.myUser.username = w.node.myUser.username)
    (hsettled : w'.settled = w.settled)
    (hpassword : w.tracker.db.tables.account? u = none →
      w'.node.myUser.password = w.node.myUser.password)
    (hasyncs : ∀ x ∈ w'.asyncs, x ∈ w.asyncs ∨ ∃ (n : NodeState) (call : NodeCall),
      x.request = n.request call ∧ call.isAsync = true)
    (hadrift : ∀ o ∈ w'.adrift, SentBy u w o) : Agreed check u w' where
  held := hheld
  username := husername.trans h.username
  sessions c l l' hmem hl' := by
    rw [hissued] at hmem
    rw [htracker] at hl'
    exact h.sessions c l l' hmem hl'
  account c hmem := by
    rw [hissued] at hmem
    rw [htracker]
    exact h.account c hmem
  accepts hsome := by
    rw [htracker] at hsome ⊢
    rw [hsettled]
    exact h.accepts hsome
  asyncs x hx := (hasyncs x hx).elim (h.asyncs x) id
  adrift o ho := (hadrift o ho).mono fun hnone => by
    rw [htracker] at hnone
    exact ⟨hnone, hpassword hnone⟩

/-- The request that a call waits for was sent by the node as it is. -/
theorem sentBy_waiting (h : Agreed check u w) {x : Waiting} (hx : w.waiting = some x) :
    SentBy u w x.request :=
  ⟨w.node, x.call, h.held.request x hx, fun _ _ => ⟨h.username, fun _ => rfl⟩⟩

theorem sentBy_async (h : Agreed check u w) {x : Exchange} (hx : x ∈ w.asyncs) :
    SentBy u w x.request := by
  obtain ⟨n, call, hrequest, hasync⟩ := h.asyncs x hx
  refine ⟨n, call, hrequest, fun pem hcall => ?_⟩
  rw [hcall] at hasync
  cases hasync

theorem sentBy_adrift {x : Exchange} (hx : SentBy u w x.request) :
    ∀ o ∈ x.adrift, SentBy u w o := by
  intro o ho
  unfold Exchange.adrift at ho
  split at ho
  · rw [List.mem_singleton.1 ho]
    exact hx
  · cases ho

/-- The reply reaches the node. -/
theorem receive (h : Agreed check u w) {x : Waiting} {reply : NodeMessage} (hx : w.waiting = some x)
    (hreply : x.reply = some reply) (readable : Bool) :
    Agreed check u { w with
      node := (w.node.receive readable reply x.call).2, waiting := none } := by
  have hsettled : (w.node.receive readable reply x.call).2.myUser.password = w.settled := by
    rw [settled_of_replied hx hreply, NodeState.password_receive, NodeState.password_receive]
  refine h.local_step (Held.idle rfl (h.held.logged_receive hx hreply readable)) rfl rfl
    (NodeState.username_receive ..) ((settled_of_idle rfl).trans hsettled) ?_
    (fun y hy => .inl hy) h.adrift
  intro hnone
  exact hsettled.trans (h.settled_of_none hnone)

/-- Request or reply is lost, but not an `OK` to a CHANGE_PASSWORD. -/
theorem sendError (h : Agreed check u w) {x : Waiting} (hx : w.waiting = some x)
    (harrives : w.ReplyArrives .sendError) :
    Agreed check u { w with waiting := none, adrift := w.adrift ++ x.adrift } := by
  have hsettled : w.node.myUser.password = w.settled := by
    cases hreply : x.reply with
    | none => exact (settled_of_sent hx hreply).symm
    | some reply =>
      rw [settled_of_replied hx hreply, NodeState.password_receive]
      split
      · rename_i new hcall
        rw [if_neg (harrives x hx (by rw [hcall]; rfl) reply hreply)]
      · rfl
  refine h.local_step (Held.idle rfl h.held.logged) rfl rfl rfl ((settled_of_idle rfl).trans hsettled)
    (fun _ => rfl) (fun y hy => .inl hy) ?_
  intro o ho
  rcases List.mem_append.1 ho with ho | ho
  · exact h.adrift o ho
  · exact sentBy_adrift (h.sentBy_waiting hx) o ho

/-- A reply to `asyncUpdateServer` reaches the node. -/
theorem receiveAsync (h : Agreed check u w) {i : Nat} (r : ResponseType) :
    Agreed check u { w with
      node := (w.node.receiveDefault r).2, asyncs := w.asyncs.eraseIdx i } := by
  have hsame := NodeState.myUser_default w.node r
  exact h.local_step (h.held.default r) rfl rfl (congrArg (·.username) hsame) settled_default
    (fun _ => congrArg (·.password) hsame) (fun y hy => .inl (List.mem_of_mem_eraseIdx hy)) h.adrift

theorem sentAsync (h : Agreed check u w) {c : NodeCall} {o : Outgoing} (hrequest : o = w.node.request c)
    (hasync : c.isAsync = true) : Agreed check u { w with asyncs := w.asyncs ++ [{ request := o }] } := by
  have hheld : Held { w with asyncs := w.asyncs ++ [{ request := o }] } :=
    ⟨h.held.logged, h.held.request, h.held.cookie, h.held.logIn, h.held.logOut⟩
  refine h.local_step hheld rfl rfl rfl rfl (fun _ => rfl) ?_ h.adrift
  intro x hx
  rcases List.mem_append.1 hx with hx | hx
  · exact .inl hx
  · obtain rfl := List.mem_singleton.1 hx
    exact .inr ⟨w.node, c, hrequest, hasync⟩

theorem step (h : Agreed check u w) (hthrough : ThroughNode check u w e) (hfresh : w.FreshCookies e)
    (harrives : w.ReplyArrives e) (hstep : w.step e = some w') : Agreed check u w' := by
  have hheld := h.held.step hfresh hstep
  cases steps_of_step hstep with
  | refused _ _ | sameUser => exact h
  | sent hidle _ =>
    exact h.local_step hheld rfl rfl rfl (settled_of_idle hidle).symm (fun _ => rfl)
      (fun x hx => .inl hx) h.adrift
  | sentAsync hasync hbegin => exact h.sentAsync (NodeState.begin_eq_ok hbegin).1 hasync
  | newUser _ => exact absurd rfl (hthrough.user _)
  | arrive hx hr hreply => exact h.arrive hx hfresh hreply (hthrough.bcrypt _ hr)
  | @arriveAsync i x env hx hr =>
    obtain ⟨n, c, hrequest, hasync⟩ := h.asyncs x (List.mem_of_getElem? hx)
    have hkeeps : KeepsAccount u w.tracker (x.request.to env) := by
      rw [hrequest]
      cases c with
      | asyncUpdateServer networkDesc port =>
        exact keepsAccount_request (fun pem hpem => by cases hpem) rfl n env u w.tracker
      | _ => cases hasync
    refine h.keeps hfresh (hthrough.bcrypt _ hr) hr (account?_handle hkeeps)
      ⟨hheld, rfl, rfl, rfl, fun y hy => ?_, fun o ho => ho⟩ rfl
    rcases List.mem_or_eq_of_mem_set hy with hy | rfl
    · exact ⟨y, hy, rfl⟩
    · exact ⟨x, List.mem_of_getElem? hx, rfl⟩
  | arriveAdrift ho hr => exact h.arriveAdrift ho hfresh harrives (hthrough.bcrypt _ hr)
  | receive hx hreply => exact h.receive hx hreply _
  | receiveAsync _ _ => exact h.receiveAsync _
  | sendError hx => exact h.sendError hx harrives
  | @sendErrorAsync i x hx =>
    refine h.local_step hheld rfl rfl rfl rfl (fun _ => rfl)
      (fun y hy => .inl (List.mem_of_mem_eraseIdx hy)) ?_
    intro o ho
    rcases List.mem_append.1 ho with ho | ho
    · exact h.adrift o ho
    · exact sentBy_adrift (h.sentBy_async (List.mem_of_getElem? hx)) o ho
  | @other r =>
    exact h.keeps hfresh (hthrough.bcrypt r rfl) rfl (account?_handle (hthrough.others r rfl))
      ⟨hheld, rfl, rfl, rfl, fun y hy => ⟨y, hy, rfl⟩, fun o ho => ho⟩ rfl

theorem start {node : Node} {tracker : State}
    (hnew : tracker.db.tables.userId? node.myUser.username = none) :
    Agreed check node.myUser.username (start node tracker) where
  held := Held.start node tracker
  username := rfl
  sessions c l l' hmem := by cases hmem
  account c hmem := by cases hmem
  accepts hsome := by
    rw [Tables.userId?_eq_account, Option.map_eq_none_iff] at hnew
    replace hsome : (tracker.db.tables.account? node.myUser.username).isSome := hsome
    rw [hnew] at hsome
    cases hsome
  asyncs x hx := by cases hx
  adrift o ho := by cases ho

end Agreed

/-- When `changePassword` returns, nobody waits any more. -/
theorem waiting_of_returns {out : NodeCall × NodeError} (hstep : w.step e = some w')
    (hreturns : w.returns e = some out) (hcall : out.1.changesPassword = true) :
    w'.waiting = none := by
  cases steps_of_step hstep with
  | @refused c _ _ _ hidle hbegin =>
    rw [returns, hbegin] at hreturns
    obtain rfl := Option.some_inj.1 hreturns
    apply hidle
    cases c with
    | asyncUpdateServer => cases hcall
    | _ => rfl
  | sent _ hbegin | sentAsync _ hbegin =>
    rw [returns, hbegin] at hreturns
    cases hreturns
  | receive _ _ | sendError _ => rfl
  | _ => cases hreturns

namespace Agreed

variable {check : String → String → Bool} {u : String}

/-- While no `changePassword` is under way, it is the password that the node has. -/
theorem accepted (h : Agreed check u w)
    (hunchanged : ∀ x ∈ w.waiting, x.call.changesPassword = false) : w.PasswordAccepted check := by
  intro hsome
  rw [h.username, Tables.userId?_eq_account, Option.isSome_map] at hsome
  rw [h.username, ← settled_of_unchanged hunchanged]
  exact h.accepts hsome

theorem kept (h : Agreed check u w) (hthrough : ThroughNode check u w e) (hfresh : w.FreshCookies e)
    (harrives : w.ReplyArrives e) : PasswordKept check w e := by
  intro w' hstep out hreturns hcall
  have hidle := waiting_of_returns hstep hreturns hcall
  apply (h.step hthrough hfresh harrives hstep).accepted
  intro x hx
  rw [hidle] at hx
  cases hx

end Agreed

/-- Requests reach the tracker in the sample environment, and those of others leave the account
alone. -/
def Sampled (u : String) : NodeEvent → Prop
  | .arrive env | .arriveAsync _ env | .arriveAdrift _ env => env = Env.sample
  | .other r => r.env = Env.sample ∧ ∀ s, KeepsAccount u s r
  | .setUser _ active => active = true
  | _ => True

theorem env_of_sampled {u : String} (h : Sampled u e) (hr : w.served e = some r) :
    r.env = Env.sample := by
  cases e with
  | arrive env =>
    obtain ⟨x, -, hr⟩ := Option.bind_eq_some_iff.1 hr
    split at hr
    · obtain rfl := Option.some_inj.1 hr
      exact h
    · cases hr
  | arriveAsync i env =>
    obtain ⟨x, -, hr⟩ := Option.bind_eq_some_iff.1 hr
    split at hr
    · obtain rfl := Option.some_inj.1 hr
      exact h
    · cases hr
  | arriveAdrift i env =>
    obtain ⟨o, -, rfl⟩ := Option.map_eq_some_iff.1 hr
    exact h
  | other r' =>
    obtain rfl := Option.some_inj.1 hr
    exact h.1
  | _ => cases hr

/-- The hashes of the passwords that are stored in a step are one word. -/
def OneWord (w : NodeRun) (e : NodeEvent) : Prop :=
  ∀ r ∈ w.served e, ∀ p ∈ newPassword r.message, NoSpace (Env.sample.generateBcrypt p)

instance (w : NodeRun) (e : NodeEvent) : Decidable (w.OneWord e) :=
  inferInstanceAs (Decidable (∀ r ∈ w.served e, ∀ p ∈ newPassword r.message, _))

theorem throughNode_sampled {u : String} {events : List NodeEvent}
    (h : ∀ e ∈ events, Sampled u e) (hword : Along step OneWord w events) :
    Along step (ThroughNode Env.sample.checkBcrypt u) w events := by
  refine along_imp (fun w e he hword => ?_) hword
  have hsampled := h e he
  constructor
  · intro r hr
    have henv := env_of_sampled hsampled hr
    constructor
    · rw [henv]
    · exact rejectsEmpty_sample
    · intro p
      rw [henv]
      exact (checkBcrypt_sample p p).2 rfl
    · intro p hp
      rw [henv]
      exact hword r hr p hp
  · rintro user rfl
    cases hsampled
  · rintro r rfl
    exact hsampled.2 w.tracker

/-- Alice registers, logs in and changes her password. The first request for it is lost, and reaches
the tracker after the second, which is answered `OK`. -/
def changeEvents : List NodeEvent :=
  [.call (.registerUser fun _ => "request") true true, .arrive Env.sample, .receive true,
    .call .logIn true true, .arrive Env.sample, .receive true,
    .call (.changePassword "lost") true true, .sendError,
    .call (.changePassword "new") true true, .arrive Env.sample, .receive true,
    .arriveAdrift 0 Env.sample]

/-- The reply to a change of the password is lost. -/
def lostEvents : List NodeEvent :=
  [.call (.registerUser fun _ => "request") true true, .arrive Env.sample, .receive true,
    .call .logIn true true, .arrive Env.sample, .receive true,
    .call (.changePassword "new") true true, .arrive Env.sample, .sendError]

/-- Bob has the password of alice, and gets her cookie: it is his password that is changed. -/
def sharedEvents : List NodeEvent :=
  [.call (.registerUser fun _ => "request") true true, .arrive Env.sample, .receive true,
    .call .logIn true true, .arrive Env.sample, .receive true,
    .other (.register Env.sample "bob" "secret" "request"), .other (.login Env.sample "bob" "secret"),
    .call (.changePassword "new") true true, .arrive Env.sample, .receive true]

theorem keepsAccount_bob {s : State} {r : Request}
    (hname : username r.message = some "bob")
    (hkind : r.message.requestType ∉ [.changePassword, .unregister, .removeUser]) :
    KeepsAccount "alice" s r where
  register _ name h := by
    obtain rfl := Option.some_inj.1 (hname.symm.trans h)
    decide
  authenticated h := absurd h hkind

end NodeRun

end Sp2p
