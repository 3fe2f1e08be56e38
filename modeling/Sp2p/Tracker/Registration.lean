import Sp2p.Tracker.Run

/-!
# Server registrations

What an UPDATE_SERVER and a LIST_SERVERS that are answered `OK` have found and done
(`handle_updateServer_ok`, `handle_listServers_ok`). A first registration stores a row; any other
leaves the row there is. `Registered.exists_row` says that after a run the row of a user's first
registration is still as it was stored, unless it was removed.
-/

namespace Sp2p.Tracker

open Interleaving Protocol NodeMessageFactory
open Framing (toInt32)

variable {env : Env} {m : ClientMessage} {s : State}

/-- A handler whose answer is `OK` got past the check. -/
theorem ok_guard {c : Bool} {r : ResponseType} {k : Handler} (hr : r ≠ .ok)
    (hok : ((if c = false then pure (errorMesage r) else k : Handler).run exec s).1.isOk) :
    c = true := by
  cases c with
  | true => rfl
  | false => exact absurd ((isOk_errorMesage r).1 hok) hr

/-- A handler whose answer is `OK` found a login under the cookie. -/
theorem ok_authenticated {cookie : String} {k : String → Handler} (hc : m.cookie = some cookie)
    (hok : ((authenticated cookie k).run exec s).1.isOk) :
    ∃ u, AuthenticatedAs m s cookie u := by
  refine ⟨s.sessions.getLogin cookie, hc, rfl, fun hu => ?_⟩
  rw [run_authenticated, if_pos hu] at hok
  exact absurd ((isOk_errorMesage _).1 hok) (by decide)

/-- A call that only reads. -/
theorem run_read {α : Type} {c : Call} {a : c.Ans} {k : c.Ans → Prog shared α}
    (h : exec c s = (a, s)) : (callShared c >>= k).run exec s = (k a).run exec s := by
  rw [run_callShared, h]

/-- A successful `updateServer` finds the row there is, or stores one. -/
theorem PsqlConnector.updateServer_ok {fault : Bool} {network user ip : String} {port ttl : Int}
    {t : Tables} (h : (updateServer fault network user ip port ttl t).1 = .ok) :
    (∃ row, t.servers.find? (t.userId? user) (t.networkId? network) = some row ∧
      (updateServer fault network user ip port ttl t).2 = t) ∨
      ∃ addr uid nid, BpChar.ofText 20 ip = some addr ∧ t.userId? user = some uid ∧
        t.networkId? network = some nid ∧ t.servers.find? (some uid) (some nid) = none ∧
        (updateServer fault network user ip port ttl t).2 =
          { t with servers := t.servers.push uid nid ⟨addr, port, ttl⟩ } := by
  unfold updateServer at h ⊢
  cases haddr : BpChar.ofText 20 ip with
  | none => simp [haddr] at h
  | some addr =>
    cases fault with
    | true => simp [haddr] at h
    | false =>
      cases hrow : t.servers.find? (t.userId? user) (t.networkId? network) with
      | some row => exact .inl ⟨row, rfl, by simp⟩
      | none =>
        right
        simp only [haddr, hrow, Option.isSome_none, Bool.false_eq_true, if_false] at h ⊢
        rcases work_cases false (by decide : DBResponse.notFound ≠ .ok) t
          (t.insertServer network user ⟨addr, port, ttl⟩) with ⟨t', -, hx, hw⟩ | ⟨-, hne, -⟩
        · obtain ⟨uid, nid, hu, hn, hnew, rfl⟩ := Tables.insertServer_eq_ok.1 hx
          exact ⟨addr, uid, nid, rfl, hu, hn, hnew, by rw [hw]⟩
        · exact absurd h hne

/-- What a registration of the user's server leaves behind: a new row, or the state as it was. -/
inductive Registers (env : Env) (network u : String) (port : Int) (s s' : State) : Prop
  | fresh {addr : BpChar 20} {uid nid : Nat} (haddr : BpChar.ofText 20 env.address = some addr)
      (hu : s.db.tables.userId? u = some uid) (hn : s.db.tables.networkId? network = some nid)
      (hnew : s.db.tables.servers.find? (some uid) (some nid) = none)
      (ht : s'.db.tables =
        { s.db.tables with
          servers := s.db.tables.servers.push uid nid
            ⟨addr, port, toInt32 (env.currTimeInMS + SERVER_TTL)⟩ })
      (hs : s'.sessions = s.sessions)
  | known {row : LinkRow ServerData}
      (hrow : s.db.tables.servers.find? (s.db.tables.userId? u) (s.db.tables.networkId? network) =
        some row) (hs : s' = s)

theorem exec_updateServer_ok {fault : Bool} {network u ip : String} {port ttl : Int}
    (hip : ip = env.address) (httl : ttl = toInt32 (env.currTimeInMS + SERVER_TTL))
    (hok : (exec (.updateServer fault network u ip port ttl) s).1 = .ok) :
    Registers env network u port s (exec (.updateServer fault network u ip port ttl) s).2 := by
  have hvalid := PsqlConnector.valid_updateServer s.db.valid fault network u ip port ttl
  have hexec : exec (.updateServer fault network u ip port ttl) s = s.write _ hvalid := rfl
  rw [hexec, write_fst] at hok
  rw [hexec]
  rcases PsqlConnector.updateServer_ok hok with
    ⟨row, hrow, hkept⟩ | ⟨addr, uid, nid, haddr, hu, hn, hnew, ht⟩
  · rw [write_eq_self hvalid hkept]
    exact .known hrow rfl
  · subst hip httl
    refine .fresh haddr hu hn hnew ?_ (write_sessions ..)
    rw [write_tables]
    exact ht

/-- What an UPDATE_SERVER that is answered `OK` did. -/
structure UpdatedServer (env : Env) (m : ClientMessage) (s : State) (sub : ClientMessage.UpdateServer)
    (u : String) (out : NodeMessage × State) : Prop where
  message : m.updateServerMessage = some sub
  login : AuthenticatedAs m s (sub.cookie.getD "") u
  reply : out.1 = updateServerResponse SERVER_TTL
  registers : Registers env (sub.networkName.getD "") u (sub.portNumber.getD 0) s out.2

theorem handle_updateServer_ok (hm : m.requestType = .updateServer) (hok : (handle env m s).1.isOk) :
    ∃ sub u, UpdatedServer env m s sub u (handle env m s) := by
  rw [handle, handleRequest, hm] at hok ⊢
  dsimp only at hok ⊢
  unfold handleUpdateServer at hok ⊢
  cases hsub : m.updateServerMessage with
  | none =>
    rw [hsub] at hok
    exact absurd ((isOk_errorMesage _).1 hok) (by decide)
  | some sub =>
    simp only [hsub] at hok
    have hc : m.cookie = some (sub.cookie.getD "") := by simp [ClientMessage.cookie, hm, hsub]
    obtain ⟨u, hauth⟩ := ok_authenticated hc hok
    refine ⟨sub, u, ?_⟩
    simp only [hauth.run] at hok ⊢
    rw [run_read (c := .networkExists (env.fault 0) (sub.networkName.getD "")) rfl] at hok ⊢
    have hfound := ok_guard (by decide) hok
    simp only [hfound, Bool.true_eq_false, if_false] at hok ⊢
    rw [run_read (c := .canAddServer (env.fault 1) u (sub.networkName.getD "")) rfl] at hok ⊢
    have hallowed := ok_guard (by decide) hok
    simp only [hallowed, Bool.true_eq_false, if_false] at hok ⊢
    have hreg : (exec (.updateServer (env.fault 2) (sub.networkName.getD "") u env.address
        (sub.portNumber.getD 0) (toInt32 (env.currTimeInMS + SERVER_TTL))) s).1 = .ok →
        Registers env (sub.networkName.getD "") u (sub.portNumber.getD 0) s _ :=
      exec_updateServer_ok rfl rfl
    rw [run_callShared] at hok ⊢
    generalize exec (.updateServer (env.fault 2) (sub.networkName.getD "") u env.address
      (sub.portNumber.getD 0) (toInt32 (env.currTimeInMS + SERVER_TTL))) s = out at hok hreg ⊢
    obtain ⟨r, s'⟩ := out
    cases r with
    | ok => exact ⟨hsub, hauth, rfl, hreg rfl⟩
    | internalError | notFound | notPermited | notUnique =>
      cases (isOk_errorMesage _).1 hok

/-! ### Along a run -/

structure Registration where
  user : String
  ip : String
  port : Int

/-- The request is an UPDATE_SERVER for the network, answered `OK`, of a user who has no server
there. -/
structure FirstRegistration (s : State) (r : Request) (uid nid : Nat) (reg : Registration) : Prop where
  type : r.message.requestType = .updateServer
  ok : (r.handle s).1.isOk
  login : ∃ cookie, AuthenticatedAs r.message s cookie reg.user
  user : s.db.tables.userId? reg.user = some uid
  network : (r.message.updateServerMessage.bind fun sub =>
    s.db.tables.networkId? (sub.networkName.getD "")) = some nid
  port : r.message.updateServerMessage.map (·.portNumber.getD 0) = some reg.port
  address : r.env.address = reg.ip
  first : s.db.tables.servers.find? (some uid) (some nid) = none

/-- In the run from `s` the user registered a server for the network, for the first time, and since
then it was not removed. -/
def Registered (s : State) (rs : List Request) (nid : Nat) (reg : Registration) : Prop :=
  ∃ before r since uid, rs = before ++ r :: since ∧
    FirstRegistration (afterFrom s before) r uid nid reg ∧
    ∀ part, part <+: since →
      ((afterFrom s (before ++ r :: part)).db.tables.servers.find? (some uid) (some nid)).isSome

/-- The stored row holds the registration's address and port. -/
structure StoredAs (row : LinkRow ServerData) (nid : Nat) (reg : Registration) : Prop where
  network : row.networkId = nid
  address : BpChar.ofText 20 reg.ip = some row.data.ip
  port : row.data.port = reg.port

theorem FirstRegistration.exists_row {r : Request} {uid nid : Nat} {reg : Registration}
    (h : FirstRegistration s r uid nid reg) :
    ∃ row, (r.handle s).2.db.tables.servers.find? (some uid) (some nid) = some row ∧
      StoredAs row nid reg := by
  obtain ⟨sub, u, hupd⟩ := handle_updateServer_ok h.type h.ok
  obtain ⟨cookie, hauth⟩ := h.login
  have hcookie : cookie = sub.cookie.getD "" :=
    Option.some_inj.1 (hauth.presents.symm.trans hupd.login.presents)
  obtain rfl : u = reg.user := by
    rw [← hupd.login.login, ← hcookie]
    exact hauth.login
  have hnid : s.db.tables.networkId? (sub.networkName.getD "") = some nid := by
    have := h.network
    rwa [hupd.message] at this
  have hport : sub.portNumber.getD 0 = reg.port := by
    have := h.port
    rwa [hupd.message, Option.map_some, Option.some_inj] at this
  cases hupd.registers with
  | known hrow _ =>
    rw [h.user, hnid, h.first] at hrow
    cases hrow
  | @fresh addr _ _ haddr hu hn hnew ht _ =>
    obtain rfl := Option.some_inj.1 (h.user.symm.trans hu)
    obtain rfl := Option.some_inj.1 (hnid.symm.trans hn)
    have hfind := LinkTable.find?_push (d := (⟨addr, sub.portNumber.getD 0,
      toInt32 (r.env.currTimeInMS + SERVER_TTL)⟩ : ServerData)) hnew
    rw [← Request.handle] at ht
    rw [ht]
    exact ⟨_, hfind, rfl, h.address ▸ haddr, hport⟩

/-- A row that is not removed along a run is there at its end as it was. -/
theorem find?_afterFrom {uid nid : Nat} {row : LinkRow ServerData} (rs : List Request) :
    ∀ {s : State}, s.db.tables.servers.find? (some uid) (some nid) = some row →
      (∀ part, part <+: rs →
        ((afterFrom s part).db.tables.servers.find? (some uid) (some nid)).isSome) →
      (afterFrom s rs).db.tables.servers.find? (some uid) (some nid) = some row := by
  induction rs with
  | nil =>
    intro s hrow _
    exact hrow
  | cons r rs ih =>
    intro s hrow hstays
    have hnext : (r.handle s).2.db.tables.servers.find? (some uid) (some nid) = some row := by
      rcases (r.outcome s).links.1.find? hrow with hsame | hgone
      · exact hsame
      · have := hstays [r] (by simp)
        rw [afterFrom_cons, afterFrom_nil, hgone] at this
        cases this
    refine ih hnext fun part hpart => ?_
    have := hstays (r :: part) (List.cons_prefix_cons.2 ⟨rfl, hpart⟩)
    rwa [afterFrom_cons] at this

theorem Registered.exists_row {rs : List Request} {nid : Nat} {reg : Registration}
    (h : Registered s rs nid reg) :
    ∃ row ∈ (afterFrom s rs).db.tables.servers.rows, StoredAs row nid reg := by
  obtain ⟨before, r, since, uid, rfl, hfirst, hstays⟩ := h
  obtain ⟨row, hrow, hholds⟩ := hfirst.exists_row
  refine ⟨row, ?_, hholds⟩
  rw [afterFrom_append, afterFrom_cons]
  refine List.mem_of_find?_eq_some (find?_afterFrom since hrow fun part hpart => ?_)
  have := hstays part hpart
  rwa [afterFrom_append, afterFrom_cons] at this

/-! ### Listing -/

/-- What a LIST_SERVERS that is answered `OK` did. -/
theorem handle_listServers_ok (hm : m.requestType = .listServers) (hok : (handle env m s).1.isOk) :
    ∃ cookie network, m.listServersMessage = some ⟨some cookie, some network⟩ ∧
      handle env m s = (listServersResponse
        (PsqlConnector.getServers (env.fault 2) network s.db.tables), s) := by
  rw [handle, handleRequest, hm] at hok ⊢
  dsimp only at hok ⊢
  unfold handleListServers at hok ⊢
  rcases hsub : m.listServersMessage with _ | ⟨_ | cookie, _ | network⟩
  case some.some.some =>
    simp only [hsub] at hok
    have hc : m.cookie = some cookie := by simp [ClientMessage.cookie, hm, hsub]
    obtain ⟨u, hauth⟩ := ok_authenticated hc hok
    refine ⟨cookie, network, rfl, ?_⟩
    simp only [hauth.run] at hok ⊢
    rw [run_read (c := .networkExists (env.fault 0) network) rfl] at hok ⊢
    have hfound := ok_guard (by decide) hok
    simp only [hfound, Bool.true_eq_false, if_false] at hok ⊢
    rw [run_read (c := .canSeeNetwork (env.fault 1) network u) rfl] at hok ⊢
    have hallowed := ok_guard (by decide) hok
    simp only [hallowed, Bool.true_eq_false, if_false]
    rfl
  all_goals
    rw [hsub] at hok
    cases (isOk_errorMesage _).1 hok

/-- The listing of a network has an entry for each of its rows. -/
theorem getServers_eq (h : s.db.tables.Valid) {network : String} {nid : Nat}
    (hnid : s.db.tables.networkId? network = some nid) :
    PsqlConnector.getServers false network s.db.tables =
      (s.db.tables.servers.rows.filter (·.networkId = nid)).map fun r =>
        { networkName := network, ip := toStdString r.data.ip.out, port := r.data.port } := by
  unfold PsqlConnector.getServers
  rw [if_neg (by simp), hnid]
  congr 1
  refine List.filter_congr fun r hr => ?_
  obtain ⟨u, hu, hid⟩ := h.servers.user r hr
  have hany : s.db.tables.users.any (·.id = r.userId) = true :=
    List.any_eq_true.2 ⟨u, hu, by simpa using hid⟩
  rw [hany, Bool.and_true]
  simp

end Sp2p.Tracker
