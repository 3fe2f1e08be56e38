import Sp2p.Tracker.Failure
import Sp2p.Tracker.Upsert

/-!
# Stopping a server

`StopsTruthfully` is what a STOP_SERVER is to do: the user's row for the network goes, nothing else
changes, and the answer is `OK` exactly when there was a row. The row goes and nothing else changes
(`deleteServer_removes`), but `deleteServer` asks for the size of the result, which is 0 for every
`DELETE`, where `deleteNetwork` asks for the number of rows deleted. So the answer is never `OK`, and
right exactly when there was no row (`stopServer_truthful_iff`).
-/

namespace Sp2p.Tracker

open Interleaving Protocol NodeMessageFactory

namespace Tables

/-- The user's row for the network, if there is one. -/
def server? (t : Tables) (user network : String) : Option (LinkRow ServerData) :=
  t.servers.find? (t.userId? user) (t.networkId? network)

/-- The row is the user's for the network. -/
def IsServer (t : Tables) (user network : String) (r : LinkRow ServerData) : Bool :=
  some r.userId = t.userId? user && some r.networkId = t.networkId? network

/-- The row of the user for the network is not there any more, and all other rows of all tables are. -/
structure RemovesServer (user network : String) (t t' : Tables) : Prop where
  gone : t'.server? user network = none
  others : (t'.servers.rows.filter fun r => !t.IsServer user network r) =
    t.servers.rows.filter fun r => !t.IsServer user network r
  rest : { t' with servers := t.servers } = t

variable {t : Tables} {user network : String}

theorem server?_eq_none :
    t.server? user network = none ↔ ∀ r ∈ t.servers.rows, t.IsServer user network r = false := by
  unfold server? LinkTable.find?
  rw [List.find?_eq_none]
  apply forall₂_congr
  intro r _
  exact iff_of_eq (Bool.not_eq_true _)

theorem rows_deleteServer (t : Tables) (network user : String) :
    (t.deleteServer network user).2.servers.rows =
      t.servers.rows.filter fun r => !t.IsServer user network r := rfl

/-- The statement does what it is for. -/
theorem deleteServer_removes (t : Tables) (network user : String) :
    RemovesServer user network t (t.deleteServer network user).2 where
  gone := by
    apply server?_eq_none.2
    intro r hr
    rw [rows_deleteServer, List.mem_filter, Bool.not_eq_true'] at hr
    exact hr.2
  others := by
    rw [rows_deleteServer, List.filter_filter]
    congr 1
    funext r
    exact Bool.and_self _
  rest := rfl

/-- The number of rows deleted would tell whether there was one. -/
theorem affectedRows_deleteServer (t : Tables) (network user : String) :
    (t.deleteServer network user).1.affectedRows = 0 ↔ t.server? user network = none := by
  show (t.servers.rows.countP fun r => t.IsServer user network r) = 0 ↔ _
  rw [List.countP_eq_zero, server?_eq_none]
  apply forall₂_congr
  intro r _
  exact iff_of_eq (Bool.not_eq_true _)

end Tables

/-- The answer is `OK` when there was a row and an error when there was none, and then the state is
as it was; the row is not there afterwards, and all else is. -/
structure StopsTruthfully (user network : String) (s : State) (out : NodeMessage × State) : Prop where
  reply : out.1.isOk ↔ (s.db.tables.server? user network).isSome
  removes : Tables.RemovesServer user network s.db.tables out.2.db.tables
  sessions : out.2.sessions = s.sessions
  kept : s.db.tables.server? user network = none → out.2 = s

variable {env : Env} {m : ClientMessage} {s : State} {cookie u network : String}

/-- What a STOP_SERVER of a live session does: the row goes, and the answer is an error. -/
theorem handle_stopServer (hm : m.requestType = .stopServer)
    (hsub : m.stopServerMessage = some ⟨some cookie, some network⟩)
    (hauth : AuthenticatedAs m s cookie u) (hnet : (s.db.tables.networkId? network).isSome)
    (hfault : env.fault 0 = false ∧ env.fault 1 = false) :
    ∃ s', handle env m s = (errorMesage .badRequest, s') ∧
      s'.db.tables = (s.db.tables.deleteServer network u).2 ∧ s'.sessions = s.sessions := by
  have hfound : (exec (.networkExists (env.fault 0) network) s).1 = true := by
    show (!env.fault 0 && (s.db.tables.networkId? network).isSome) = true
    rw [hfault.1, hnet]
    rfl
  rcases exec_deleteServer (env.fault 1) network u s with ⟨s', -, ht, hs, he⟩ | ⟨hf, -⟩
  · refine ⟨s', ?_, ht, hs⟩
    simp only [handle, handleRequest, hm, handleStopServer, hsub, Option.getD_some]
    rw [hauth.run, run_callShared, hfound, if_neg (by decide)]
    show Prog.run exec (callShared _ >>= _) s = _
    rw [run_callShared, he]
    rfl
  · rw [hfault.2] at hf
    cases hf

/-- A session with the empty login is refused. -/
theorem handle_stopServer_empty (hm : m.requestType = .stopServer)
    (hsub : m.stopServerMessage = some ⟨some cookie, some network⟩)
    (hlogin : s.sessions.getLogin cookie = "") :
    handle env m s = (errorMesage .notLogged, s) := by
  simp only [handle, handleRequest, hm, handleStopServer, hsub, Option.getD_some]
  rw [run_authenticated, if_pos hlogin]

/-- An error is the truth when there was no row and nothing changed. -/
theorem stopsTruthfully_of_error {r : ResponseType} (hr : r ≠ .ok)
    (hnone : s.db.tables.server? u network = none) :
    StopsTruthfully u network s (errorMesage r, s) where
  reply := by rw [hnone, isOk_errorMesage]; simpa using hr
  removes := ⟨hnone, rfl, rfl⟩
  sessions := rfl
  kept _ := rfl

/-- **STOP_SERVER tells the truth exactly when there was no server to stop.** -/
theorem stopServer_truthful_iff (hm : m.requestType = .stopServer)
    (hsub : m.stopServerMessage = some ⟨some cookie, some network⟩)
    (hlive : s.sessions.loginOf cookie = some u) (hnet : (s.db.tables.networkId? network).isSome)
    (hfault : ∀ k, env.fault k = false) :
    StopsTruthfully u network s (handle env m s) ↔ s.db.tables.server? u network = none := by
  have hlogin : s.sessions.getLogin cookie = u := by simp [SessionControler.getLogin, hlive]
  obtain ⟨r, s', he, hr, hkept⟩ : ∃ r s', handle env m s = (errorMesage r, s') ∧ r ≠ .ok ∧
      (s.db.tables.server? u network = none → s' = s) := by
    by_cases hu : u = ""
    · rw [hu] at hlogin
      exact ⟨_, s, handle_stopServer_empty hm hsub hlogin, by decide, fun _ => rfl⟩
    · have hauth : AuthenticatedAs m s cookie u :=
        ⟨by simp [ClientMessage.cookie, hm, hsub], hlogin, hu⟩
      obtain ⟨s', he, ht, hs⟩ := handle_stopServer hm hsub hauth hnet ⟨hfault 0, hfault 1⟩
      refine ⟨_, s', he, by decide, fun hnone => ?_⟩
      exact State.ext_of (ht.trans (deleteServer_eq_self hnone)) hs
  rw [he]
  constructor
  · intro h
    have hreply := h.reply
    rw [isOk_errorMesage] at hreply
    rw [← Option.not_isSome_iff_eq_none, ← hreply]
    exact hr
  · intro hnone
    rw [hkept hnone]
    exact stopsTruthfully_of_error hr hnone

/-- Bob stops a server on his network. -/
def stopBob : ClientMessage where
  request := some .stopServer
  stopServerMessage := some ⟨some "c00kie", some "net"⟩

/-- Bob has no server yet. -/
theorem stopServer_truthful_bob :
    StopsTruthfully "bob" "net" bobsNetwork (handle Env.sample stopBob bobsNetwork) := by
  obtain ⟨hlogin, hu, hn, hnone⟩ := state_bobsNetwork
  have hlive : bobsNetwork.sessions.loginOf "c00kie" = some "bob" := by
    rw [← hlogin]
    apply SessionControler.loginOf_of_getLogin
    rw [hlogin]
    decide
  apply (stopServer_truthful_iff rfl rfl hlive (by rw [hn]; rfl) fun _ => rfl).2
  rw [Tables.server?, hu, hn, hnone]

/-- He has one now: it is deleted, and he is told that the request was bad. -/
theorem stopServer_lies_bob :
    bobsServer.sessions.getLogin "c00kie" = "bob" ∧
      (bobsServer.db.tables.networkId? "net").isSome ∧
      (bobsServer.db.tables.server? "bob" "net").isSome ∧
      (handle Env.sample stopBob bobsServer).1 = errorMesage .badRequest ∧
      (handle Env.sample stopBob bobsServer).2.db.tables.server? "bob" "net" = none ∧
      ¬ StopsTruthfully "bob" "net" bobsServer (handle Env.sample stopBob bobsServer) := by
  obtain ⟨hlogin, hnet, hrow, hreply, hgone⟩ : bobsServer.sessions.getLogin "c00kie" = "bob" ∧
      (bobsServer.db.tables.networkId? "net").isSome ∧
      (bobsServer.db.tables.server? "bob" "net").isSome ∧
      (handle Env.sample stopBob bobsServer).1 = errorMesage .badRequest ∧
      (handle Env.sample stopBob bobsServer).2.db.tables.server? "bob" "net" = none := by
    decide +kernel
  refine ⟨hlogin, hnet, hrow, hreply, hgone, fun h => ?_⟩
  have hok := h.reply.2 hrow
  rw [hreply, isOk_errorMesage] at hok
  cases hok

end Sp2p.Tracker
