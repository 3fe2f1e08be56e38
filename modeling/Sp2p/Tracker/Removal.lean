import Sp2p.Tracker.Invitations
import Sp2p.Tracker.SessionLife

/-!
# Removing a user from a network

`RemovesMembership` is what a REMOVE_USER is to do: what ties the named user to the named network
goes. `deleteInvitation` would take the invitation, but no handler calls it. The handler takes only
the cookie from the message, and removes the account that the cookie stands for
(`handle_removeUser_ok`), so no owner ever removes a member (`removeUser_not_membership`).
-/

namespace Sp2p.Tracker

open Interleaving Protocol NodeMessageFactory

/-- `DELETE FROM invitations WHERE network_id=(..) AND user_id=(..)`. -/
def Tables.deleteInvitation (t : Tables) (network login : String) : Tables :=
  { t with
    invitations := t.invitations.drop fun u n =>
      some u = t.userId? login && some n = t.networkId? network }

def PsqlConnector.deleteInvitation (fault : Bool) (login networkName : String) (t : Tables) :
    DBResponse × Tables :=
  work fault .notFound t (.ok (t.deleteInvitation networkName login))

/-- The user's rows for the network go, and everything else stays. -/
structure RemovesMembership (username network : String) (s s' : State) : Prop where
  users : s'.db.tables.users = s.db.tables.users
  networks : s'.db.tables.networks = s.db.tables.networks
  servers : s'.db.tables.servers = s.db.tables.servers.drop fun u n =>
    some u = s.db.tables.userId? username && some n = s.db.tables.networkId? network
  invitations : s'.db.tables.invitations = s.db.tables.invitations.drop fun u n =>
    some u = s.db.tables.userId? username && some n = s.db.tables.networkId? network
  publicKey : s'.db.tables.publicKey = s.db.tables.publicKey.drop fun u n =>
    some u = s.db.tables.userId? username && some n = s.db.tables.networkId? network
  sessions : s'.sessions = s.sessions

/-- The account goes with its networks and everything that hangs on them, and the session with it. -/
structure RemovesAccount (cookie u : String) (uid : Nat) (s s' : State) : Prop where
  tables : s'.db.tables = s.db.tables.deleteUserRow uid
  free : s'.db.tables.userId? u = none
  networks : ∀ n ∈ s'.db.tables.networks, n.ownerId ≠ uid
  session : s'.sessions = (s.sessions.logout cookie).2

/-- The invitations table after `deleteInvitation`, which touches no other table. -/
theorem PsqlConnector.deleteInvitation_ok {fault : Bool} {login networkName : String} {t : Tables}
    (hok : (deleteInvitation fault login networkName t).1 = .ok) :
    (deleteInvitation fault login networkName t).2 =
      { t with
        invitations := t.invitations.drop fun u n =>
          some u = t.userId? login && some n = t.networkId? networkName } := by
  rcases work_cases fault (by decide : DBResponse.notFound ≠ .ok) t
    (.ok (t.deleteInvitation networkName login)) with ⟨t', -, ht, hw⟩ | ⟨-, hne, -⟩
  · rw [deleteInvitation, hw, ← Except.ok.inj ht]
    rfl
  · exact absurd hok hne

variable {env : Env} {m : ClientMessage} {s : State}

/-- A REMOVE_USER that is answered `OK` removes the account of the user who sends it. -/
theorem handle_removeUser_ok {cookie u : String} {uid : Nat} (hm : m.requestType = .removeUser)
    (hauth : AuthenticatedAs m s cookie u) (huid : s.db.tables.userId? u = some uid)
    (hok : (handle env m s).1.isOk) : RemovesAccount cookie u uid s (handle env m s).2 := by
  obtain ⟨s', he, ht, hs⟩ := @handle_removeUser env _ _ _ _ hm hauth
  rw [he] at hok ⊢
  rw [isOk_errorMesage, dbError_eq_ok (by decide)] at hok
  have hfault : env.fault 0 = false := by
    by_contra hf
    rw [Bool.not_eq_false] at hf
    rw [hf] at hok
    cases hok
  have hdelete : s'.db.tables = s.db.tables.deleteUser u := by
    rw [ht, PsqlConnector.removeUser_snd, hfault]
    rfl
  have hrow : s'.db.tables = s.db.tables.deleteUserRow uid := by
    rw [hdelete, Tables.deleteUser, huid]
  refine ⟨hrow, ?_, fun n hn => ?_, hs⟩
  · show s'.db.tables.userId? u = none
    rw [hdelete]
    exact userId?_deleteUser_self s.db.valid rfl
  · have hn : n ∈ s'.db.tables.networks := hn
    rw [hrow] at hn
    simpa using (List.mem_filter.1 hn).2

/-- **A REMOVE_USER that is answered `OK` never removes the named user's membership and nothing else,
whoever sends it, the network's owner or another account: it is the sender's account that goes, with
its networks.** -/
theorem removeUser_not_membership {cookie u username network : String} {uid : Nat}
    (hm : m.requestType = .removeUser)
    (hsub : m.removeUserMessage = some ⟨some cookie, some username, some network⟩)
    (hlogin : s.sessions.getLogin cookie = u) (hlive : u ≠ "")
    (huid : s.db.tables.userId? u = some uid) (hok : (handle env m s).1.isOk) :
    ¬ RemovesMembership username network s (handle env m s).2 ∧
      RemovesAccount cookie u uid s (handle env m s).2 := by
  have hauth : AuthenticatedAs m s cookie u := ⟨by simp [ClientMessage.cookie, hm, hsub], hlogin, hlive⟩
  have haccount := handle_removeUser_ok hm hauth huid hok
  refine ⟨fun hmember => ?_, haccount⟩
  have hfree := haccount.free
  rw [Tables.userId?, hmember.users, ← Tables.userId?, huid] at hfree
  cases hfree

/-- Alice removes Bob, whom she invited, from her network. -/
def removeBob : ClientMessage where
  request := some .removeUser
  removeUserMessage := some ⟨some "c00kie", some "bob", some "den"⟩

theorem removeUser_not_membership_bob :
    ¬ RemovesMembership "bob" "den" (after bobInvited)
        (handle Env.sample removeBob (after bobInvited)).2 ∧
      RemovesAccount "c00kie" "alice" 1 (after bobInvited)
        (handle Env.sample removeBob (after bobInvited)).2 :=
  removeUser_not_membership rfl rfl state_bobInvited.1 (by decide) state_bobInvited.2.2.1
    (by decide +kernel)

/-- Alice's account and her network are gone, and Bob still has his. -/
theorem removeUser_removes_alice :
    (handle Env.sample removeBob (after bobInvited)).1.isOk ∧
      (handle Env.sample removeBob (after bobInvited)).2.db.tables.users.map (·.login.text) = ["bob"] ∧
      (handle Env.sample removeBob (after bobInvited)).2.db.tables.networks = [] ∧
      ¬ RemovesMembership "bob" "den" (after bobInvited)
        (handle Env.sample removeBob (after bobInvited)).2 := by
  have hgone : (handle Env.sample removeBob (after bobInvited)).1.isOk ∧
      (handle Env.sample removeBob (after bobInvited)).2.db.tables.users.map (·.login.text) = ["bob"] ∧
      (handle Env.sample removeBob (after bobInvited)).2.db.tables.networks = [] := by
    decide +kernel
  obtain ⟨hok, husers, hnets⟩ := hgone
  refine ⟨hok, husers, hnets, fun h => ?_⟩
  -- the network is there before, so a removal of a member would have left it
  obtain ⟨n, hn, -⟩ := Option.map_eq_some_iff.1 state_bobInvited.2.2.2.2
  have hmem := List.mem_of_find?_eq_some hn
  rw [← h.networks, hnets] at hmem
  cases hmem

end Sp2p.Tracker
