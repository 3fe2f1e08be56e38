import Sp2p.Tracker.Listing

/-!
# Who may do what in a network

Listing the servers of a network and adding one are two permissions, each with a query and a flag of
its own: `MaySee` goes by `public`, `MayPublish` by `participable`, and the owner has both. Neither
looks at the invitations. A user who may publish may see exactly in the public networks and in his
own: where he may publish and not see, the network is private and `participable`, and somebody else's
(`canSeeNetwork_iff_of_canAddServer`).
-/

namespace Sp2p.Tracker

open Interleaving Protocol NodeMessageFactory

namespace Request

def listMyNetworks (env : Env) (cookie : String) : Request where
  env := env
  message := { request := some .listMyNetworks, listMyNetworksMessage := some ⟨some cookie⟩ }
  initialized := rfl

def listServers (env : Env) (cookie networkName : String) : Request where
  env := env
  message :=
    { request := some .listServers
      listServersMessage := some ⟨some cookie, some networkName⟩ }
  initialized := rfl

def createNetwork (env : Env) (cookie networkName : String) (accessRights : AccessRights)
    (visibility : Visiblity) (participationRights : ParticipationRights) : Request where
  env := env
  message :=
    { request := some .createNetwork
      createNetworkMessage := some
        { cookie := some cookie, networkName := some networkName, accessRights := some accessRights
          visibility := some visibility, participationRights := some participationRights } }
  initialized := rfl

def inviteUser (env : Env) (cookie username networkName : String) : Request where
  env := env
  message :=
    { request := some .inviteUser
      inviteUserMessage := some ⟨some cookie, some username, some networkName⟩ }
  initialized := rfl

end Request

/-! ### The permissions -/

namespace Tables

/-- The user may list the servers of the network. -/
def MaySee (t : Tables) (u : String) (n : NetworkRow) : Prop :=
  n.publicity = true ∨ some n.ownerId = t.userId? u

/-- The user may add a server to the network. -/
def MayPublish (t : Tables) (u : String) (n : NetworkRow) : Prop :=
  n.participable = true ∨ some n.ownerId = t.userId? u

end Tables

namespace PsqlConnector
variable {fault : Bool} {network u : String} {t : Tables}

theorem canSeeNetwork_iff : canSeeNetwork fault network u t = true ↔
    fault = false ∧ ∃ n, t.network? network = some n ∧ t.MaySee u n := by
  simp [canSeeNetwork, Tables.MaySee, Option.any_eq_true]

theorem canAddServer_iff : canAddServer fault u network t = true ↔
    fault = false ∧ ∃ n, t.network? network = some n ∧ t.MayPublish u n := by
  simp [canAddServer, Tables.MayPublish, Option.any_eq_true]

theorem networkExists_iff :
    networkExists fault network t = true ↔ fault = false ∧ ∃ n, t.network? network = some n := by
  simp [networkExists, Tables.networkId?, Option.isSome_iff_exists]

theorem userExists_iff :
    userExists fault u t = true ↔ fault = false ∧ ∃ uid, t.userId? u = some uid := by
  simp [userExists, Option.isSome_iff_exists]

/-- **A user who may add a server to a network may list its servers exactly when the network is public
or his own.** If he may not list them, the network is private, not his own, and open to the servers of
others. -/
theorem canSeeNetwork_iff_of_canAddServer (hadd : canAddServer fault u network t = true) :
    ∃ n, t.network? network = some n ∧
      (canSeeNetwork false network u t = true ↔
        n.publicity = true ∨ some n.ownerId = t.userId? u) ∧
      (canSeeNetwork false network u t = false →
        n.publicity = false ∧ n.participable = true ∧ some n.ownerId ≠ t.userId? u) := by
  obtain ⟨-, n, hn, hpublish⟩ := canAddServer_iff.1 hadd
  have hsee : canSeeNetwork false network u t = true ↔
      n.publicity = true ∨ some n.ownerId = t.userId? u := by
    rw [canSeeNetwork_iff]
    constructor
    · rintro ⟨-, n', hn', hsee⟩
      obtain rfl := Option.some_inj.1 (hn.symm.trans hn')
      exact hsee
    · intro hsee
      exact ⟨rfl, n, hn, hsee⟩
  refine ⟨n, hn, hsee, fun hblind => ?_⟩
  obtain ⟨hprivate, hother⟩ := not_or.1 (mt hsee.2 (by simp [hblind]))
  -- He may publish, and not as the owner.
  exact ⟨Bool.eq_false_of_not_eq_true hprivate, hpublish.resolve_right hother, hother⟩

/-- Alice has a private network that everybody may add servers to; Bob has an account. -/
def alicesDropbox : Tables :=
  (after [.register Env.sample "alice" "secret" "request", .login Env.sample "alice" "secret",
    .createNetwork Env.sample "c00kie" "dropbox" .priv .listed .clientServer,
    .register Env.sample "bob" "secret" "request"]).db.tables

theorem canSeeNetwork_iff_of_canAddServer_bob :
    ∃ n, alicesDropbox.network? "dropbox" = some n ∧
      (canSeeNetwork false "dropbox" "bob" alicesDropbox = true ↔
        n.publicity = true ∨ some n.ownerId = alicesDropbox.userId? "bob") ∧
      (canSeeNetwork false "dropbox" "bob" alicesDropbox = false →
        n.publicity = false ∧ n.participable = true ∧ some n.ownerId ≠ alicesDropbox.userId? "bob") :=
  canSeeNetwork_iff_of_canAddServer
    (show canAddServer false "bob" "dropbox" alicesDropbox = true by decide +kernel)

/-- Bob may add a server to the network and may not list its servers. -/
theorem canAddServer_not_canSeeNetwork_bob :
    canAddServer false "bob" "dropbox" alicesDropbox = true ∧
      canSeeNetwork false "dropbox" "bob" alicesDropbox = false := by
  decide +kernel

end PsqlConnector

/-! ### The reply of LIST_SERVERS -/

theorem handle_listServers {env : Env} {m : ClientMessage} {s : State} {cookie u network : String}
    (hm : m.requestType = .listServers)
    (hsub : m.listServersMessage = some ⟨some cookie, some network⟩)
    (hauth : AuthenticatedAs m s cookie u) :
    handle env m s =
      (if PsqlConnector.networkExists (env.fault 0) network s.db.tables = false then
          errorMesage .noSuchNetwork
        else if PsqlConnector.canSeeNetwork (env.fault 1) network u s.db.tables = false then
          errorMesage .noPrivilages
        else listServersResponse (PsqlConnector.getServers (env.fault 2) network s.db.tables), s) := by
  rw [handle, handleRequest, hm]
  dsimp only
  unfold handleListServers
  simp only [hsub, hauth.run]
  rw [run_read (c := .networkExists (env.fault 0) network) rfl]
  split
  · rfl
  · rw [run_read (c := .canSeeNetwork (env.fault 1) network u) rfl]
    split
    · rfl
    · rfl

end Sp2p.Tracker
