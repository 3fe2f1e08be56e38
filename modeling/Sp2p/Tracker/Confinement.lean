import Sp2p.Tracker.Run

/-!
# Confinement of effects

What a user's request can change: the user's own account, the networks the user owns, and the
servers, invitations and keys that belong to the user or to such a network. INVITE_USER is the one
request that writes for somebody else. A changed row counts as a removed and an added one, so
`ChangesOnly` looks at the rows that are in one of the two tables only.
-/

namespace Sp2p.Tracker

open Interleaving Protocol

/-- The rows in one of the two tables only are such. -/
def ChangesOnly {α : Type} (P : α → Prop) (l l' : List α) : Prop :=
  ∀ r, ¬ (r ∈ l ↔ r ∈ l') → P r

namespace ChangesOnly
variable {α : Type} {P : α → Prop}

theorem refl (l : List α) : ChangesOnly P l l := fun _ h => absurd Iff.rfl h

/-- Rows were added at the end. -/
theorem append {l l' : List α} (h : ∀ r ∈ l', P r) : ChangesOnly P l (l ++ l') := by
  intro r hr
  by_contra hP
  apply hr
  simp only [List.mem_append]
  exact ⟨.inl, fun hm => hm.resolve_right fun hm => hP (h r hm)⟩

/-- Rows were deleted. -/
theorem filter {l : List α} {p : α → Bool} (h : ∀ r ∈ l, p r = false → P r) :
    ChangesOnly P l (l.filter p) := by
  intro r hr
  by_contra hP
  apply hr
  simp only [List.mem_filter]
  refine ⟨fun hm => ⟨hm, ?_⟩, fun hm => hm.1⟩
  cases hp : p r with
  | true => rfl
  | false => exact absurd (h r hm hp) hP

end ChangesOnly

/-- The user is the user's. -/
def OwnUser (u : String) (r : UserRow) : Prop := r.login.text = rstrip u

def OwnNetwork (t : Tables) (u : String) (n : NetworkRow) : Prop := some n.ownerId = t.userId? u

/-- The row is the user's, or of a network the user owns. -/
def OwnLink {δ : Type} (t : Tables) (u : String) (r : LinkRow δ) : Prop :=
  some r.userId = t.userId? u ∨ ∃ n ∈ t.networks, n.id = r.networkId ∧ OwnNetwork t u n

/-- Of the tables only what is the user's changes. -/
structure OwnChanges (u : String) (t t' : Tables) : Prop where
  users : ChangesOnly (OwnUser u) t.users t'.users
  networks : ChangesOnly (OwnNetwork t u) t.networks t'.networks
  servers : ChangesOnly (OwnLink t u) t.servers.rows t'.servers.rows
  invitations : ChangesOnly (OwnLink t u) t.invitations.rows t'.invitations.rows
  publicKey : ChangesOnly (OwnLink t u) t.publicKey.rows t'.publicKey.rows

/-- The presented cookie's session is the only one that changes. -/
def OwnSession (cookie : String) (sc sc' : SessionControler) : Prop :=
  ∀ c, c ≠ cookie → sc'.loginOf c = sc.loginOf c ∧ sc'.cookieToTime[c]? = sc.cookieToTime[c]?

/-- The step changes nothing that is not the user's. -/
structure Confined (u cookie : String) (s s' : State) : Prop where
  tables : OwnChanges u s.db.tables s'.db.tables
  sessions : OwnSession cookie s.sessions s'.sessions

/-! ### The statements, run for the user -/

namespace OwnChanges
variable {u : String} {t t' : Tables}

theorem refl (u : String) (t : Tables) : OwnChanges u t t where
  users := .refl _
  networks := .refl _
  servers := .refl _
  invitations := .refl _
  publicKey := .refl _

theorem deleteUser (h : t.Valid) (u : String) : OwnChanges u t (t.deleteUser u) := by
  unfold Tables.deleteUser
  split
  · rename_i uid huid
    have hlink : ∀ {δ : Type} (r : LinkRow δ),
        (!(decide (r.userId = uid) || t.owns uid r.networkId)) = false → OwnLink t u r := by
      intro δ r hr
      simp only [Bool.not_eq_false', Bool.or_eq_true, decide_eq_true_eq, Tables.owns_iff] at hr
      rcases hr with rfl | ⟨n, hn, hid, ho⟩
      · exact .inl huid.symm
      · exact .inr ⟨n, hn, hid, by rw [OwnNetwork, ho, huid]⟩
    refine ⟨.filter fun r hr hid => ?_, .filter fun n _ ho => ?_, .filter fun r _ => hlink r,
      .filter fun r _ => hlink r, .filter fun r _ => hlink r⟩
    · obtain ⟨v, hv, hlogin, hvid⟩ := (Tables.userId?_eq_some h).1 huid
      have : r = v := List.inj_on_of_nodup_map h.userIds hr hv (by simpa [hvid] using hid)
      rw [OwnUser, this, hlogin]
    · simpa [OwnNetwork, huid] using ho
  · exact refl u t

theorem deleteNetworkRow {n : NetworkRow} (h : t.Valid) (hn : n ∈ t.networks)
    (ho : some n.ownerId = t.userId? u) : OwnChanges u t (t.deleteNetworkRow n.id) := by
  have hlink : ∀ {δ : Type} (r : LinkRow δ), (!decide (r.networkId = n.id)) = false →
      OwnLink t u r := by
    intro δ r hr
    rw [Bool.not_eq_false', decide_eq_true_eq] at hr
    exact .inr ⟨n, hn, hr.symm, ho⟩
  refine ⟨.refl _, .filter fun m hm hid => ?_, .filter fun r _ => hlink r,
    .filter fun r _ => hlink r, .filter fun r _ => hlink r⟩
  have : m = n := List.inj_on_of_nodup_map h.networkIds hm hn (by simpa using hid)
  rw [this]
  exact ho

theorem setPassword (u : String) (t : Tables) (p : BpChar 70) :
    OwnChanges u t (t.setPassword u p) where
  users := by
    intro r hr
    by_contra hne
    apply hr
    rw [Tables.mem_setPassword]
    constructor
    · intro hm
      exact ⟨r, hm, (if_neg hne).symm⟩
    · rintro ⟨v, hv, rfl⟩
      by_cases hv' : v.login.text = rstrip u
      · rw [if_pos hv'] at hne
        exact absurd hv' hne
      · rwa [if_neg hv']
  networks := .refl _
  servers := .refl _
  invitations := .refl _
  publicKey := .refl _

/-- A new row of the user in a table of links. -/
theorem push {δ : Type} {tbl : LinkTable δ} {uid nid : Nat} {d : δ} (hu : t.userId? u = some uid) :
    ChangesOnly (OwnLink t u) tbl.rows (tbl.push uid nid d).rows :=
  .append fun r hr => .inl (by rw [List.mem_singleton.1 hr, hu])

theorem insertInvitation {network : String} (h : t.insertInvitation network u = .ok t') :
    OwnChanges u t t' := by
  obtain ⟨uid, nid, hu, -, -, rfl⟩ := Tables.insertInvitation_eq_ok.1 h
  exact { refl u t with invitations := push hu }

theorem insertKey {network key : String} (h : t.insertKey u network key = .ok t') :
    OwnChanges u t t' := by
  obtain ⟨uid, nid, hu, -, -, rfl⟩ := Tables.insertKey_eq_ok.1 h
  exact { refl u t with publicKey := push hu }

theorem insertServer {network : String} {d : ServerData}
    (h : t.insertServer network u d = .ok t') : OwnChanges u t t' := by
  obtain ⟨uid, nid, hu, -, -, rfl⟩ := Tables.insertServer_eq_ok.1 h
  exact { refl u t with servers := push hu }

theorem deleteServer (network u : String) (t : Tables) :
    OwnChanges u t (t.deleteServer network u).2 := by
  refine { refl u t with servers := .filter fun r _ hr => .inl ?_ }
  simp only [Bool.not_eq_false', Bool.and_eq_true, decide_eq_true_eq] at hr
  exact hr.1

/-- A network is made and its owner invited: the second statement finds the same user. -/
theorem createNetwork {name mail proto : String} {pub vis part fault : Bool}
    (h : t.insertNetwork name u pub vis part mail proto = .ok t') :
    OwnChanges u t (PsqlConnector.createInvitation fault u name t').2 := by
  obtain ⟨nm, mail', proto', uid, -, -, -, huid, -, rfl⟩ := Tables.insertNetwork_eq_ok.1 h
  have hown : ∀ l : List NetworkRow, (∀ n ∈ l, n.ownerId = uid) →
      ChangesOnly (OwnNetwork t u) t.networks (t.networks ++ l) := fun l hl =>
    .append fun n hn => by rw [OwnNetwork, hl n hn, huid]
  rcases PsqlConnector.work_cases fault (by decide : DBResponse.notUnique ≠ .ok) _
    (Tables.insertInvitation _ name u) with ⟨t'', -, hx, hw⟩ | ⟨-, -, hw⟩
  · rw [PsqlConnector.createInvitation, hw]
    obtain ⟨uid', nid, hu', -, -, rfl⟩ := Tables.insertInvitation_eq_ok.1 hx
    exact { refl u t with networks := hown _ (by simp), invitations := push hu' }
  · rw [PsqlConnector.createInvitation, hw]
    exact { refl u t with networks := hown _ (by simp) }

end OwnChanges

/-! ### The sessions -/

theorem OwnSession.refl (cookie : String) (sc : SessionControler) : OwnSession cookie sc sc :=
  fun _ _ => ⟨rfl, rfl⟩

theorem OwnSession.logout (cookie : String) (sc : SessionControler) :
    OwnSession cookie sc (sc.logout cookie).2 := by
  intro c hc
  rw [SessionControler.loginOf_logout, SessionControler.timeOf_logout, if_neg hc.symm,
    if_neg hc.symm]
  exact ⟨rfl, rfl⟩

/-- **A user's request changes nothing that is not the user's**, unless it is an INVITE_USER. -/
theorem request_confined (env : Env) (m : ClientMessage) (s : State) (cookie u : String)
    (hauth : AuthenticatedAs m s cookie u) (hinvite : m.requestType ≠ .inviteUser) :
    Confined u cookie s (handle env m s).2 := by
  have hsame : ∀ {c v : String}, AuthenticatedAs m s c v → c = cookie ∧ v = u := by
    intro c v h
    have hc : c = cookie := Option.some.inj (h.presents.symm.trans hauth.presents)
    exact ⟨hc, by rw [← h.login, ← hauth.login, hc]⟩
  have hkeep : ∀ {s' : State}, s'.sessions = s.sessions → OwnSession cookie s.sessions s'.sessions :=
    fun h => by rw [h]; exact .refl _ _
  rcases hout : handle env m s with ⟨r, s'⟩
  have h := outcome env m s
  rw [hout] at h
  cases h with
  | kept _ => exact ⟨.refl _ _, .refl _ _⟩
  | registered hm => simpa [ClientMessage.cookie, hm] using hauth.presents
  | loggedIn hm => simpa [ClientMessage.cookie, hm] using hauth.presents
  | unregistered _ ha _ ht hs =>
    obtain ⟨rfl, rfl⟩ := hsame ha
    exact ⟨by rw [ht]; exact .deleteUser s.db.valid _, hkeep hs⟩
  | loggedOut _ hc _ ht hs =>
    obtain rfl : _ = cookie := Option.some.inj (hc.symm.trans hauth.presents)
    exact ⟨by rw [ht]; exact .refl _ _, by rw [hs]; exact .logout _ _⟩
  | createdNetwork _ ha _ hins ht hs =>
    obtain ⟨rfl, rfl⟩ := hsame ha
    exact ⟨by rw [ht]; exact .createNetwork hins, hkeep hs⟩
  | deletedNetwork _ ha _ hrow ho ht hs =>
    obtain ⟨rfl, rfl⟩ := hsame ha
    obtain ⟨hmem, -⟩ := (Tables.network?_eq_some s.db.valid).1 hrow
    exact ⟨by rw [ht]; exact .deleteNetworkRow s.db.valid hmem ho, hkeep hs⟩
  | invited hm => exact absurd hm hinvite
  | removed _ ha _ ht hs =>
    obtain ⟨rfl, rfl⟩ := hsame ha
    refine ⟨?_, by rw [hs]; exact .logout _ _⟩
    rw [ht, PsqlConnector.removeUser_snd]
    split
    · exact .refl _ _
    · exact .deleteUser s.db.valid _
  | updatedServer _ ha ht hs =>
    obtain ⟨rfl, rfl⟩ := hsame ha
    exact ⟨.insertServer ht, hkeep hs⟩
  | stoppedServer _ ha _ _ ht hs =>
    obtain ⟨rfl, rfl⟩ := hsame ha
    exact ⟨by rw [ht]; exact .deleteServer _ _ _, hkeep hs⟩
  | signedKey _ ha _ _ ht hs =>
    obtain ⟨rfl, rfl⟩ := hsame ha
    exact ⟨.insertKey ht, hkeep hs⟩
  | changedPassword _ ha _ _ ht hs =>
    obtain ⟨rfl, rfl⟩ := hsame ha
    obtain ⟨p, -, hp⟩ := Tables.updatePassword_eq_ok.1 ht
    exact ⟨by rw [hp]; exact .setPassword _ _ _, hkeep hs⟩

/-- Bob's UNREGISTER, right after his LOGIN. -/
theorem request_confined_unregister :
    Confined "bob" "c00kie"
      (after [.register Env.sample "bob" "secret" "request", .login Env.sample "bob" "secret"])
      ((Request.unregister Env.sample "c00kie").handle
        (after [.register Env.sample "bob" "secret" "request",
          .login Env.sample "bob" "secret"])).2 :=
  request_confined _ _ _ _ _ ⟨rfl, by decide, by decide⟩ (by decide)

end Sp2p.Tracker
