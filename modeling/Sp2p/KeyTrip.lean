import Sp2p.Tracker.Run
import Sp2p.Tracker.Registration
import Sp2p.Tracker.Lease
import Sp2p.Sercli.MessageFactory

/-!
# Signing a key and asking for it

SIGN_KEY stores the certificate it answers with, and USER_INFO reads it back. Without a network
nothing of this works: the insertion has no network to refer to, and the client dereferences the
description it was not given. With a network the certificate must be the first of the user there,
and USER_INFO gives its first word: `signKey_iff`.
-/

namespace Sp2p

open Interleaving Protocol Tracker Sercli NodeMessageFactory

namespace Tracker

variable {env : Env} {m : ClientMessage} {s : State}

/-! ### The two handlers -/

variable {p c u cookie : String} {networkDesc : Option NetworkDescription}

/-- What SIGN_KEY answers, by what the insertion did. -/
theorem handle_signKey (hc : c ≠ "") (hsign : env.signRequest p = some c)
    (hauth : AuthenticatedAs (getSignKeyMessage p networkDesc cookie) s cookie u) :
    ∃ out, Transacts (env.fault 0)
        (s.db.tables.insertKey u ((networkDesc.map (·.networkName)).getD "") c) s out ∧
      handle env (getSignKeyMessage p networkDesc cookie) s =
        (if out.1 = .ok then signKeyResponse c else errorMesage (dbError .noSuchUser out.1), out.2) := by
  obtain rfl : env.signCertyficate p = c := by rw [Env.signCertyficate, hsign]; rfl
  have hhandle : handle env (getSignKeyMessage p networkDesc cookie) s =
      (handleSignKey env (getSignKeyMessage p networkDesc cookie)).run exec s := rfl
  rw [hhandle]
  unfold handleSignKey getSignKeyMessage
  dsimp only [Option.getD_some]
  generalize (networkDesc.map (·.networkName)).getD "" = name
  have hadd := exec_addKey (env.fault 0) u name (env.signCertyficate p) s
  rw [run_authenticated, hauth.login, if_neg hauth.nonempty, run_callShared, if_neg hc]
  generalize exec (.addKey (env.fault 0) u name (env.signCertyficate p)) s = out at hadd ⊢
  refine ⟨out, hadd, ?_⟩
  obtain ⟨r, s'⟩ := out
  cases r <;> rfl

/-- What USER_INFO answers about a user of a network that are both there. -/
theorem handle_userInfo {desc : NetworkDescription} {v : String} (hfault : ∀ k, env.fault k = false)
    (hauth : AuthenticatedAs (getUserInfoMessage desc u cookie) s cookie v)
    (huser : (s.db.tables.userId? u).isSome)
    (hnet : (s.db.tables.networkId? desc.networkName).isSome) :
    (handle env (getUserInfoMessage desc u cookie) s).1 =
      userInfoResponse (PsqlConnector.getUserInfo false u desc.networkName s.db.tables) := by
  have hhandle : handle env (getUserInfoMessage desc u cookie) s =
      (handleUserInfo env (getUserInfoMessage desc u cookie)).run exec s := rfl
  have hknown : PsqlConnector.userExists (env.fault 0) u s.db.tables = true := by
    simpa [PsqlConnector.userExists, hfault] using huser
  have hfound : PsqlConnector.networkExists (env.fault 1) desc.networkName s.db.tables = true := by
    simpa [PsqlConnector.networkExists, hfault] using hnet
  rw [hhandle]
  unfold handleUserInfo getUserInfoMessage
  dsimp only [Option.getD_some]
  rw [run_authenticated, hauth.login, if_neg hauth.nonempty]
  rw [run_read (c := .userExists (env.fault 0) u) rfl, hknown]
  simp only [Bool.true_eq_false, if_false]
  rw [run_read (c := .networkExists (env.fault 1) desc.networkName) rfl, hfound]
  simp only [Bool.true_eq_false, if_false]
  rw [run_read (c := .getUserInfo (env.fault 2) u desc.networkName) rfl, hfault]
  rfl

/-- USER_INFO reads the first word of the stored key. -/
theorem userInfo_of_key {desc : NetworkDescription} {v : String} {uid nid : Nat}
    {row : LinkRow String} (hfault : ∀ k, env.fault k = false)
    (hauth : AuthenticatedAs (getUserInfoMessage desc u cookie) s cookie v)
    (huid : s.db.tables.userId? u = some uid)
    (hnid : s.db.tables.networkId? desc.networkName = some nid)
    (hrow : s.db.tables.publicKey.find? (some uid) (some nid) = some row) :
    (handle env (getUserInfoMessage desc u cookie) s).1 =
      userInfoResponse (toStdString row.data) := by
  rw [handle_userInfo hfault hauth (by rw [huid]; rfl) (by rw [hnid]; rfl)]
  unfold PsqlConnector.getUserInfo
  rw [if_neg (by simp), huid, hnid, hrow]

/-! ### Along a run -/

/-- In the run from `s` neither the user's account nor the network is removed, and the user sends no
SIGN_KEY for the network. -/
structure LeftAlone (s : State) (rs : List Request) (u network : String) : Prop where
  accountStays : ∀ part, part <+: rs →
    (afterFrom s part).db.tables.userId? u = s.db.tables.userId? u
  networkStays : ∀ part, part <+: rs →
    (afterFrom s part).db.tables.networkId? network = s.db.tables.networkId? network
  noSignKey : ∀ part r cookie, part ++ [r] <+: rs → r.message.requestType = .signKey →
    AuthenticatedAs r.message (afterFrom s part) cookie u →
    r.message.signKeyMessage.map (·.networkName.getD "") ≠ some network

theorem LeftAlone.tail {r : Request} {rs : List Request} {network : String}
    (h : LeftAlone s (r :: rs) u network) : LeftAlone (r.handle s).2 rs u network := by
  have haccount := h.accountStays [r] (by simp)
  have hnetwork := h.networkStays [r] (by simp)
  rw [afterFrom_cons, afterFrom_nil] at haccount hnetwork
  constructor
  · intro part hpart
    rw [haccount]
    exact h.accountStays (r :: part) (List.cons_prefix_cons.2 ⟨rfl, hpart⟩)
  · intro part hpart
    rw [hnetwork]
    exact h.networkStays (r :: part) (List.cons_prefix_cons.2 ⟨rfl, hpart⟩)
  · intro part r' cookie hpart
    exact h.noSignKey (r :: part) r' cookie (List.cons_prefix_cons.2 ⟨rfl, hpart⟩)

theorem LeftAlone.nil (s : State) (u network : String) : LeftAlone s [] u network := by
  constructor
  · intro part hpart
    rw [List.prefix_nil.1 hpart]
    rfl
  · intro part hpart
    rw [List.prefix_nil.1 hpart]
    rfl
  · intro part r cookie hpart
    exact absurd (List.prefix_nil.1 hpart) (by simp)

/-- A stored key stays along such a run. -/
theorem key_afterFrom {network : String} {uid nid : Nat} {row : LinkRow String}
    (rs : List Request) :
    ∀ {s : State}, LeftAlone s rs u network → s.db.tables.userId? u = some uid →
      s.db.tables.networkId? network = some nid →
      s.db.tables.publicKey.find? (some uid) (some nid) = some row →
      (afterFrom s rs).db.tables.publicKey.find? (some uid) (some nid) = some row := by
  induction rs with
  | nil =>
    intro s _ _ _ hrow
    exact hrow
  | cons r rs ih =>
    intro s h huid hnid hrow
    have haccount := (h.accountStays [r] (by simp)).trans huid
    have hnetwork := (h.networkStays [r] (by simp)).trans hnid
    rw [afterFrom_cons, afterFrom_nil] at haccount hnetwork
    refine ih h.tail haccount hnetwork ?_
    exact (r.outcome s).links.2 uid nid row hrow (Tables.exists_user_of_userId? haccount)
      (Tables.exists_network_of_networkId? hnetwork)

end Tracker

/-! ### The two halves together -/

variable {env : Env} {s : State} {p c u cookie : String} {desc : NetworkDescription}

/-- SIGN_KEY without a network gives the certificate and changes no table. -/
def SignsAlone (env : Env) (s : State) (p c cookie : String) : Prop :=
  (handle env (getSignKeyMessage p none cookie) s).1 = signKeyResponse c ∧
    (handle env (getSignKeyMessage p none cookie) s).2.db.tables = s.db.tables

theorem not_signsAlone (hc : c ≠ "") (hsign : env.signRequest p = some c)
    (hauth : AuthenticatedAs (getSignKeyMessage p none cookie) s cookie u) :
    ¬ SignsAlone env s p c cookie := by
  rintro ⟨hreply, htables⟩
  obtain ⟨out, hadd, hout⟩ := handle_signKey hc hsign hauth
  rw [hout] at hreply htables
  rcases hadd with ⟨s', -, hins, -, rfl⟩ | ⟨r, hr, -, rfl⟩
  · -- the key was stored, for a network without a name
    obtain ⟨uid, nid, -, -, -, ht⟩ := Tables.insertKey_eq_ok.1 hins
    rw [ht] at htables
    have hlen := congrArg (fun t : Tables => t.publicKey.rows.length) htables
    simp [LinkTable.push] at hlen
  · rw [if_neg hr] at hreply
    cases congrArg NodeMessage.signKeyResponse hreply

/-- SIGN_KEY for a network gives the certificate, and USER_INFO about the user gives it too for as
long as it should. -/
structure KeyServed (env : Env) (s : State) (desc : NetworkDescription) (u p c cookie : String) :
    Prop where
  reply : (handle env (getSignKeyMessage p (some desc) cookie) s).1 = signKeyResponse c
  later : ∀ rs, LeftAlone (handle env (getSignKeyMessage p (some desc) cookie) s).2 rs u
      desc.networkName →
    ∀ s', s' = afterFrom (handle env (getSignKeyMessage p (some desc) cookie) s).2 rs →
    ∀ env' cookie' v, (∀ k, env'.fault k = false) →
      AuthenticatedAs (getUserInfoMessage desc u cookie') s' cookie' v →
      (handle env' (getUserInfoMessage desc u cookie') s').1 = userInfoResponse c

/-- The user has an account and no key for the network, and the certificate is one word. -/
structure FirstKey (env : Env) (s : State) (desc : NetworkDescription) (u c : String) : Prop where
  fault : env.fault 0 = false
  account : (s.db.tables.userId? u).isSome
  first : s.db.tables.publicKey.find? (s.db.tables.userId? u)
    (s.db.tables.networkId? desc.networkName) = none
  word : NoSpace c

/-- What the successful SIGN_KEY of a user leaves. -/
theorem exists_key {network : String} {s' : State}
    (hins : s.db.tables.insertKey u network c = .ok s'.db.tables) :
    ∃ uid nid row, s.db.tables.userId? u = some uid ∧ s.db.tables.networkId? network = some nid ∧
      s.db.tables.publicKey.find? (some uid) (some nid) = none ∧
      s'.db.tables.userId? u = some uid ∧ s'.db.tables.networkId? network = some nid ∧
      s'.db.tables.publicKey.find? (some uid) (some nid) = some row ∧ row.data = c := by
  obtain ⟨uid, nid, huid, hnid, hnew, ht⟩ := Tables.insertKey_eq_ok.1 hins
  refine ⟨uid, nid, ⟨s.db.tables.publicKey.seq + 1, uid, nid, c⟩, huid, hnid, hnew, ?_, ?_, ?_, rfl⟩
  · rw [ht]
    exact huid
  · rw [ht]
    exact hnid
  · rw [ht]
    exact LinkTable.find?_push hnew

/-- A key that is served is read back at once as it is. -/
theorem KeyServed.firstKey (hc : c ≠ "") (hsign : env.signRequest p = some c)
    (hauth : AuthenticatedAs (getSignKeyMessage p (some desc) cookie) s cookie u)
    (h : KeyServed env s desc u p c cookie) : FirstKey env s desc u c := by
  obtain ⟨out, hadd, hout⟩ := handle_signKey hc hsign hauth
  simp only [Option.map_some, Option.getD_some] at hadd
  obtain ⟨hreply, hlater⟩ := h
  rw [hout] at hreply hlater
  rcases hadd with ⟨s', hfault, hins, hs, rfl⟩ | ⟨r, hr, -, rfl⟩
  · obtain ⟨uid, nid, row, huid, hnid, hnew, huid', hnid', hrow, hdata⟩ := exists_key hins
    refine ⟨hfault, by rw [huid]; rfl, by rw [huid, hnid]; exact hnew, ?_⟩
    have hask : AuthenticatedAs (getUserInfoMessage desc u cookie) s' cookie u :=
      ⟨rfl, by rw [hs]; exact hauth.login, hauth.nonempty⟩
    have hinfo := hlater [] (.nil _ _ _) s' rfl Env.sample cookie u (fun _ => rfl) hask
    rw [userInfo_of_key (fun _ => rfl) hask huid' hnid' hrow, hdata] at hinfo
    have hword : toStdString c = c := by simpa [userInfoResponse] using hinfo
    rw [← hword]
    exact noSpace_toStdString c
  · rw [if_neg hr] at hreply
    cases congrArg NodeMessage.signKeyResponse hreply

/-- The first key of a user is stored, and stays while nobody touches it. -/
theorem FirstKey.keyServed (hc : c ≠ "") (hsign : env.signRequest p = some c)
    (hauth : AuthenticatedAs (getSignKeyMessage p (some desc) cookie) s cookie u)
    (hnet : (s.db.tables.networkId? desc.networkName).isSome) (h : FirstKey env s desc u c) :
    KeyServed env s desc u p c cookie := by
  obtain ⟨out, hadd, hout⟩ := handle_signKey hc hsign hauth
  simp only [Option.map_some, Option.getD_some] at hadd
  obtain ⟨hfault, haccount, hfirst, hword⟩ := h
  obtain ⟨uid, huid⟩ := Option.isSome_iff_exists.1 haccount
  obtain ⟨nid, hnid⟩ := Option.isSome_iff_exists.1 hnet
  rw [huid, hnid] at hfirst
  have hins : s.db.tables.insertKey u desc.networkName c = .ok _ :=
    Tables.insertKey_eq_ok.2 ⟨uid, nid, huid, hnid, hfirst, rfl⟩
  obtain ⟨s', ht, -, rfl⟩ := hadd.commits hfault hins
  rw [← ht] at hins
  obtain ⟨uid', nid', row, -, -, -, huid', hnid', hrow, hdata⟩ := exists_key hins
  refine ⟨by rw [hout]; rfl, fun rs halone s'' hs'' env' cookie' v hfaults hask => ?_⟩
  rw [hout] at halone hs''
  have hstays := key_afterFrom rs halone huid' hnid' hrow
  have hu := (halone.accountStays rs (List.prefix_refl _)).trans huid'
  have hn := (halone.networkStays rs (List.prefix_refl _)).trans hnid'
  rw [← hs''] at hstays hu hn
  rw [userInfo_of_key hfaults hask hu hn hstays, hdata, toStdString_of_noSpace hword]

/-- With a network SIGN_KEY and USER_INFO agree exactly when the key is the first and one word. -/
theorem keyServed_iff (hc : c ≠ "") (hsign : env.signRequest p = some c)
    (hauth : AuthenticatedAs (getSignKeyMessage p (some desc) cookie) s cookie u)
    (hnet : (s.db.tables.networkId? desc.networkName).isSome) :
    KeyServed env s desc u p c cookie ↔ FirstKey env s desc u c := by
  constructor
  · intro h
    exact h.firstKey hc hsign hauth
  · intro h
    exact h.keyServed hc hsign hauth hnet

/-- **SIGN_KEY never works without a network, at the tracker or in the client; for a network it agrees
with USER_INFO when the certificate is one word and the user's first key there.** -/
theorem signKey_iff (hc : c ≠ "") (hsign : env.signRequest p = some c) (hlive : u ≠ "")
    (hlogin : s.sessions.getLogin cookie = u) :
    ¬ SignsAlone env s p c cookie ∧
      (∀ (node : Node) (pem : X509CertOptions → String),
        node.signKeyRequest pem none cookie = none) ∧
      ∀ desc : NetworkDescription, (s.db.tables.networkId? desc.networkName).isSome →
        (KeyServed env s desc u p c cookie ↔ FirstKey env s desc u c) :=
  ⟨not_signsAlone hc hsign ⟨rfl, hlogin, hlive⟩, fun _ _ => rfl,
    fun _ hnet => keyServed_iff hc hsign ⟨rfl, hlogin, hlive⟩ hnet⟩

def bobsDesc : NetworkDescription where
  accessRights := .PRIVATE
  visability := .UNLISTED
  participationRights := .CLIENT_SERVER
  protocolName := ""
  networkName := "net"
  creator := ⟨"bob", ""⟩

theorem signKey_iff_bob :
    ¬ SignsAlone Env.sample bobsNetwork "request" "-----BEGIN CERTIFICATE-----" "c00kie" ∧
      (∀ (node : Node) (pem : X509CertOptions → String),
        node.signKeyRequest pem none "c00kie" = none) ∧
      (KeyServed Env.sample bobsNetwork bobsDesc "bob" "request" "-----BEGIN CERTIFICATE-----"
          "c00kie" ↔
        FirstKey Env.sample bobsNetwork bobsDesc "bob" "-----BEGIN CERTIFICATE-----") := by
  have hsign : Env.sample.signRequest "request" = some "-----BEGIN CERTIFICATE-----" := rfl
  obtain ⟨hlogin, -, hnet, -⟩ := state_bobsNetwork
  obtain ⟨halone, hnull, hserved⟩ := signKey_iff (by decide) hsign (by decide) hlogin
  exact ⟨halone, hnull, hserved bobsDesc (Option.isSome_of_mem hnet)⟩

/-- Bob gets no certificate without a network. For his network he gets one, and USER_INFO then
gives its first word. -/
theorem signKey_broken_bob :
    (handle Env.sample (getSignKeyMessage "request" none "c00kie") bobsNetwork).1 =
        errorMesage .internalServerError ∧
      (handle Env.sample (getSignKeyMessage "request" (some bobsDesc) "c00kie") bobsNetwork).1 =
        signKeyResponse "-----BEGIN CERTIFICATE-----" ∧
      ¬ KeyServed Env.sample bobsNetwork bobsDesc "bob" "request" "-----BEGIN CERTIFICATE-----"
        "c00kie" := by
  refine ⟨by decide +kernel, by decide +kernel, fun h => ?_⟩
  obtain ⟨hlogin, hword⟩ : (handle Env.sample (getSignKeyMessage "request" (some bobsDesc) "c00kie")
      bobsNetwork).2.sessions.getLogin "c00kie" = "bob" ∧
      (handle Env.sample (getUserInfoMessage bobsDesc "bob" "c00kie")
        (handle Env.sample (getSignKeyMessage "request" (some bobsDesc) "c00kie") bobsNetwork).2).1 =
          userInfoResponse "-----BEGIN" := by
    decide +kernel
  have hinfo := h.later [] (.nil _ _ _) _ rfl Env.sample "c00kie" "bob" (fun _ => rfl)
    ⟨rfl, hlogin, by decide⟩
  exact absurd (hword.symm.trans hinfo) (by decide)

end Sp2p
