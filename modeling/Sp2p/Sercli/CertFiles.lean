import Mathlib.Data.List.Nodup
import Std.Data.String.ToNat
import Sp2p.Lib.Runs
import Sp2p.Sercli.NodeKeys

/-!
# The files of the certificates of a node

`registerUser` names the certificate of the user after the number of free certificates and that of the
node after the number of node certificates, `signKey` names one after its network, and the command `save`
writes all of them into one directory, where it leaves a file that is there. Filed twice under one name,
one is lost, and so is one whose file cannot be made: nobody looks whether the stream is open. `path`
says which file of the directory a name leads to. `noneLost_iff_along` says along which operations none
is lost.
-/

namespace Sp2p.Sercli

open Protocol

/-- What happens to a node between saves. -/
inductive CertEvent (κ : Type)
  /-- An operation: whether a connection can be made, whether the key can be used, and the reply, `none`
  for a `SendException`. -/
  | call (c : NodeCall) (connected keyUsable : Bool) (reply : Option NodeMessage)
  | setUser (user : MyUser)
  | addKey (key : PrivateKeyStore κ)
  | addNetworkKey (networkDesc : NetworkDescription) (key : PrivateKeyStore κ)
  /-- The connection is made, or closed. -/
  | setActive (active : Bool)

namespace NodeMembers

variable {κ ξ φ : Type} (readCertificate : String → Option ξ)
  (path : String → Option φ)

def onEvent (n : NodeMembers κ ξ) : CertEvent κ → NodeMembers κ ξ
  | .call c connected keyUsable reply => (n.perform readCertificate c connected keyUsable reply).2
  | .setUser user => (n.setUser user).2
  | .addKey key => { n with privateKeys := n.privateKeys ++ [key] }
  | .addNetworkKey networkDesc key =>
    { n with netKeys := TreeMap.assign n.netKeys networkDesc key }
  | .setActive active => { n with isActive := active }

def afterEvents (n : NodeMembers κ ξ) (events : List (CertEvent κ)) : NodeMembers κ ξ :=
  events.foldl (onEvent readCertificate) n

/-! ### Saving -/

/-- The certificates of the node in the order of the command `save`. -/
def certificates (n : NodeMembers κ ξ) : List (CertificateStore ξ) :=
  n.nodeCerts ++ n.freeCerts ++ n.netCerts.toList.map Prod.snd

def FilenamesDiffer (n : NodeMembers κ ξ) : Prop := (n.certificates.map (·.filename)).Nodup

section Directory

variable [DecidableEq φ]

/-- `if(!cert->inFile(cert_dir)) cert->save(cert_dir)`, for a directory as its files. Where there is no
file of the name and none can be made, nothing is written. -/
def saveCert (dir : φ → Option ξ) (cert : CertificateStore ξ) : φ → Option ξ :=
  match path cert.filename with
  | none => dir
  | some file =>
    if (dir file).isSome then dir else Function.update dir file (some cert.certificate)

def save (n : NodeMembers κ ξ) (dir : φ → Option ξ) : φ → Option ξ :=
  n.certificates.foldl (saveCert path) dir

/-- The filenames differ, and all is on disk after a save into a directory without these files. -/
structure NoneLost (n : NodeMembers κ ξ) : Prop where
  differ : n.FilenamesDiffer
  onDisk : ∀ dir : φ → Option ξ,
    (∀ cert ∈ n.certificates, ∀ file ∈ path cert.filename, dir file = none) →
    ∀ cert ∈ n.certificates, ∃ file ∈ path cert.filename, n.save path dir file = some cert.certificate

end Directory

/-! ### Which events lose none -/

/-- The reply is taken and brings certificates that are filed. -/
def files (n : NodeMembers κ ξ) (c : NodeCall) (connected keyUsable : Bool) (reply : Option NodeMessage) :
    Bool :=
  n.sends c connected keyUsable && reply.any fun response =>
    decide (response.responseType.getD .ok = .ok) && readable readCertificate response c

/-- The filename with this part between the name of the node and `.pem`. -/
def certFilename (nodeDesc : NodeDescription) (part : String) : String :=
  nodeDesc.nodeName ++ "." ++ part ++ ".pem"

/-- The certificates that stay when one for a network is filed. -/
def others (n : NodeMembers κ ξ) (networkDesc : NetworkDescription) : List (CertificateStore ξ) :=
  n.nodeCerts ++ n.freeCerts ++ (n.netCerts.toList.filter fun it =>
    it.1.networkName ≠ networkDesc.networkName).map Prod.snd

/-- The name of the network is not the number of a node certificate, its file can be made, and it is not
that of another certificate with something else in it. -/
structure HasRoom (n : NodeMembers κ ξ) (networkDesc : NetworkDescription) (certificate : ξ) : Prop where
  number : ∀ i < n.nodeCerts.length, networkDesc.networkName ≠ toString i
  opens : (path (certFilename n.nodeDesc networkDesc.networkName)).isSome
  agree : ∀ cert ∈ n.others networkDesc,
    path cert.filename = path (certFilename n.nodeDesc networkDesc.networkName) →
      cert.certificate = certificate

/-- No registration files its certificates, and a certificate that `signKey` files has room. -/
def LosesNone (n : NodeMembers κ ξ) : CertEvent κ → Prop
  | .call (.registerUser pem) connected keyUsable reply =>
    n.files readCertificate (.registerUser pem) connected keyUsable reply = false
  | .call (.signKey pem networkDesc) connected keyUsable reply =>
    n.files readCertificate (.signKey pem networkDesc) connected keyUsable reply = true →
      ∀ response ∈ reply, ∀ certificate ∈
        readCertificate ((response.signKeyResponse.getD {}).userCertificate.getD ""),
          n.HasRoom path networkDesc certificate
  | _ => True

/-- How the certificates are named. -/
structure Named (node : NodeDescription) (n : NodeMembers κ ξ) : Prop where
  nodeDesc : n.nodeDesc = node
  nodeCerts : n.nodeCerts.map (·.filename) =
    (List.range n.nodeCerts.length).map fun i => certFilename node (toString i)
  freeCerts : n.freeCerts.map (·.filename) =
    (List.range n.freeCerts.length).map fun i => certFilename node (toString i)
  registered : n.freeCerts ≠ [] → n.nodeCerts ≠ []
  netCerts : ∀ desc cert, (desc, cert) ∈ n.netCerts.toList →
    cert.filename = certFilename node desc.networkName

variable {readCertificate path} {n : NodeMembers κ ξ} {node : NodeDescription}

/-! ### Saving into a directory -/

/-- Every certificate has a file, and two have one only with the same in it. -/
structure Stored (path : String → Option φ) (certs : List (CertificateStore ξ)) : Prop where
  opens : ∀ cert ∈ certs, (path cert.filename).isSome
  agree : ∀ cert ∈ certs, ∀ cert' ∈ certs, path cert.filename = path cert'.filename →
    cert.certificate = cert'.certificate

theorem Stored.mono {certs certs' : List (CertificateStore ξ)} (h : Stored path certs)
    (hsub : certs' ⊆ certs) : Stored path certs' :=
  ⟨fun cert hcert => h.opens cert (hsub hcert),
    fun cert hcert cert' hcert' => h.agree cert (hsub hcert) cert' (hsub hcert')⟩

section Directory

variable [DecidableEq φ]

theorem saveCert_apply (dir : φ → Option ξ) (cert : CertificateStore ξ) (file : φ) :
    saveCert path dir cert file =
      if path cert.filename = some file ∧ dir file = none then some cert.certificate else dir file := by
  unfold saveCert
  cases path cert.filename with
  | none => exact (if_neg (by simp)).symm
  | some other =>
    dsimp only
    by_cases heq : file = other
    · subst heq
      cases hdir : dir file <;> simp [hdir]
    · have hother : ¬ (some other = some file ∧ dir file = none) := fun h =>
        heq (Option.some_inj.1 h.1).symm
      rw [if_neg hother]
      split
      · rfl
      · exact Function.update_of_ne heq _ _

/-- A file that is there stays as it is. -/
theorem foldl_saveCert_of_some (certs : List (CertificateStore ξ)) :
    ∀ {dir : φ → Option ξ} {file : φ} {x : ξ}, dir file = some x →
      certs.foldl (saveCert path) dir file = some x := by
  induction certs with
  | nil =>
    intro dir file x h
    exact h
  | cons cert certs ih =>
    intro dir file x h
    refine ih ?_
    rw [saveCert_apply, h, if_neg (by simp)]

/-- A file that is not there has the first certificate whose name leads to it. -/
theorem foldl_saveCert (certs : List (CertificateStore ξ)) :
    ∀ {dir : φ → Option ξ} {file : φ}, (∃ cert ∈ certs, path cert.filename = some file) →
      dir file = none → ∃ cert ∈ certs, path cert.filename = some file ∧
        certs.foldl (saveCert path) dir file = some cert.certificate := by
  induction certs with
  | nil =>
    rintro dir file ⟨cert, hcert, -⟩ _
    cases hcert
  | cons first certs ih =>
    intro dir file hsome hnone
    rw [List.foldl_cons]
    by_cases hfirst : path first.filename = some file
    · refine ⟨first, List.mem_cons_self .., hfirst, foldl_saveCert_of_some certs ?_⟩
      rw [saveCert_apply, if_pos ⟨hfirst, hnone⟩]
    · have hdir : saveCert path dir first file = none := by
        rw [saveCert_apply, if_neg (fun h => hfirst h.1), hnone]
      obtain ⟨cert, hcert, hfile⟩ := hsome
      rcases List.mem_cons.1 hcert with rfl | hcert
      · exact absurd hfile hfirst
      · obtain ⟨cert, hcert, hfile, hsaved⟩ := ih ⟨cert, hcert, hfile⟩ hdir
        exact ⟨cert, List.mem_cons_of_mem _ hcert, hfile, hsaved⟩

theorem noneLost_iff : n.NoneLost path ↔ n.FilenamesDiffer ∧ Stored path n.certificates := by
  constructor
  · rintro ⟨hdiffer, hdisk⟩
    have hempty := hdisk (fun _ => none) fun _ _ _ _ => rfl
    refine ⟨hdiffer, fun cert hcert => ?_, fun cert hcert cert' hcert' hsame => ?_⟩
    · obtain ⟨file, hfile, -⟩ := hempty cert hcert
      exact Option.isSome_of_mem hfile
    · obtain ⟨file, hfile, hsaved⟩ := hempty cert hcert
      obtain ⟨file', hfile', hsaved'⟩ := hempty cert' hcert'
      obtain rfl := Option.some_inj.1 (hfile.symm.trans (hsame.trans hfile'))
      exact Option.some_inj.1 (hsaved.symm.trans hsaved')
  · rintro ⟨hdiffer, hopens, hagree⟩
    refine ⟨hdiffer, fun dir hdir cert hcert => ?_⟩
    obtain ⟨file, hfile⟩ := Option.isSome_iff_exists.1 (hopens cert hcert)
    obtain ⟨first, hfirst, hfile', hsaved⟩ :=
      foldl_saveCert n.certificates ⟨cert, hcert, hfile⟩ (hdir cert hcert file hfile)
    refine ⟨file, hfile, ?_⟩
    rw [hagree cert hcert first hfirst (hfile.trans hfile'.symm)]
    exact hsaved

end Directory

/-! ### Names that differ -/

theorem certFilename_inj {part part' : String} :
    certFilename node part = certFilename node part' ↔ part = part' := by
  unfold certFilename
  rw [← String.toList_inj, ← String.toList_inj]
  simp only [String.toList_append, List.append_cancel_left_eq, List.append_cancel_right_eq]

theorem nodup_numbers (k : Nat) : ((List.range k).map fun i => certFilename node (toString i)).Nodup :=
  List.nodup_range.map fun _ _ h => Nat.repr_inj.1 (certFilename_inj.1 h)

/-- The certificates for networks are named apart. -/
theorem Named.nodup_netCerts (h : Named node n) :
    ((n.netCerts.toList.map Prod.snd).map (·.filename)).Nodup := by
  rw [List.map_map, List.Nodup, List.pairwise_map]
  refine Std.ExtTreeMap.distinct_keys_toList.imp_of_mem fun {e e'} he he' hne heq => hne ?_
  simp only [Function.comp_apply, h.netCerts _ _ he, h.netCerts _ _ he', certFilename_inj] at heq
  exact NetworkDescription.compare_eq.2 heq

/-- A free certificate has the name of a node certificate, and so has one for a network with its number. -/
theorem Named.differ_iff (h : Named node n) :
    n.FilenamesDiffer ↔ n.freeCerts = [] ∧ ∀ desc cert, (desc, cert) ∈ n.netCerts.toList →
      ∀ i < n.nodeCerts.length, desc.networkName ≠ toString i := by
  have hnode : ∀ i < n.nodeCerts.length,
      certFilename node (toString i) ∈ n.nodeCerts.map (·.filename) := by
    intro i hi
    rw [h.nodeCerts]
    exact List.mem_map_of_mem (List.mem_range.2 hi)
  unfold FilenamesDiffer certificates
  rw [List.map_append, List.map_append]
  constructor
  · intro hnodup
    obtain ⟨hfirst, -, hdisjoint⟩ := List.nodup_append'.1 hnodup
    obtain ⟨-, -, hfree⟩ := List.nodup_append'.1 hfirst
    have hnil : n.freeCerts = [] := by
      by_contra hne
      have hzero : certFilename node (toString 0) ∈ n.freeCerts.map (·.filename) := by
        rw [h.freeCerts]
        exact List.mem_map_of_mem (List.mem_range.2 (List.length_pos_iff.2 hne))
      exact hfree (hnode 0 (List.length_pos_iff.2 (h.registered hne))) hzero
    refine ⟨hnil, fun desc cert hentry i hi hname => ?_⟩
    have hnet : certFilename node (toString i) ∈ (n.netCerts.toList.map Prod.snd).map (·.filename) := by
      rw [← hname, ← h.netCerts desc cert hentry]
      exact List.mem_map_of_mem (List.mem_map_of_mem hentry)
    exact hdisjoint (List.mem_append_left _ (hnode i hi)) hnet
  · rintro ⟨hnil, hnumber⟩
    rw [hnil, List.map_nil, List.append_nil, h.nodeCerts]
    refine List.nodup_append'.2 ⟨nodup_numbers _, h.nodup_netCerts, ?_⟩
    intro name hname hnet
    obtain ⟨i, hi, rfl⟩ := List.mem_map.1 hname
    obtain ⟨cert, hcert, hfilename⟩ := List.mem_map.1 hnet
    obtain ⟨⟨desc, _⟩, hentry, rfl⟩ := List.mem_map.1 hcert
    rw [h.netCerts desc _ hentry, certFilename_inj] at hfilename
    exact hnumber desc _ hentry i (List.mem_range.1 hi) hfilename

/-! ### One event -/

/-- The certificates are as they were. -/
structure SameCerts (n n' : NodeMembers κ ξ) : Prop where
  nodeDesc : n'.nodeDesc = n.nodeDesc
  nodeCerts : n'.nodeCerts = n.nodeCerts
  freeCerts : n'.freeCerts = n.freeCerts
  netCerts : n'.netCerts = n.netCerts

variable {n' : NodeMembers κ ξ} {response : NodeMessage} {c : NodeCall} {connected keyUsable : Bool}
  {reply : Option NodeMessage}

theorem Named.of_same (h : Named node n) (hsame : SameCerts n n') : Named node n' := by
  refine ⟨hsame.nodeDesc.trans h.nodeDesc, ?_, ?_, ?_, ?_⟩
  · rw [hsame.nodeCerts]
    exact h.nodeCerts
  · rw [hsame.freeCerts]
    exact h.freeCerts
  · rw [hsame.freeCerts, hsame.nodeCerts]
    exact h.registered
  · rw [hsame.netCerts]
    exact h.netCerts

theorem SameCerts.certificates (h : SameCerts n n') : n'.certificates = n.certificates := by
  unfold NodeMembers.certificates
  rw [h.nodeCerts, h.freeCerts, h.netCerts]

theorem SameCerts.noneLost_iff [DecidableEq φ] (h : SameCerts n n') : n'.NoneLost path ↔ n.NoneLost path := by
  rw [NodeMembers.noneLost_iff, NodeMembers.noneLost_iff, FilenamesDiffer, FilenamesDiffer,
    h.certificates]

theorem SameCerts.hasRoom_iff (h : SameCerts n n') {networkDesc : NetworkDescription} {certificate : ξ} :
    n'.HasRoom path networkDesc certificate ↔ n.HasRoom path networkDesc certificate := by
  have hothers : n'.others networkDesc = n.others networkDesc := by
    unfold others
    rw [h.nodeCerts, h.freeCerts, h.netCerts]
  constructor
  · rintro ⟨hnumber, hopens, hagree⟩
    rw [h.nodeCerts] at hnumber
    rw [h.nodeDesc] at hopens hagree
    rw [hothers] at hagree
    exact ⟨hnumber, hopens, hagree⟩
  · rintro ⟨hnumber, hopens, hagree⟩
    refine ⟨?_, ?_, ?_⟩
    · rw [h.nodeCerts]
      exact hnumber
    · rw [h.nodeDesc]
      exact hopens
    · rw [h.nodeDesc, hothers]
      exact hagree

theorem nodeDesc_receive (s : NodeState) (isReadable : Bool) (response : NodeMessage) (c : NodeCall) :
    (s.receive isReadable response c).2.nodeDesc = s.nodeDesc := by
  have hdefault : ∀ r, (s.receiveDefault r).2.nodeDesc = s.nodeDesc := by
    intro r
    unfold NodeState.receiveDefault
    dsimp only
    split
    · rfl
    · rfl
  unfold NodeState.receive
  cases c with
  | logIn =>
    dsimp only
    split
    · split
      · rfl
      · rfl
    · rfl
  | logOut =>
    dsimp only
    split
    · rfl
    · rfl
    · rfl
  | registerUser | changePassword | signKey =>
    dsimp only
    split
    · rfl
    · exact hdefault _
  | _ => exact hdefault _

/-- A certificate that cannot be read is not filed. -/
theorem file_of_not_readable (h : readable readCertificate response c = false) :
    n.file readCertificate response c = n := by
  unfold readable at h
  unfold file
  cases c with
  | registerUser pem =>
    dsimp only at h ⊢
    split
    · rename_i hmy hcert
      rw [hmy, hcert] at h
      cases h
    · rfl
  | signKey pem networkDesc =>
    dsimp only at h ⊢
    split
    · rename_i hcert
      rw [hcert] at h
      cases h
    · rfl
  | _ => rfl

/-- An operation leaves the certificates as they were, or files those of the reply. -/
theorem perform_cases (readCertificate : String → Option ξ) (n : NodeMembers κ ξ) (c : NodeCall)
    (connected keyUsable : Bool) (reply : Option NodeMessage) :
    ∃ n₁, SameCerts n n₁ ∧
      (n.files readCertificate c connected keyUsable reply = false ∧
          (n.perform readCertificate c connected keyUsable reply).2 = n₁ ∨
        n.files readCertificate c connected keyUsable reply = true ∧ ∃ response, reply = some response ∧
          readable readCertificate response c = true ∧
          (n.perform readCertificate c connected keyUsable reply).2 =
            n₁.file readCertificate response c) := by
  unfold perform files sends
  cases n.toNodeState.begin (n.isActive || connected) (n.hasKey keyUsable c) c with
  | error error =>
    exact ⟨{ n with isActive := n.isActive || error = .other }, ⟨rfl, rfl, rfl, rfl⟩, .inl ⟨rfl, rfl⟩⟩
  | ok o =>
    cases reply with
    | none => exact ⟨{ n with isActive := true }, ⟨rfl, rfl, rfl, rfl⟩, .inl ⟨rfl, rfl⟩⟩
    | some response =>
      refine ⟨{ n with
        isActive := true
        toNodeState := (n.toNodeState.receive (readable readCertificate response c) response c).2 },
        ⟨nodeDesc_receive _ _ _ _, rfl, rfl, rfl⟩, ?_⟩
      by_cases hok : response.responseType.getD .ok = .ok
      · cases hreadable : readable readCertificate response c with
        | false =>
          refine .inl ⟨by simp [hreadable], ?_⟩
          unfold receive
          simp only [hok, if_true]
          rw [file_of_not_readable hreadable, hreadable]
        | true =>
          refine .inr ⟨by simp [hok, hreadable], response, rfl, hreadable, ?_⟩
          unfold receive
          simp only [hok, if_true]
          rw [hreadable]
      · refine .inl ⟨by simp [hok], ?_⟩
        unfold receive
        simp only [hok, if_false]

/-- The certificates of a registration. -/
theorem file_registerUser {pem : X509CertOptions → String}
    (h : readable readCertificate response (.registerUser pem) = true) :
    ∃ my cert : ξ, n.file readCertificate response (.registerUser pem) = { n with
      nodeCerts := n.nodeCerts ++ [⟨certFilename n.nodeDesc (toString n.nodeCerts.length),
        certFilename n.nodeDesc (toString n.nodeCerts.length), cert⟩]
      freeCerts := n.freeCerts ++ [⟨certFilename n.nodeDesc (toString n.freeCerts.length),
        certFilename n.nodeDesc (toString n.freeCerts.length), my⟩] } := by
  obtain ⟨hmy, hcert⟩ := Bool.and_eq_true_iff.1 h
  obtain ⟨my, hmy⟩ := Option.isSome_iff_exists.1 hmy
  obtain ⟨cert, hcert⟩ := Option.isSome_iff_exists.1 hcert
  refine ⟨my, cert, ?_⟩
  rw [file]
  simp only [hmy, hcert]
  rfl

/-- The certificate for a network. -/
theorem file_signKey {pem : X509CertOptions → String} {networkDesc : NetworkDescription}
    (h : readable readCertificate response (.signKey pem networkDesc) = true) :
    ∃ cert : ξ, readCertificate ((response.signKeyResponse.getD {}).userCertificate.getD "") = some cert ∧
      n.file readCertificate response (.signKey pem networkDesc) = { n with
        netCerts := TreeMap.assign n.netCerts networkDesc
          ⟨n.nodeDesc.nodeName ++ "." ++ networkDesc.networkName,
            certFilename n.nodeDesc networkDesc.networkName, cert⟩ } := by
  obtain ⟨cert, hcert⟩ := Option.isSome_iff_exists.1 h
  refine ⟨cert, hcert, ?_⟩
  rw [file]
  simp only [hcert]
  rfl

/-- Numbers go on with the next. -/
theorem map_append_next {certs : List (CertificateStore ξ)} {name : String} {cert : ξ}
    (h : certs.map (·.filename) =
      (List.range certs.length).map fun i => certFilename node (toString i)) :
    let certs' : List (CertificateStore ξ) :=
      certs ++ [⟨name, certFilename node (toString certs.length), cert⟩]
    certs'.map (·.filename) =
      (List.range certs'.length).map fun i => certFilename node (toString i) := by
  dsimp only
  rw [List.map_append, h, List.length_append, List.length_singleton, List.range_succ, List.map_append]
  rfl

theorem Named.file (h : Named node n) (hreadable : readable readCertificate response c = true) :
    Named node (n.file readCertificate response c) := by
  cases c with
  | registerUser pem =>
    obtain ⟨my, cert, hfile⟩ := file_registerUser (n := n) hreadable
    rw [hfile, h.nodeDesc]
    exact ⟨h.nodeDesc, map_append_next h.nodeCerts, map_append_next h.freeCerts,
      fun _ => List.append_ne_nil_of_right_ne_nil _ (List.cons_ne_nil _ _), h.netCerts⟩
  | signKey pem networkDesc =>
    obtain ⟨cert, -, hfile⟩ := file_signKey (n := n) hreadable
    rw [hfile, h.nodeDesc]
    refine ⟨h.nodeDesc, h.nodeCerts, h.freeCerts, h.registered, fun desc cert' hentry => ?_⟩
    rcases TreeMap.mem_toList_assign.1 hentry with ⟨rfl, rfl⟩ | ⟨-, hold⟩
    · rw [NetworkDescription.compare_eq.1 (TreeMap.compare_getKeyD _ _)]
    · exact h.netCerts desc cert' hold
  | _ => exact h

theorem Named.onEvent (readCertificate : String → Option ξ) (h : Named node n) (e : CertEvent κ) :
    Named node (n.onEvent readCertificate e) := by
  cases e with
  | call c connected keyUsable reply =>
    obtain ⟨n₁, hsame, ⟨-, hn⟩ | ⟨-, response, -, hreadable, hn⟩⟩ :=
      perform_cases readCertificate n c connected keyUsable reply
    · rw [NodeMembers.onEvent, hn]
      exact h.of_same hsame
    · rw [NodeMembers.onEvent, hn]
      exact (h.of_same hsame).file hreadable
  | setUser user =>
    cases hactive : n.isActive with
    | true =>
      rw [NodeMembers.onEvent, setUser_of_active hactive]
      exact h
    | false =>
      rw [NodeMembers.onEvent, setUser_of_inactive hactive]
      exact ⟨h.nodeDesc, h.nodeCerts, rfl, fun hne => absurd rfl hne, by simp [NodeMembers.new]⟩
  | _ => exact ⟨h.nodeDesc, h.nodeCerts, h.freeCerts, h.registered, h.netCerts⟩

/-- Both certificates of a registration get the number that a node certificate has. -/
theorem Named.not_differ_file (h : Named node n) {pem : X509CertOptions → String}
    (hreadable : readable readCertificate response (.registerUser pem) = true) :
    ¬ (n.file readCertificate response (.registerUser pem)).FilenamesDiffer := by
  rw [(h.file hreadable).differ_iff]
  obtain ⟨my, cert, hfile⟩ := file_registerUser (n := n) hreadable
  rw [hfile]
  rintro ⟨hnil, -⟩
  exact List.append_ne_nil_of_right_ne_nil _ (List.cons_ne_nil _ _) hnil

theorem Named.differ_file_iff (h : Named node n) (hdiffer : n.FilenamesDiffer)
    {pem : X509CertOptions → String} {networkDesc : NetworkDescription}
    (hreadable : readable readCertificate response (.signKey pem networkDesc) = true) :
    (n.file readCertificate response (.signKey pem networkDesc)).FilenamesDiffer ↔
      ∀ i < n.nodeCerts.length, networkDesc.networkName ≠ toString i := by
  rw [(h.file hreadable).differ_iff]
  obtain ⟨hnil, hnumber⟩ := h.differ_iff.1 hdiffer
  obtain ⟨cert, -, hfile⟩ := file_signKey (n := n) hreadable
  rw [hfile]
  have hkey := NetworkDescription.compare_eq.1 (TreeMap.compare_getKeyD n.netCerts networkDesc)
  constructor
  · rintro ⟨-, hall⟩ i hi
    rw [← hkey]
    exact hall _ _ (TreeMap.mem_toList_assign.2 (.inl ⟨rfl, rfl⟩)) i hi
  · intro hnone
    refine ⟨hnil, fun desc cert' hentry i hi => ?_⟩
    rcases TreeMap.mem_toList_assign.1 hentry with ⟨rfl, -⟩ | ⟨-, hold⟩
    · rw [hkey]
      exact hnone i hi
    · exact hnumber desc cert' hold i hi

/-- The certificates when one for a network has been filed: the new one and the others. -/
theorem mem_certificates_assign {networkDesc : NetworkDescription} {new cert : CertificateStore ξ} :
    cert ∈ { n with netCerts := TreeMap.assign n.netCerts networkDesc new }.certificates ↔
      cert = new ∨ cert ∈ n.others networkDesc := by
  unfold certificates others
  constructor
  · intro hcert
    rcases List.mem_append.1 hcert with hold | hnet
    · exact .inr (List.mem_append_left _ hold)
    · obtain ⟨⟨desc, _⟩, hentry, rfl⟩ := List.mem_map.1 hnet
      rcases TreeMap.mem_toList_assign.1 hentry with ⟨-, rfl⟩ | ⟨hne, hold⟩
      · exact .inl rfl
      · have hname : desc.networkName ≠ networkDesc.networkName := fun heq =>
          hne (NetworkDescription.compare_eq.2 heq.symm)
        exact .inr (List.mem_append_right _
          (List.mem_map.2 ⟨_, List.mem_filter.2 ⟨hold, decide_eq_true hname⟩, rfl⟩))
  · rintro (rfl | hcert)
    · exact List.mem_append_right _
        (List.mem_map.2 ⟨_, TreeMap.mem_toList_assign.2 (.inl ⟨rfl, rfl⟩), rfl⟩)
    · rcases List.mem_append.1 hcert with hold | hnet
      · exact List.mem_append_left _ hold
      · obtain ⟨⟨desc, _⟩, hentry, rfl⟩ := List.mem_map.1 hnet
        obtain ⟨hold, hname⟩ := List.mem_filter.1 hentry
        refine List.mem_append_right _
          (List.mem_map.2 ⟨_, TreeMap.mem_toList_assign.2 (.inr ⟨fun heq => ?_, hold⟩), rfl⟩)
        exact of_decide_eq_true hname (NetworkDescription.compare_eq.1 heq).symm

theorem others_subset (networkDesc : NetworkDescription) : n.others networkDesc ⊆ n.certificates := by
  unfold certificates others
  exact List.append_subset.2 ⟨List.subset_append_left _ _,
    fun _ h => List.mem_append_right _ (List.map_subset _ (List.filter_subset_self _) h)⟩

/-- A certificate for a network is filed, and none is lost when there was room for it. -/
theorem Named.noneLost_file_iff [DecidableEq φ] (h : Named node n) (hnone : n.NoneLost path)
    {pem : X509CertOptions → String} {networkDesc : NetworkDescription} {certificate : ξ}
    (hcert : readCertificate ((response.signKeyResponse.getD {}).userCertificate.getD "") =
      some certificate) :
    (n.file readCertificate response (.signKey pem networkDesc)).NoneLost path ↔
      n.HasRoom path networkDesc certificate := by
  have hreadable : readable readCertificate response (.signKey pem networkDesc) = true :=
    Option.isSome_of_eq_some hcert
  obtain ⟨hdiffer, hstored⟩ := noneLost_iff.1 hnone
  rw [noneLost_iff, h.differ_file_iff hdiffer hreadable]
  obtain ⟨cert, hcert', hfile⟩ := file_signKey (n := n) hreadable
  obtain rfl := Option.some_inj.1 (hcert.symm.trans hcert')
  rw [hfile]
  constructor
  · rintro ⟨hnumber, hopens, hagree⟩
    refine ⟨hnumber, hopens _ (mem_certificates_assign.2 (.inl rfl)), fun cert hother hsame => ?_⟩
    exact hagree cert (mem_certificates_assign.2 (.inr hother)) _
      (mem_certificates_assign.2 (.inl rfl)) hsame
  · rintro ⟨hnumber, hopens, hagree⟩
    have hold := hstored.mono (n.others_subset networkDesc)
    refine ⟨hnumber, fun cert hcert => ?_, fun cert hcert cert' hcert' hsame => ?_⟩
    · rcases mem_certificates_assign.1 hcert with rfl | hcert
      · exact hopens
      · exact hold.opens cert hcert
    · rcases mem_certificates_assign.1 hcert with rfl | hcert
      · rcases mem_certificates_assign.1 hcert' with rfl | hcert'
        · rfl
        · exact (hagree cert' hcert' hsame.symm).symm
      · rcases mem_certificates_assign.1 hcert' with rfl | hcert'
        · exact hagree cert hcert hsame
        · exact hold.agree cert hcert cert' hcert' hsame

/-- What is left of the certificates after `setUser` are those of the node. -/
theorem Named.noneLost_setUser [DecidableEq φ] (h : Named node n) (hnone : n.NoneLost path) (user : MyUser) :
    (n.onEvent readCertificate (.setUser user)).NoneLost path := by
  cases hactive : n.isActive with
  | true =>
    rw [NodeMembers.onEvent, setUser_of_active hactive]
    exact hnone
  | false =>
    have hnamed := h.onEvent readCertificate (.setUser user)
    rw [NodeMembers.onEvent, setUser_of_inactive hactive] at hnamed ⊢
    refine noneLost_iff.2 ⟨hnamed.differ_iff.2 ⟨rfl, by simp [NodeMembers.new]⟩, ?_⟩
    refine (noneLost_iff.1 hnone).2.mono fun cert hcert => ?_
    have hnode : cert ∈ n.nodeCerts := by simpa [certificates, NodeMembers.new] using hcert
    exact List.mem_append_left _ (List.mem_append_left _ hnode)

/-- **One event.** Where none is lost, none is after it exactly when it loses none. -/
theorem Named.noneLost_onEvent_iff [DecidableEq φ] (h : Named node n) (hnone : n.NoneLost path)
    (e : CertEvent κ) : (n.onEvent readCertificate e).NoneLost path ↔ n.LosesNone readCertificate path e := by
  cases e with
  | call c connected keyUsable reply =>
    obtain ⟨n₁, hsame, hcases⟩ :=
      perform_cases readCertificate n c connected keyUsable reply
    have hnamed := h.of_same hsame
    have hnone₁ : n₁.NoneLost path := hsame.noneLost_iff.2 hnone
    rw [NodeMembers.onEvent]
    cases c with
    | registerUser pem =>
      rcases hcases with ⟨hfiles, hn⟩ | ⟨hfiles, response, -, hreadable, hn⟩
      · rw [hn]
        exact iff_of_true hnone₁ hfiles
      · rw [hn]
        refine iff_of_false (fun hn' => hnamed.not_differ_file hreadable hn'.differ) ?_
        rw [LosesNone, hfiles]
        exact Bool.noConfusion
    | signKey pem networkDesc =>
      rw [LosesNone]
      rcases hcases with ⟨hfiles, hn⟩ | ⟨hfiles, response, rfl, hreadable, hn⟩
      · rw [hn, hfiles]
        exact iff_of_true hnone₁ fun hnone => nomatch hnone
      · obtain ⟨certificate, hcert⟩ := Option.isSome_iff_exists.1 hreadable
        rw [hn, hnamed.noneLost_file_iff hnone₁ hcert, hsame.hasRoom_iff]
        constructor
        · rintro hroom - _ ⟨⟩ other hother
          obtain rfl := Option.some_inj.1 (hcert.symm.trans hother)
          exact hroom
        · intro hlose
          exact hlose hfiles response rfl certificate hcert
    | _ =>
      rcases hcases with ⟨-, hn⟩ | ⟨-, response, -, -, hn⟩
      · rw [hn]
        exact iff_of_true hnone₁ trivial
      · rw [hn]
        exact iff_of_true hnone₁ trivial
  | setUser user => exact iff_of_true (h.noneLost_setUser hnone user) trivial
  | _ =>
    have hsame : ∀ {n' : NodeMembers κ ξ}, SameCerts n n' → n'.NoneLost path := fun h =>
      h.noneLost_iff.2 hnone
    exact iff_of_true (hsame ⟨rfl, rfl, rfl, rfl⟩) trivial

/-! ### Runs -/

theorem named_new (nodeDesc : NodeDescription) (user : MyUser) :
    Named nodeDesc (new nodeDesc user : NodeMembers κ ξ) :=
  ⟨rfl, rfl, rfl, fun h => absurd rfl h, by simp [new]⟩

theorem named_afterEvents (events : List (CertEvent κ)) :
    ∀ {n : NodeMembers κ ξ}, Named node n → Named node (n.afterEvents readCertificate events) := by
  induction events with
  | nil =>
    intro n h
    exact h
  | cons e events ih =>
    intro n h
    exact ih (h.onEvent readCertificate e)

/-- **From a state in which no certificate is lost, none is at any time exactly when no registration files
its certificates and every certificate that is signed for a network has room.** -/
theorem noneLost_iff_along [DecidableEq φ] (readCertificate : String → Option ξ) (path : String → Option φ)
    (nodeDesc : NodeDescription) (user : MyUser) (before events : List (CertEvent κ))
    (hnone : ((new nodeDesc user).afterEvents readCertificate before).NoneLost path) :
    (∀ part, part <+: events →
      (((new nodeDesc user).afterEvents readCertificate before).afterEvents readCertificate
        part).NoneLost path) ↔
      Runs.Along (fun n e => some (n.onEvent readCertificate e)) (LosesNone readCertificate path)
        ((new nodeDesc user).afterEvents readCertificate before) events :=
  Runs.inv_iff_along_total (Named nodeDesc) (NoneLost path) (LosesNone readCertificate path)
    (fun _ e h => h.onEvent readCertificate e) (fun _ e h hd => h.noneLost_onEvent_iff hd e)
    (named_afterEvents before (named_new nodeDesc user)) hnone

/-- Alice makes a key and registers. -/
def registration : List (CertEvent Unit) :=
  [.addKey ⟨"node", "node.pem", ()⟩,
    .call (.registerUser fun _ => "") true true (some {
      responseType := some .ok
      registerResponse := some { userCertificate := some "user", nodeCertificate := some "node" } })]

/-- She leaves the node to bob, who logs in. -/
def handedOver : List (CertEvent Unit) :=
  registration ++ [.setActive false, .setUser bob, .addKey ⟨"node", "node.pem", ()⟩,
    .call .logIn true true (some {
      responseType := some .ok
      loginResponse := some { cookie := some "c00kie" } })]

/-- A key is signed for a network. -/
def signed (networkDesc : NetworkDescription) : CertEvent Unit :=
  .call (.signKey (fun _ => "") networkDesc) true true (some {
    responseType := some .ok
    signKeyResponse := some { userCertificate := some "key" } })

/-- A directory without directories in it. -/
def flat (name : String) : Option String := if '/' ∈ name.toList then none else some name

theorem noneLost_signed :
    let n : NodeMembers Unit String :=
      (new aliceNode.nodeDesc aliceNode.myUser).afterEvents some handedOver
    n.files some (.signKey (fun _ => "") den) true true (some {
      responseType := some .ok
      signKeyResponse := some { userCertificate := some "key" } }) = true ∧
      ∀ part, part <+: [signed den] → (n.afterEvents some part).NoneLost flat := by
  have hnumber : ∀ i < 1, den.networkName ≠ toString i := by decide
  refine ⟨by decide +kernel, ?_⟩
  refine (noneLost_iff_along some flat aliceNode.nodeDesc aliceNode.myUser handedOver [signed den] ?_).2 ?_
  · refine noneLost_iff.2 ⟨?_, by decide +kernel, by decide +kernel⟩
    unfold FilenamesDiffer
    decide +kernel
  · refine ⟨?_, fun _ _ => trivial⟩
    rintro - _ ⟨⟩ certificate ⟨⟩
    exact ⟨hnumber, by decide +kernel, by decide +kernel⟩

/-- The certificate of the user is filed under the name of that of the node, and is not on disk. -/
theorem not_noneLost_registration :
    let n : NodeMembers Unit String :=
      (new aliceNode.nodeDesc aliceNode.myUser).afterEvents some registration
    n.certificates.map (fun cert => (cert.filename, cert.certificate)) =
        [("node.0.pem", "node"), ("node.0.pem", "user")] ∧
      n.save flat (fun _ => none) "node.0.pem" = some "node" ∧ ¬ n.NoneLost flat := by
  refine ⟨by decide +kernel, by decide +kernel, fun h => ?_⟩
  have hdiffer := h.differ
  unfold FilenamesDiffer at hdiffer
  revert hdiffer
  decide +kernel

end NodeMembers
end Sp2p.Sercli
