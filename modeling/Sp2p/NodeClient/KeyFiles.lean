import Sp2p.Lib.Pattern
import Sp2p.Sercli.ManagerKeys
import Sp2p.Sercli.NodeKeys

/-!
# The files of keys and certificates

Keys and certificates are filed under names put together of the names of their node and network with
dots, and the client finds out by regular expressions what a file of a directory is. `keys_comeBack_iff` says
for which names it finds out the same.
-/

namespace Sp2p.NodeClient

open Pattern Sercli

/-! ### The names -/

section Names

variable (node : NodeDescription) (network : NetworkDescription)

def nodeKeyFile : String := node.nodeName ++ ".pem"

def networkKeyFile : String := node.nodeName ++ "." ++ network.networkName ++ ".pem"

/-- The certificate that is the `i`th. -/
def nodeCertFile (i : Nat) : String := node.nodeName ++ "." ++ toString i ++ ".pem"

def networkCertFile : String := node.nodeName ++ "." ++ network.networkName ++ ".pem"

variable {κ ξ : Type}

/-- The handler `gk`, with the key that was generated. -/
def gk (key : κ) : Option NetworkDescription → NodeEvent κ ξ
  | some network =>
    .addNetworkKey network ⟨node.nodeName ++ "." ++ network.networkName, networkKeyFile node network, key⟩
  | none => .addKey ⟨node.nodeName, nodeKeyFile node, key⟩

variable {n : NodeMembers κ ξ} {readCertificate : String → Option ξ} {response : Protocol.NodeMessage}

/-- The node certificate of a registration is filed under the next of these names. -/
theorem nodeCerts_registerUser {pem : X509CertOptions → String} {my cert : ξ}
    (hmy : readCertificate ((response.registerResponse.getD {}).userCertificate.getD "") = some my)
    (hcert : readCertificate ((response.registerResponse.getD {}).nodeCertificate.getD "") = some cert) :
    (n.file readCertificate response (.registerUser pem)).nodeCerts =
      n.nodeCerts ++ [⟨nodeCertFile n.nodeDesc n.nodeCerts.length,
        nodeCertFile n.nodeDesc n.nodeCerts.length, cert⟩] := by
  rw [NodeMembers.file]
  simp only [hmy, hcert]
  rfl

/-- So is the certificate of a network. -/
theorem netCerts_signKey {pem : X509CertOptions → String} {cert : ξ}
    (hcert : readCertificate ((response.signKeyResponse.getD {}).userCertificate.getD "") = some cert) :
    (n.file readCertificate response (.signKey pem network)).netCerts =
      TreeMap.assign n.netCerts network ⟨n.nodeDesc.nodeName ++ "." ++ network.networkName,
        networkCertFile n.nodeDesc network, cert⟩ := by
  rw [NodeMembers.file]
  simp only [hcert]
  rfl

end Names

/-! ### The scans -/

/-- `\w`, for the characters of the classic locale. -/
def isWord (c : Char) : Bool := c.isAlphanum || c = '_'

/-- `\.pem`. -/
def pem : List (Piece Char) := literals ['.', 'p', 'e', 'm']

/-- `(\w+)\.pem`. -/
def wordPem : List (Piece Char) := .group isWord :: pem

/-- `(\w+)\.(\w+)\.pem`. -/
def wordWordPem : List (Piece Char) := .group isWord :: .literal '.' :: .group isWord :: pem

/-- `(\w+)\.([0-9]+)\.pem`. -/
def wordNumberPem : List (Piece Char) := .group isWord :: .literal '.' :: .group Char.isDigit :: pem

inductive ScanException
  | load | noSuchNode | noSuchNetwork
  deriving DecidableEq

section Scan

variable {κ ξ : Type} (m : Manager)

/-- `sm[i]`. -/
def capture (sm : List (List Char)) (i : Nat) : String := String.ofList (sm.getD (i - 1) [])

/-- A name is tried with the one expression and then with the other; `none` is a name that is skipped. -/
def ifMatches {β : Type} (reg1 reg2 : List (Piece Char)) (name : String)
    (first second : List (List Char) → β) : Option β :=
  match regexMatch reg1 name.toList with
  | some sm => some (first sm)
  | none => (regexMatch reg2 name.toList).map second

/-- `load` is what Botan reads in a file, `none` when it throws. -/
def loadFile {α : Type} (load : String → Option α) (name : String) : Except ScanException α :=
  match load name with
  | some a => .ok a
  | none => .error .load

def findNode (nodeName : String) : Except ScanException NodePtr :=
  match m.getNode nodeName with
  | some node => .ok node
  | none => .error .noSuchNode

def findNetwork (networkName : String) : Except ScanException Network :=
  match m.getNetwork networkName with
  | some network => .ok network
  | none => .error .noSuchNetwork

/-- The file is read and attached to the node of this name. -/
def attachToNode {α : Type} (load : String → Option α) (name nodeName : String)
    (f : α → NodeEvent κ ξ) : Except ScanException (NodePtr × NodeEvent κ ξ) := do
  let store ← loadFile load name
  let node ← findNode m nodeName
  .ok (node, f store)

/-- The file is read and attached to the node and the network of these names. -/
def attachToNetwork {α : Type} (load : String → Option α) (name nodeName networkName : String)
    (f : NetworkDescription → α → NodeEvent κ ξ) : Except ScanException (NodePtr × NodeEvent κ ξ) := do
  let store ← loadFile load name
  let node ← findNode m nodeName
  let network ← findNetwork m networkName
  .ok (node, f network.networkDesc store)

/-- The body of the loop of `scanForPrivKeys`: what is done to which node. -/
def scanPrivKey (load : String → Option κ) (name : String) :
    Option (Except ScanException (NodePtr × NodeEvent κ ξ)) :=
  ifMatches wordPem wordWordPem name
    (fun sm => attachToNode m load name (capture sm 1) fun key =>
      .addKey ⟨capture sm 1, name, key⟩)
    (fun sm => attachToNetwork m load name (capture sm 1) (capture sm 2) fun net key =>
      .addNetworkKey net ⟨capture sm 1 ++ "." ++ capture sm 2, name, key⟩)

/-- The body of the loop of `scanForCerts`. -/
def scanCert (load : String → Option ξ) (name : String) :
    Option (Except ScanException (NodePtr × NodeEvent κ ξ)) :=
  ifMatches wordNumberPem wordWordPem name
    (fun sm => attachToNode m load name (capture sm 1) fun cert =>
      .addNodeCert ⟨capture sm 1 ++ "." ++ capture sm 2, name, cert⟩)
    (fun sm => attachToNetwork m load name (capture sm 1) (capture sm 2) fun network cert =>
      .addNetworkCert network ⟨capture sm 1 ++ "." ++ capture sm 2, name, cert⟩)

/-- The loop over the files of a directory: what was attached, and what it threw. -/
def scan {β : Type} (body : String → Option (Except ScanException β)) :
    List String → List β × Option ScanException
  | [] => ([], none)
  | name :: names =>
    match body name with
    | none => scan body names
    | some (.error e) => ([], some e)
    | some (.ok it) => let (its, e) := scan body names; (it :: its, e)

def scanForPrivKeys (load : String → Option κ) (filenames : List String) :
    List (NodePtr × NodeEvent κ ξ) × Option ScanException :=
  scan (scanPrivKey m load) filenames

def scanForCerts (load : String → Option ξ) (filenames : List String) :
    List (NodePtr × NodeEvent κ ξ) × Option ScanException :=
  scan (scanCert m load) filenames

end Scan

/-! ### What a file is -/

/-- What is filed, and for which network. -/
inductive Kind
  | nodeKey
  | networkKey (network : NetworkDescription)
  | nodeCert
  | networkCert (network : NetworkDescription)
  deriving DecidableEq

variable {κ ξ : Type}

def kind : NodeEvent κ ξ → Option Kind
  | .addKey _ => some .nodeKey
  | .addNetworkKey network _ => some (.networkKey network)
  | .addNodeCert _ => some .nodeCert
  | .addNetworkCert network _ => some (.networkCert network)
  | _ => none

/-- The node a file is attached to, and as what. -/
def attached (out : Option (Except ScanException (NodePtr × NodeEvent κ ξ))) : Option (NodePtr × Kind) :=
  match out with
  | some (.ok (node, e)) => (kind e).map (node, ·)
  | _ => none

/-- The files of the node and the network, as the scans find them, are what they were filed as. -/
structure ComesBack (m : Manager) (loadKey : String → Option κ) (loadCert : String → Option ξ)
    (node : NodePtr) (network : NetworkDescription) : Prop where
  nodeKey : attached (scanPrivKey (ξ := ξ) m loadKey (nodeKeyFile (m.heap node).nodeDesc)) =
    some (node, .nodeKey)
  networkKey : attached (scanPrivKey (ξ := ξ) m loadKey (networkKeyFile (m.heap node).nodeDesc network)) =
    some (node, .networkKey network)
  nodeCert : ∀ i, attached (scanCert (κ := κ) m loadCert (nodeCertFile (m.heap node).nodeDesc i)) =
    some (node, .nodeCert)
  networkCert : attached (scanCert (κ := κ) m loadCert (networkCertFile (m.heap node).nodeDesc network)) =
    some (node, .networkCert network)

variable {m : Manager} {name : String}

/-! ### One file -/

theorem attached_attachToNode_iff {α : Type} {load : String → Option α} {nodeName : String}
    {f : α → NodeEvent κ ξ} {k k' : Kind} {node : NodePtr} (hf : ∀ store, kind (f store) = some k) :
    attached (some (attachToNode m load name nodeName f)) = some (node, k') ↔
      (load name).isSome ∧ m.getNode nodeName = some node ∧ k = k' := by
  unfold attachToNode loadFile findNode
  cases load name with
  | none => simp [attached, bind, Except.bind]
  | some store =>
    cases m.getNode nodeName with
    | none => simp [attached, bind, Except.bind]
    | some p => simp [attached, bind, Except.bind, hf]

theorem attached_attachToNetwork_iff {α : Type} {load : String → Option α}
    {nodeName networkName : String} {f : NetworkDescription → α → NodeEvent κ ξ}
    {k : NetworkDescription → Kind} {k' : Kind} {node : NodePtr}
    (hf : ∀ network store, kind (f network store) = some (k network)) :
    attached (some (attachToNetwork m load name nodeName networkName f)) = some (node, k') ↔
      (load name).isSome ∧ m.getNode nodeName = some node ∧
        ∃ network, m.getNetwork networkName = some network ∧ k network.networkDesc = k' := by
  unfold attachToNetwork loadFile findNode findNetwork
  cases load name with
  | none => simp [attached, bind, Except.bind]
  | some store =>
    cases m.getNode nodeName with
    | none => simp [attached, bind, Except.bind]
    | some p =>
      cases m.getNetwork networkName with
      | none => simp [attached, bind, Except.bind]
      | some network => simp [attached, bind, Except.bind, hf]

section IfMatches

variable {α : Type} {load : String → Option α} {reg1 reg2 : List (Piece Char)}
  {f : List (List Char) → α → NodeEvent κ ξ}
  {g : List (List Char) → NetworkDescription → α → NodeEvent κ ξ}
  {k : Kind} {j : NetworkDescription → Kind} {node : NodePtr}

/-- What only the first expression gives. -/
theorem attached_first_iff (hf : ∀ sm store, kind (f sm store) = some k)
    (hg : ∀ sm desc store, kind (g sm desc store) = some (j desc)) (hne : ∀ desc, j desc ≠ k) :
    attached (ifMatches reg1 reg2 name
      (fun sm => attachToNode m load name (capture sm 1) (f sm))
      (fun sm => attachToNetwork m load name (capture sm 1) (capture sm 2) (g sm))) = some (node, k) ↔
      ∃ sm, regexMatch reg1 name.toList = some sm ∧ (load name).isSome ∧
        m.getNode (capture sm 1) = some node := by
  unfold ifMatches
  cases regexMatch reg1 name.toList with
  | some sm => simp [attached_attachToNode_iff (hf sm)]
  | none =>
    cases regexMatch reg2 name.toList with
    | none => simp [attached]
    | some sm => simp [attached_attachToNetwork_iff (hg sm), hne]

/-- What only the second gives. -/
theorem attached_second_iff (hf : ∀ sm store, kind (f sm store) = some k)
    (hg : ∀ sm desc store, kind (g sm desc store) = some (j desc)) (hne : ∀ desc, j desc ≠ k)
    (hinj : Function.Injective j) {desc : NetworkDescription} :
    attached (ifMatches reg1 reg2 name
      (fun sm => attachToNode m load name (capture sm 1) (f sm))
      (fun sm => attachToNetwork m load name (capture sm 1) (capture sm 2) (g sm))) =
        some (node, j desc) ↔
      regexMatch reg1 name.toList = none ∧ ∃ sm, regexMatch reg2 name.toList = some sm ∧
        (load name).isSome ∧ m.getNode (capture sm 1) = some node ∧
        ∃ network, m.getNetwork (capture sm 2) = some network ∧ network.networkDesc = desc := by
  unfold ifMatches
  cases regexMatch reg1 name.toList with
  | some sm => simp [attached_attachToNode_iff (hf sm), (hne desc).symm]
  | none =>
    cases regexMatch reg2 name.toList with
    | none => simp [attached]
    | some sm => simp [attached_attachToNetwork_iff (hg sm), hinj.eq_iff]

end IfMatches

theorem isWord_dot : isWord '.' = false := rfl

theorem isDigit_dot : Char.isDigit '.' = false := rfl

/-- The name without its end `.pem`. -/
def Stem (name : String) (stem : List Char) : Prop := name.toList = stem ++ ['.', 'p', 'e', 'm']

theorem Stem.unique {stem stem' : List Char} (h : Stem name stem) (h' : Stem name stem') : stem = stem' :=
  List.append_cancel_right (h.symm.trans h')

variable {stem : List Char} {sm : List (List Char)}

theorem wordPem_iff (h : Stem name stem) :
    regexMatch wordPem name.toList = some sm ↔ sm = [stem] ∧ Word isWord stem := by
  rw [wordPem, pem, regexMatch_word_iff isWord_dot]
  constructor
  · rintro ⟨word, rfl, hname, hword⟩
    obtain rfl := h.unique hname
    exact ⟨rfl, hword⟩
  · rintro ⟨rfl, hword⟩
    exact ⟨stem, rfl, h, hword⟩

theorem parts_iff {cls : Char → Bool} (hcls : cls '.' = false) {part part' : List Char}
    (h : Stem name (part ++ '.' :: part')) :
    regexMatch (.group isWord :: .literal '.' :: .group cls :: pem) name.toList = some sm ↔
      sm = [part, part'] ∧ Word isWord part ∧ Word cls part' := by
  rw [pem, regexMatch_words_iff isWord_dot hcls]
  constructor
  · rintro ⟨word, word', rfl, hname, hword, hword'⟩
    have hstem : Stem name (word ++ '.' :: word') := by
      rw [Stem, hname, List.append_assoc, List.cons_append]
    obtain ⟨rfl, rfl⟩ := (append_cons_eq_words_iff isWord_dot hcls hword hword').1 (h.unique hstem)
    exact ⟨rfl, hword, hword'⟩
  · rintro ⟨rfl, hword, hword'⟩
    refine ⟨part, part', rfl, ?_, hword, hword'⟩
    rw [h, List.append_assoc, List.cons_append]

/-- With a dot in it, it is not one word. -/
theorem wordPem_eq_none {part part' : List Char} (h : Stem name (part ++ '.' :: part')) :
    regexMatch wordPem name.toList = none := by
  cases hmatch : regexMatch wordPem name.toList with
  | none => rfl
  | some sm =>
    obtain ⟨-, hword⟩ := (wordPem_iff h).1 hmatch
    exact absurd (List.mem_append_right _ List.mem_cons_self) (not_mem_word isWord_dot hword)

section Kinds

variable {loadKey : String → Option κ} {loadCert : String → Option ξ} {node : NodePtr}
  {part part' : List Char}

theorem scanPrivKey_nodeKey_iff (h : Stem name stem) :
    attached (scanPrivKey (ξ := ξ) m loadKey name) = some (node, .nodeKey) ↔
      Word isWord stem ∧ (loadKey name).isSome ∧ m.getNode (String.ofList stem) = some node := by
  rw [scanPrivKey, attached_first_iff (j := .networkKey) (fun _ _ => rfl) (fun _ _ _ => rfl)
    (by simp)]
  simp only [wordPem_iff h]
  constructor
  · rintro ⟨sm, ⟨rfl, hword⟩, hattached⟩
    exact ⟨hword, hattached⟩
  · rintro ⟨hword, hattached⟩
    exact ⟨[stem], ⟨rfl, hword⟩, hattached⟩

theorem scanPrivKey_networkKey_iff (h : Stem name (part ++ '.' :: part')) {desc : NetworkDescription} :
    attached (scanPrivKey (ξ := ξ) m loadKey name) = some (node, .networkKey desc) ↔
      (Word isWord part ∧ Word isWord part') ∧ (loadKey name).isSome ∧
        m.getNode (String.ofList part) = some node ∧
        ∃ network, m.getNetwork (String.ofList part') = some network ∧ network.networkDesc = desc := by
  rw [scanPrivKey, attached_second_iff (j := .networkKey) (fun _ _ => rfl) (fun _ _ _ => rfl) (by simp)
    (fun _ _ => Kind.networkKey.inj), and_iff_right (wordPem_eq_none h), wordWordPem]
  simp only [parts_iff isWord_dot h]
  constructor
  · rintro ⟨sm, ⟨rfl, hwords⟩, hattached⟩
    exact ⟨hwords, hattached⟩
  · rintro ⟨hwords, hattached⟩
    exact ⟨[part, part'], ⟨rfl, hwords⟩, hattached⟩

theorem scanCert_nodeCert_iff (h : Stem name (part ++ '.' :: part')) :
    attached (scanCert (κ := κ) m loadCert name) = some (node, .nodeCert) ↔
      (Word isWord part ∧ Word Char.isDigit part') ∧ (loadCert name).isSome ∧
        m.getNode (String.ofList part) = some node := by
  rw [scanCert, attached_first_iff (j := .networkCert) (fun _ _ => rfl) (fun _ _ _ => rfl)
    (by simp),
    wordNumberPem]
  simp only [parts_iff isDigit_dot h]
  constructor
  · rintro ⟨sm, ⟨rfl, hwords⟩, hattached⟩
    exact ⟨hwords, hattached⟩
  · rintro ⟨hwords, hattached⟩
    exact ⟨[part, part'], ⟨rfl, hwords⟩, hattached⟩

/-- A number is taken for that of a node certificate. -/
theorem scanCert_networkCert_iff (h : Stem name (part ++ '.' :: part')) {desc : NetworkDescription} :
    attached (scanCert (κ := κ) m loadCert name) = some (node, .networkCert desc) ↔
      (Word isWord part ∧ Word isWord part' ∧ ¬ Word Char.isDigit part') ∧ (loadCert name).isSome ∧
        m.getNode (String.ofList part) = some node ∧
        ∃ network, m.getNetwork (String.ofList part') = some network ∧ network.networkDesc = desc := by
  have hnumber : regexMatch wordNumberPem name.toList = none ↔
      ¬ (Word isWord part ∧ Word Char.isDigit part') := by
    rw [Option.eq_none_iff_forall_ne_some]
    simp only [wordNumberPem, ne_eq, parts_iff isDigit_dot h, not_and, forall_eq]
  rw [scanCert, attached_second_iff (j := .networkCert) (fun _ _ => rfl) (fun _ _ _ => rfl) (by simp)
    (fun _ _ => Kind.networkCert.inj), hnumber, wordWordPem]
  simp only [parts_iff isWord_dot h]
  constructor
  · rintro ⟨hnot, sm, ⟨rfl, hword, hword'⟩, hattached⟩
    exact ⟨⟨hword, hword', fun hdigits => hnot ⟨hword, hdigits⟩⟩, hattached⟩
  · rintro ⟨⟨hword, hword', hnot⟩, hattached⟩
    exact ⟨fun hwords => hnot hwords.2, [part, part'], ⟨rfl, hword, hword'⟩, hattached⟩

end Kinds

/-- A scan of files that are all attached attaches each. -/
theorem scan_attaches {body : String → Option (Except ScanException (NodePtr × NodeEvent κ ξ))}
    {names : List String} (h : ∀ name ∈ names, (attached (body name)).isSome) :
    (scan body names).2 = none ∧
      (scan body names).1.map (fun it => attached (some (.ok it))) =
        names.map fun name => attached (body name) := by
  induction names with
  | nil => exact ⟨rfl, rfl⟩
  | cons name names ih =>
    obtain ⟨hname, hnames⟩ := List.forall_mem_cons.1 h
    obtain ⟨hnone, hmap⟩ := ih hnames
    rw [scan]
    cases hbody : body name with
    | none => simp [hbody, attached] at hname
    | some out =>
      cases out with
      | error e => simp [hbody, attached] at hname
      | ok it =>
        refine ⟨hnone, ?_⟩
        rw [List.map_cons, List.map_cons, hbody, hmap]

/-! ### All files -/

theorem stem_nodeKeyFile (node : NodeDescription) : Stem (nodeKeyFile node) node.nodeName.toList := by
  rw [Stem, nodeKeyFile, String.toList_append]
  rfl

theorem stem_dot (a b : String) : Stem (a ++ "." ++ b ++ ".pem") (a.toList ++ '.' :: b.toList) := by
  rw [Stem, String.toList_append, String.toList_append, String.toList_append]
  simp only [List.append_assoc]
  rfl

theorem word_toString (i : Nat) : Word Char.isDigit (toString i).toList := by
  rw [show (toString i).toList = Nat.toDigits 10 i from Nat.toList_repr]
  exact ⟨Nat.toDigits_ne_nil, fun c hc => Nat.isDigit_of_mem_toDigits (by decide) (by decide) hc⟩

/-- **Keys and certificates come back to their owner exactly when the name of the node and that of the
network are words and the latter is not a number.** The manager finds the node and the network by their
names, and the files can be read. -/
theorem keys_comeBack_iff (m : Manager) (loadKey : String → Option κ) (loadCert : String → Option ξ)
    (node : NodePtr) (network : Network)
    (hnode : m.getNode (m.heap node).nodeDesc.nodeName = some node)
    (hnetwork : m.getNetwork network.networkDesc.networkName = some network)
    (hnodeKey : (loadKey (nodeKeyFile (m.heap node).nodeDesc)).isSome)
    (hnetworkKey : (loadKey (networkKeyFile (m.heap node).nodeDesc network.networkDesc)).isSome)
    (hnodeCert : ∀ i, (loadCert (nodeCertFile (m.heap node).nodeDesc i)).isSome)
    (hnetworkCert : (loadCert (networkCertFile (m.heap node).nodeDesc network.networkDesc)).isSome) :
    ComesBack m loadKey loadCert node network.networkDesc ↔
      Word isWord (m.heap node).nodeDesc.nodeName.toList ∧
        Word isWord network.networkDesc.networkName.toList ∧
        ¬ Word Char.isDigit network.networkDesc.networkName.toList := by
  have hcert := stem_dot (m.heap node).nodeDesc.nodeName network.networkDesc.networkName
  constructor
  · intro h
    exact ((scanCert_networkCert_iff hcert).1 h.networkCert).1
  · rintro ⟨hword, hword', hnumber⟩
    have hnode' : m.getNode (String.ofList (m.heap node).nodeDesc.nodeName.toList) = some node := by
      rw [String.ofList_toList, hnode]
    have hnetwork' : ∃ found, m.getNetwork (String.ofList network.networkDesc.networkName.toList) =
        some found ∧ found.networkDesc = network.networkDesc := by
      rw [String.ofList_toList]
      exact ⟨network, hnetwork, rfl⟩
    refine ⟨?_, ?_, fun i => ?_, ?_⟩
    · exact (scanPrivKey_nodeKey_iff (stem_nodeKeyFile _)).2 ⟨hword, hnodeKey, hnode'⟩
    · exact (scanPrivKey_networkKey_iff hcert).2 ⟨⟨hword, hword'⟩, hnetworkKey, hnode', hnetwork'⟩
    · exact (scanCert_nodeCert_iff (stem_dot _ _)).2 ⟨⟨hword, word_toString i⟩, hnodeCert i, hnode'⟩
    · exact (scanCert_networkCert_iff hcert).2
        ⟨⟨hword, hword', hnumber⟩, hnetworkCert, hnode', hnetwork'⟩

/-- A manager with a node and a network. -/
def oneOfEach (network : NetworkDescription) : Manager :=
  { Manager.addNode {} ⟨⟨"127.0.0.1", "node1", 10⟩, .default⟩ with
    networksMap := (∅ : Std.ExtTreeMap NetworkDescription Network).insert network
      { networkDesc := network } }

theorem oneOfEach_getNode (network : NetworkDescription) :
    (oneOfEach network).getNode "node1" = some 0 := by
  have hentry : (⟨"127.0.0.1", "node1", 10⟩, 0) ∈ (oneOfEach network).nodesMap.toList :=
    TreeMap.mem_toList_assign.2
      (.inl ⟨(Std.ExtTreeMap.getKeyD_eq_fallback Std.ExtTreeMap.not_mem_empty).symm, rfl⟩)
  exact Manager.getNode_of_entry hentry

theorem oneOfEach_getNetwork (network : NetworkDescription) :
    (oneOfEach network).getNetwork network.networkName = some { networkDesc := network } :=
  Manager.getNetwork_of_entry (TreeMap.mem_toList_insert.2 (.inl ⟨rfl, rfl⟩))

theorem keys_comeBack_den :
    ComesBack (oneOfEach NodeMembers.den) (fun _ => some ()) (fun _ => some ()) 0 NodeMembers.den :=
  (keys_comeBack_iff (oneOfEach NodeMembers.den) (fun _ => some ()) (fun _ => some ()) 0
    (Network.mk NodeMembers.den ∅) (oneOfEach_getNode _) (oneOfEach_getNetwork _) rfl rfl
    (fun _ => rfl) rfl).2 (by decide +kernel)

/-- A network with a number for a name. -/
def numbered : NetworkDescription := { NodeMembers.den with networkName := "2024" }

/-- Its certificate comes back as one of the node. -/
theorem not_comesBack_numbered :
    networkCertFile ⟨"127.0.0.1", "node1", 10⟩ numbered = "node1.2024.pem" ∧
      attached (scanCert (κ := Unit) (oneOfEach numbered) (fun _ => some ()) "node1.2024.pem") =
        some (0, .nodeCert) ∧
      ¬ ComesBack (oneOfEach numbered) (fun _ => some ()) (fun _ => some ()) 0 numbered := by
  have hfile : networkCertFile ⟨"127.0.0.1", "node1", 10⟩ numbered = "node1.2024.pem" := by decide
  have hscan : attached (scanCert (κ := Unit) (oneOfEach numbered) (fun _ => some ())
      "node1.2024.pem") = some (0, .nodeCert) := by
    have hstem : Stem "node1.2024.pem" ("node1".toList ++ '.' :: "2024".toList) := by
      rw [Stem]
      decide
    refine (scanCert_nodeCert_iff hstem).2 ⟨by decide +kernel, rfl, ?_⟩
    rw [String.ofList_toList, oneOfEach_getNode]
  refine ⟨hfile, hscan, fun h => ?_⟩
  have hcert := h.networkCert
  replace hcert : attached (scanCert (κ := Unit) (oneOfEach numbered) (fun _ => some ())
      (networkCertFile ⟨"127.0.0.1", "node1", 10⟩ numbered)) = some (0, .networkCert numbered) := hcert
  rw [hfile, hscan] at hcert
  cases hcert

end Sp2p.NodeClient
