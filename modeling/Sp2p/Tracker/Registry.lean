import Sp2p.Tracker.Run
import Sp2p.Tracker.SessionStore

/-!
# What the tracker keeps, by names

The tracker without its tables: accounts, networks with their owners, and what a user has in a network,
all under names, and one map of sessions. There are no identifiers, sequences, references, cascades and
joins in it. `Directory.exec` answers the shared calls from it; `Refinement.lean` shows that the tracker
answers as it does.
-/

namespace Sp2p.Tracker

open Interleaving

structure Account where
  login : BpChar 30
  password : BpChar 70
  deriving DecidableEq

structure NetworkEntry where
  name : BpChar 30
  owner : BpChar 30
  publicity : Bool
  visible : Bool
  participable : Bool
  creatorEmail : String
  protocolName : String
  deriving DecidableEq

/-- What a user has in a network: a server, an invitation or a key. -/
structure Entry (δ : Type) where
  user : BpChar 30
  network : BpChar 30
  data : δ
  deriving DecidableEq

/-- The entry is of the user and of the network. -/
def Entry.is {δ : Type} (login network : String) (e : Entry δ) : Bool :=
  e.user.text = rstrip login && e.network.text = rstrip network

@[ext] structure Registry where
  accounts : List Account := []
  networks : List NetworkEntry := []
  servers : List (Entry ServerData) := []
  invitations : List (Entry Unit) := []
  publicKey : List (Entry String) := []
  deriving DecidableEq

namespace Registry

def account? (g : Registry) (login : String) : Option Account :=
  g.accounts.find? fun a => a.login.text = rstrip login

def network? (g : Registry) (name : String) : Option NetworkEntry :=
  g.networks.find? fun n => n.name.text = rstrip name

/-- The user owns the network. -/
def owns (g : Registry) (login : String) (network : BpChar 30) : Bool :=
  g.networks.any fun n => n.name = network && n.owner.text = rstrip login

def invited (g : Registry) (login : String) (network : BpChar 30) : Bool :=
  g.invitations.any fun e => e.user.text = rstrip login && e.network = network

/-- Nothing is under the name of a user. -/
structure Blank (g : Registry) (login : String) : Prop where
  networks : ∀ n ∈ g.networks, n.owner.text ≠ rstrip login
  servers : ∀ e ∈ g.servers, e.user.text ≠ rstrip login
  invitations : ∀ e ∈ g.invitations, e.user.text ≠ rstrip login
  publicKey : ∀ e ∈ g.publicKey, e.user.text ≠ rstrip login

/-! ### Changes -/

def insertUser (g : Registry) (login password : String) : Except SqlError Registry :=
  match BpChar.ofText 30 login, BpChar.ofText 70 password with
  | some l, some p =>
    if g.accounts.any (·.login = l) then .error .uniqueViolation
    else .ok { g with accounts := g.accounts ++ [⟨l, p⟩] }
  | _, _ => .error .failure

/-- With a user go its networks, what it has in networks, and what others have in its networks. -/
def deleteUser (g : Registry) (login : String) : Registry :=
  let stays {δ : Type} (e : Entry δ) : Bool :=
    !(e.user.text = rstrip login || g.owns login e.network)
  { accounts := g.accounts.filter fun a => a.login.text ≠ rstrip login
    networks := g.networks.filter fun n => n.owner.text ≠ rstrip login
    servers := g.servers.filter stays
    invitations := g.invitations.filter stays
    publicKey := g.publicKey.filter stays }

def updatePassword (g : Registry) (login password : String) : Except SqlError Registry :=
  match BpChar.ofText 70 password with
  | some p => .ok { g with accounts := g.accounts.map fun a =>
      if a.login.text = rstrip login then { a with password := p } else a }
  | none => .error .failure

def insertNetwork (g : Registry) (name ownerLogin : String) (publicity visible participable : Bool)
    (creatorMail protocolName : String) : Except SqlError Registry :=
  match BpChar.ofText 30 name, varchar 40 creatorMail, varchar 40 protocolName,
    g.account? ownerLogin with
  | some nm, some mail, some proto, some owner =>
    if g.networks.any (·.name = nm) then .error .uniqueViolation
    else .ok { g with networks := g.networks ++
      [⟨nm, owner.login, publicity, visible, participable, mail, proto⟩] }
  | _, _, _, _ => .error .failure

/-- With a network goes what users have in it. -/
def dropNetwork (g : Registry) (n : NetworkEntry) : Registry :=
  let stays {δ : Type} (e : Entry δ) : Bool := e.network ≠ n.name
  { g with
    networks := g.networks.filter (·.name ≠ n.name)
    servers := g.servers.filter stays
    invitations := g.invitations.filter stays
    publicKey := g.publicKey.filter stays }

/-- A user has one entry in a network, and the network and the user are there. -/
def insertEntry {δ : Type} (g : Registry) (l : List (Entry δ)) (login network : String) (d : δ) :
    Except SqlError (List (Entry δ)) :=
  match g.account? login, g.network? network with
  | some a, some n =>
    if (l.find? (Entry.is login network)).isSome then .error .uniqueViolation
    else .ok (l ++ [⟨a.login, n.name, d⟩])
  | _, _ => .error .failure

def insertInvitation (g : Registry) (network login : String) : Except SqlError Registry :=
  (g.insertEntry g.invitations login network ()).map ({ g with invitations := · })

def insertKey (g : Registry) (login network key : String) : Except SqlError Registry :=
  (g.insertEntry g.publicKey login network key).map ({ g with publicKey := · })

def insertServer (g : Registry) (network user : String) (d : ServerData) : Except SqlError Registry :=
  (g.insertEntry g.servers user network d).map ({ g with servers := · })

/-! ### The calls -/

/-- A change that is made as a whole or not at all. -/
def change (fault : Bool) (onUnique : DBResponse) (g : Registry) (x : Except SqlError Registry) :
    DBResponse × Registry :=
  if fault then (.internalError, g)
  else match x with
    | .ok g' => (.ok, g')
    | .error .uniqueViolation => (onUnique, g)
    | .error .failure => (.internalError, g)

def createUser (fault : Bool) (login password : String) (g : Registry) : DBResponse × Registry :=
  change fault .notUnique g (g.insertUser login password)

def removeUser (fault : Bool) (login : String) (g : Registry) : DBResponse × Registry :=
  change fault .notFound g (.ok (g.deleteUser login))

def changeUserPassword (fault : Bool) (login newPassword : String) (g : Registry) :
    DBResponse × Registry :=
  change fault .notFound g (g.updatePassword login newPassword)

def userExists (fault : Bool) (login : String) (g : Registry) : Bool :=
  !fault && (g.account? login).isSome

def getPassHash (fault : Bool) (login : String) (g : Registry) : String :=
  if fault then ""
  else match g.account? login with
    | some a => toStdString a.password.out
    | none => ""

def getUserInfo (fault : Bool) (login network : String) (g : Registry) : String :=
  if fault then ""
  else match g.publicKey.find? (Entry.is login network) with
    | some e => toStdString e.data
    | none => ""

def addKey (fault : Bool) (login network key : String) (g : Registry) : DBResponse × Registry :=
  change fault .notFound g (g.insertKey login network key)

def createInvitation (fault : Bool) (login networkName : String) (g : Registry) :
    DBResponse × Registry :=
  change fault .notUnique g (g.insertInvitation networkName login)

def createNetwork (fault : Bool) (networkName ownerLogin : String)
    (publicity visible participable : Bool) (creatorMail protocolName : String) (g : Registry) :
    DBResponse × Registry :=
  change fault .notUnique g
    (g.insertNetwork networkName ownerLogin publicity visible participable creatorMail protocolName)

/-- Only its owner deletes a network. -/
def deleteNetwork (fault : Bool) (login name : String) (g : Registry) : DBResponse × Registry :=
  if fault then (.internalError, g)
  else match g.network? name with
    | some n => if n.owner.text = rstrip login then (.ok, g.dropNetwork n) else (.notPermited, g)
    | none => (.notPermited, g)

def protoNetwork (n : NetworkEntry) : ProtoNetwork where
  name := toStdString n.name.out
  ownerName := toStdString n.owner.out
  creatorEmail := toStdString n.creatorEmail
  visible := n.visible
  participable := n.participable
  protocolName := toStdString n.protocolName

def getAllNetworks (fault : Bool) (login : String) (g : Registry) : List ProtoNetwork :=
  if fault then []
  else (g.networks.filter fun n =>
    n.visible || n.owner.text = rstrip login || g.invited login n.name).map protoNetwork

def getUserNetworks (fault : Bool) (login : String) (g : Registry) : List ProtoNetwork :=
  if fault then []
  else (g.networks.filter fun n => n.owner.text = rstrip login).map protoNetwork

def networkExists (fault : Bool) (name : String) (g : Registry) : Bool :=
  !fault && (g.network? name).isSome

def canSeeNetwork (fault : Bool) (networkName login : String) (g : Registry) : Bool :=
  !fault && (g.network? networkName).any fun n => n.publicity || n.owner.text = rstrip login

def canAddServer (fault : Bool) (login networkName : String) (g : Registry) : Bool :=
  !fault && (g.network? networkName).any fun n => n.participable || n.owner.text = rstrip login

/-- A server that is registered stays as it is. -/
def updateServer (fault : Bool) (network user ip : String) (port ttl : Int) (g : Registry) :
    DBResponse × Registry :=
  match BpChar.ofText 20 ip with
  | none => (.internalError, g)
  | some addr =>
    if fault then (.internalError, g)
    else if (g.servers.find? (Entry.is user network)).isSome then (.ok, g)
    else change false .notFound g (g.insertServer network user ⟨addr, port, ttl⟩)

/-- The caller is told that there was no server, whether there was one or not. -/
def deleteServer (fault : Bool) (network user : String) (g : Registry) : DBResponse × Registry :=
  if fault then (.internalError, g)
  else (.notFound, { g with servers := g.servers.filter fun e => !e.is user network })

def getServers (fault : Bool) (networkName : String) (g : Registry) : List ProtoServer :=
  if fault then []
  else (g.servers.filter fun e => e.network.text = rstrip networkName).map fun e =>
    { networkName, ip := toStdString e.data.ip.out, port := e.data.port }

end Registry

/-! ### The directory -/

structure Directory where
  registry : Registry := {}
  sessions : Sessions := ∅

namespace Directory

/-- A call that writes into the registry. -/
def write (d : Directory) (f : Registry → DBResponse × Registry) : DBResponse × Directory :=
  ((f d.registry).1, { d with registry := (f d.registry).2 })

open Registry in
/-- What each call answers, and the directory it leaves. -/
def exec : Exec shared Directory
  | .getLogin cookie, d => ((d.sessions[cookie]?.map Prod.fst).getD "", d)
  | .login l cookie now, d => ((), { d with sessions := d.sessions.insert cookie (l, now) })
  | .logout cookie, d => (cookie ∈ d.sessions, { d with sessions := d.sessions.erase cookie })
  | .createUser fault l pw, d => d.write (createUser fault l pw)
  | .removeUser fault l, d => d.write (removeUser fault l)
  | .changeUserPassword fault l pw, d => d.write (changeUserPassword fault l pw)
  | .userExists fault l, d => (userExists fault l d.registry, d)
  | .getPassHash fault l, d => (getPassHash fault l d.registry, d)
  | .getUserInfo fault l n, d => (getUserInfo fault l n d.registry, d)
  | .addKey fault l n key, d => d.write (addKey fault l n key)
  | .createInvitation fault l n, d => d.write (createInvitation fault l n)
  | .createNetwork fault n l pub vis part mail proto, d =>
    d.write (createNetwork fault n l pub vis part mail proto)
  | .deleteNetwork fault l n, d => d.write (deleteNetwork fault l n)
  | .getAllNetworks fault l, d => (getAllNetworks fault l d.registry, d)
  | .getUserNetworks fault l, d => (getUserNetworks fault l d.registry, d)
  | .networkExists fault n, d => (networkExists fault n d.registry, d)
  | .canSeeNetwork fault n l, d => (canSeeNetwork fault n l d.registry, d)
  | .canAddServer fault l n, d => (canAddServer fault l n d.registry, d)
  | .updateServer fault n l ip port ttl, d => d.write (updateServer fault n l ip port ttl)
  | .deleteServer fault n l, d => d.write (deleteServer fault n l)
  | .getServers fault n, d => (getServers fault n d.registry, d)

end Directory

end Sp2p.Tracker
