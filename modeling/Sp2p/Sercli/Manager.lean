import Mathlib.Logic.Function.Basic
import Sp2p.Lib.TreeMap

/-!
# The manager of nodes and networks

`Manager`, `Network` and the part of `Node` they look at. A node is an object behind a shared
pointer: the manager owns the nodes of its map, a caller may own nodes too (`held`), and a network
knows its nodes by weak pointers, which are of use only as long as somebody owns the node. Both
kinds of description are ordered by their names alone, so a map finds by name and keeps the
description it was given first.

No node is active here, so `setUser` and `setNewDescription` do not throw.
-/

namespace Sp2p.Sercli

/-- An address is its text, the form in which it is archived. -/
structure NodeDescription where
  ipAddress : String
  nodeName : String
  port : UInt16
  deriving DecidableEq

instance : Ord NodeDescription := ⟨compareOn (·.nodeName)⟩

instance : Std.TransOrd NodeDescription := inferInstanceAs (Std.TransCmp (compareOn _))

theorem NodeDescription.compare_eq {a b : NodeDescription} :
    compare a b = .eq ↔ a.nodeName = b.nodeName :=
  Std.LawfulEqOrd.compare_eq_iff_eq (a := a.nodeName)

structure User where
  username : String := ""
  email : String := ""
  deriving DecidableEq

structure MyUser extends User where
  password : String
  isRegistered : Bool := false
  deriving DecidableEq

namespace NetworkDescription

inductive AccessRights
  | PUBLIC | PRIVATE
  deriving DecidableEq

inductive Visibility
  | LISTED | UNLISTED
  deriving DecidableEq

inductive ParticipationRights
  | CLIENT_ONLY | CLIENT_SERVER
  deriving DecidableEq

end NetworkDescription

open NetworkDescription in
structure NetworkDescription where
  accessRights : AccessRights
  visability : Visibility
  participationRights : ParticipationRights
  protocolName : String
  networkName : String
  creator : User
  deriving DecidableEq

instance : Ord NetworkDescription := ⟨compareOn (·.networkName)⟩

instance : Std.TransOrd NetworkDescription := inferInstanceAs (Std.TransCmp (compareOn _))

theorem NetworkDescription.compare_eq {a b : NetworkDescription} :
    compare a b = .eq ↔ a.networkName = b.networkName :=
  Std.LawfulEqOrd.compare_eq_iff_eq (a := a.networkName)

/-- The fields of a node that `Node::save` writes. -/
structure Node where
  nodeDesc : NodeDescription
  myUser : MyUser
  deriving DecidableEq

/-- The user of a node that was given none. -/
def MyUser.default : MyUser where
  username := "user"
  password := "password"
  email := "email"

instance : Inhabited Node := ⟨⟨⟨"", "", 0⟩, .default⟩⟩

abbrev NodePtr := Nat

structure Network where
  networkDesc : NetworkDescription
  nodeSet : Std.ExtTreeMap NodeDescription NodePtr := ∅

namespace Network

/-- `insert` leaves an entry of that name as it is. `desc` is the description of the node at the
time of the call. -/
def associateNode (network : Network) (desc : NodeDescription) (node : NodePtr) : Network :=
  { network with nodeSet := network.nodeSet.insertIfNew desc node }

def detachNode (network : Network) (desc : NodeDescription) : Network :=
  { network with nodeSet := network.nodeSet.erase desc }

end Network

/-- The manager with the node objects, `next` being the first address not in use, and the nodes that
a caller owns. -/
structure Manager where
  nodesMap : Std.ExtTreeMap NodeDescription NodePtr := ∅
  networksMap : Std.ExtTreeMap NetworkDescription Network := ∅
  heap : NodePtr → Node := fun _ => default
  next : NodePtr := 0
  held : NodePtr → Bool := fun _ => false

namespace Manager

/-- The manager owns the node. -/
def Stored (m : Manager) (p : NodePtr) : Prop := p ∈ m.nodesMap.toList.map Prod.snd

instance (m : Manager) (p : NodePtr) : Decidable (m.Stored p) := inferInstanceAs (Decidable (_ ∈ _))

/-- `weak_ptr::lock`: the node while somebody owns it. -/
def lock (m : Manager) (p : NodePtr) : Option NodePtr :=
  if m.held p ∨ m.Stored p then some p else none

/-- `new Node`, put into the map under its description. -/
def addNode (m : Manager) (node : Node) : Manager :=
  { m with
    heap := Function.update m.heap m.next node
    next := m.next + 1
    nodesMap := TreeMap.assign m.nodesMap node.nodeDesc m.next }

/-- `none` is the `NodeException`. -/
def createNode (m : Manager) (desc : NodeDescription) (user : MyUser := .default) :
    Option (NodePtr × Manager) :=
  if desc ∈ m.nodesMap then none
  else some (m.next, { m.addNode ⟨desc, user⟩ with held := Function.update m.held m.next true })

/-- The overload that takes a name erases the entry of that name too. -/
def removeNode (m : Manager) (desc : NodeDescription) : Option Manager :=
  if desc ∈ m.nodesMap then some { m with nodesMap := m.nodesMap.erase desc } else none

/-- `none` is the `NetworkException`. -/
def createNetwork (m : Manager) (desc : NetworkDescription) : Option Manager :=
  if desc ∈ m.networksMap then none
  else some { m with networksMap := TreeMap.assign m.networksMap desc { networkDesc := desc } }

def removeNetwork (m : Manager) (desc : NetworkDescription) : Option Manager :=
  if desc ∈ m.networksMap then some { m with networksMap := m.networksMap.erase desc } else none

/-- A call on a network through its pointer; nothing is seen here of one the manager has not got. -/
def onNetwork (m : Manager) (desc : NetworkDescription) (f : Network → Network) : Manager :=
  match m.networksMap[desc]? with
  | some network => { m with networksMap := TreeMap.assign m.networksMap desc (f network) }
  | none => m

def setUser (m : Manager) (node : NodePtr) (user : MyUser) : Manager :=
  { m with heap := Function.update m.heap node { m.heap node with myUser := user } }

def setNewDescription (m : Manager) (node : NodePtr) (desc : NodeDescription) : Manager :=
  { m with heap := Function.update m.heap node { m.heap node with nodeDesc := desc } }

/-- What a caller can do. `acquire` is any way to a pointer that owns the node, `getNode` for one;
`release` gives it up. -/
inductive Op
  | createNode (desc : NodeDescription) (user : MyUser)
  | removeNode (desc : NodeDescription)
  | createNetwork (desc : NetworkDescription)
  | removeNetwork (desc : NetworkDescription)
  | associateNode (network : NetworkDescription) (node : NodePtr)
  | detachNode (network : NetworkDescription) (node : NodeDescription)
  | setUser (node : NodePtr) (user : MyUser)
  | setNewDescription (node : NodePtr) (desc : NodeDescription)
  | acquire (node : NodePtr)
  | release (node : NodePtr)

/-- One call. One that throws changes nothing; `none` is a call through a pointer whose node is
gone, which nobody can make or which dereferences null. -/
def step (m : Manager) : Op → Option Manager
  | .createNode desc user => some ((m.createNode desc user).elim m Prod.snd)
  | .removeNode desc => some ((m.removeNode desc).getD m)
  | .createNetwork desc => some ((m.createNetwork desc).getD m)
  | .removeNetwork desc => some ((m.removeNetwork desc).getD m)
  | .associateNode network node => do
    let node ← m.lock node
    some (m.onNetwork network (·.associateNode (m.heap node).nodeDesc node))
  | .detachNode network node => some (m.onNetwork network (·.detachNode node))
  | .setUser node user => do
    let node ← m.lock node
    some (m.setUser node user)
  | .setNewDescription node desc => do
    let node ← m.lock node
    some (m.setNewDescription node desc)
  | .acquire node => do
    let node ← m.lock node
    some { m with held := Function.update m.held node true }
  | .release node => some { m with held := Function.update m.held node false }

def run (m : Manager) (ops : List Op) : Option Manager := ops.foldlM step m

end Manager

end Sp2p.Sercli
