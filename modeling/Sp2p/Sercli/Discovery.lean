import Mathlib.Data.List.Nodup
import Sp2p.Sercli.NetworkNodes
import Sp2p.Sercli.NodeCalls

/-!
# Server discovery

`Network::getAvailableServers` asks the nodes of the network one after the other, in the order of the
map. It locks every pointer and does not look whether it has expired, as the sibling loops do, and it
ends with an address in a reply that is none, and with a connection that is closed when a query comes
to use it. `discovers_iff` says which networks it gets through.
-/

namespace Sp2p.Sercli

open Std Protocol

/-- What comes of one query: whether there is a connection or one can be made, the reply unless sending
fails, and whether the connection is closed again before the query fetches it. -/
structure Exchange where
  connected : Bool
  reply : Option NodeMessage
  closed : Bool := false

/-- What ends a query or the discovery: a null pointer, or the exception of `from_string`. -/
inductive Interrupted
  | nullNode
  | nullConnection
  | badAddress
  deriving DecidableEq

/-- `isAddress` says what `from_string` takes. -/
def NodeState.getServersList (isAddress : String → Bool) (networkDesc : NetworkDescription)
    (n : NodeState) (x : Exchange) :
    Except Interrupted ((NodeError × List ServerDescription) × NodeState) :=
  match n.begin x.connected true (.getServersList networkDesc) with
  | .error error => .ok ((error, []), n)
  | .ok _ =>
    if x.closed then .error .nullConnection
    else
      match x.reply with
      | none => .ok ((.sendError, []), n)
      | some response =>
        let (error, n') := n.receive true response (.getServersList networkDesc)
        if response.responseType.getD .ok = .ok then
          let servers := serversOfReply networkDesc response
          if servers.all fun server => isAddress server.ipAddres then .ok ((error, servers), n')
          else .error .badAddress
        else .ok ((error, []), n')

namespace Exchange

variable (x : Exchange)

/-- The reply that the node gets if it asks. -/
def response : Option NodeMessage := if x.connected ∧ x.closed = false then x.reply else none

/-- The connection is gone when the query fetches it. -/
def Severed : Prop := x.connected = true ∧ x.closed = true

/-- The reply is `OK` with an address that is none. -/
def Malformed (isAddress : String → Bool) : Prop :=
  ∃ response ∈ x.response, response.responseType.getD .ok = .ok ∧
    ∃ server ∈ response.listServersResponse.getD [], isAddress (server.ipAddress.getD "") = false

/-- The reply is `NOT_LOGGED`, and the node asks no more. -/
def EndsSession : Prop := ∃ response ∈ x.response, response.responseType.getD .ok = .notLogged

/-- The reply is `OK` and lists servers. -/
def Lists : Prop :=
  ∃ response ∈ x.response, response.responseType.getD .ok = .ok ∧
    response.listServersResponse.getD [] ≠ []

end Exchange

theorem begin_getServersList {n : NodeState} {connected hasKey : Bool} {networkDesc : NetworkDescription} :
    n.begin connected hasKey (.getServersList networkDesc) =
      if n.isLogged = false then .error .notLogged
      else if connected then .ok (n.request (.getServersList networkDesc))
      else .error .noConnection := by
  unfold NodeState.begin NodeState.beforeMessage
  by_cases hlogged : n.isLogged = false
  · rw [if_pos hlogged, if_pos hlogged]
  · rw [if_neg hlogged, if_neg hlogged]
    cases connected with
    | true => rfl
    | false => rfl

/-! ### One query of one node -/

section Query

variable {isAddress : String → Bool} {networkDesc : NetworkDescription} {n : NodeState} {x : Exchange}

theorem getServersList_of_not_logged (h : n.isLogged = false) :
    n.getServersList isAddress networkDesc x = .ok ((.notLogged, []), n) := by
  unfold NodeState.getServersList
  rw [begin_getServersList, if_pos h]

/-- What the reply does, when the request is sent and the connection is still there. -/
theorem getServersList_of_response {response : NodeMessage} (h : n.isLogged = true)
    (hx : x.response = some response) :
    n.getServersList isAddress networkDesc x =
      if response.responseType.getD .ok = .ok then
        if ∃ server ∈ response.listServersResponse.getD [], isAddress (server.ipAddress.getD "") = false
        then .error .badAddress
        else .ok ((.ok, serversOfReply networkDesc response), n)
      else .ok ((getDefaultError (response.responseType.getD .ok), []),
        if response.responseType.getD .ok = .notLogged then { n with isLogged := false } else n) := by
  unfold Exchange.response at hx
  split at hx
  · rename_i hopen
    unfold NodeState.getServersList
    rw [begin_getServersList, h, hopen.1, hopen.2, hx]
    simp only [NodeState.receive, NodeState.receiveDefault, Bool.true_eq_false, Bool.false_eq_true,
      if_true, if_false]
    split
    · rename_i hok
      simp only [hok, reduceCtorEq, if_false, getDefaultError, serversOfReply, List.all_map,
        List.all_eq_true, Function.comp_apply, getServerDescriptionFromProto]
      by_cases hall : ∀ server ∈ response.listServersResponse.getD [],
          isAddress (server.ipAddress.getD "") = true
      · rw [if_pos hall, if_neg (by simpa using hall)]
      · rw [if_neg hall, if_pos (by simpa using hall)]
    · rfl
  · cases hx

/-- Without a reply the query fails, or the null connection ends it. -/
theorem getServersList_of_no_response (h : n.isLogged = true) (hx : x.response = none) :
    (x.Severed ∧ n.getServersList isAddress networkDesc x = .error .nullConnection) ∨
      ¬ x.Severed ∧ ∃ error, error ≠ .ok ∧
        n.getServersList isAddress networkDesc x = .ok ((error, []), n) := by
  unfold NodeState.getServersList
  rw [begin_getServersList, h]
  unfold Exchange.response at hx
  unfold Exchange.Severed
  cases hconnected : x.connected with
  | false => exact .inr ⟨nofun, .noConnection, nofun, rfl⟩
  | true =>
    cases hclosed : x.closed with
    | true => exact .inl ⟨⟨rfl, rfl⟩, rfl⟩
    | false =>
      rw [hconnected, hclosed] at hx
      rw [show x.reply = none from hx]
      exact .inr ⟨nofun, .sendError, nofun, rfl⟩

/-- A node that is logged in is interrupted, and no other. -/
theorem getServersList_error_iff :
    (∃ e, n.getServersList isAddress networkDesc x = .error e) ↔
      n.isLogged = true ∧ (x.Severed ∨ x.Malformed isAddress) := by
  by_cases hlogged : n.isLogged = true
  · rw [and_iff_right hlogged]
    cases hx : x.response with
    | none =>
      have hread : ¬ x.Malformed isAddress := by
        rintro ⟨response, hresponse, -⟩
        rw [hx] at hresponse
        cases hresponse
      rcases @getServersList_of_no_response isAddress networkDesc n x hlogged hx with
        ⟨hsevered, heq⟩ | ⟨hsevered, error, -, heq⟩
      · exact iff_of_true ⟨_, heq⟩ (.inl hsevered)
      · rw [heq]
        exact iff_of_false nofun (not_or.2 ⟨hsevered, hread⟩)
    | some response =>
      have hsevered : ¬ x.Severed := by
        rintro ⟨-, hclosed⟩
        simp [Exchange.response, hclosed] at hx
      rw [getServersList_of_response hlogged hx, or_iff_right hsevered]
      unfold Exchange.Malformed
      rw [hx]
      simp only [Option.mem_some_iff, exists_eq_left']
      split
      · rename_i hok
        split
        · rename_i hbad
          exact iff_of_true ⟨_, rfl⟩ ⟨hok, hbad⟩
        · rename_i hgood
          exact iff_of_false nofun fun h => hgood h.2
      · rename_i hok
        exact iff_of_false nofun fun h => hok h.1
  · rw [getServersList_of_not_logged (eq_false_of_ne_true hlogged)]
    exact iff_of_false nofun fun h => hlogged h.1

/-- The query has returned: the session goes on unless the reply ends it, and there are servers in the
result when there are some in the reply. -/
theorem getServersList_eq_ok {result : NodeError × List ServerDescription} {n' : NodeState}
    (h : n.getServersList isAddress networkDesc x = .ok (result, n')) :
    (n'.isLogged = true ↔ n.isLogged = true ∧ ¬ x.EndsSession) ∧
      (result.1 = .ok ∧ result.2 ≠ [] ↔ n.isLogged = true ∧ x.Lists) := by
  by_cases hlogged : n.isLogged = true
  · rw [and_iff_right hlogged, and_iff_right hlogged]
    unfold Exchange.EndsSession Exchange.Lists
    cases hx : x.response with
    | none =>
      rcases @getServersList_of_no_response isAddress networkDesc n x hlogged hx with
        ⟨-, heq⟩ | ⟨-, error, herror, heq⟩
      · rw [heq] at h
        cases h
      · rw [heq] at h
        cases h
        simp [hlogged, herror]
    | some response =>
      rw [getServersList_of_response hlogged hx] at h
      simp only [Option.mem_some_iff, exists_eq_left']
      split at h
      · rename_i hok
        split at h
        · cases h
        · cases h
          simp [hlogged, hok, serversOfReply]
      · rename_i hok
        cases h
        cases htype : response.responseType.getD .ok with
        | ok => exact absurd htype hok
        | _ => simp [hlogged, getDefaultError]
  · have hout := eq_false_of_ne_true hlogged
    rw [getServersList_of_not_logged hout] at h
    cases h
    simp [hout]

end Query

/-! ### The loop -/

/-- The nodes with their sessions, the result so far, and what every query has returned. -/
structure Discovery where
  nodes : NodePtr → NodeState
  availServers : List ServerDescription := []
  asked : List (NodePtr × NodeError × List ServerDescription) := []

/-- A query has returned, and its list is appended if it has succeeded. -/
def Discovery.append (d : Discovery) (node : NodePtr) (result : NodeError × List ServerDescription)
    (n : NodeState) : Discovery where
  nodes := Function.update d.nodes node n
  availServers := if result.1 = .ok then d.availServers ++ result.2 else d.availServers
  asked := d.asked ++ [(node, result)]

theorem Discovery.append_nodes_of_ne {d : Discovery} {node node' : NodePtr}
    {result : NodeError × List ServerDescription} {n : NodeState} (hne : node' ≠ node) :
    (d.append node result n).nodes node' = d.nodes node' :=
  Function.update_of_ne hne _ _

namespace Network

variable (lock : NodePtr → Option NodePtr) (isAddress : String → Bool)
  (exchange : NodeDescription → Exchange) (networkDesc : NetworkDescription)

/-- The body of the loop. A null node is dereferenced by the call. -/
def query (d : Discovery) (it : NodeDescription × NodePtr) : Except Interrupted Discovery :=
  match lock it.2 with
  | none => .error .nullNode
  | some node =>
    match (d.nodes node).getServersList isAddress networkDesc (exchange it.1) with
    | .error e => .error e
    | .ok (result, n) => .ok (d.append node result n)

def getAvailableServers (network : Network) (nodes : NodePtr → NodeState) :
    Except Interrupted Discovery :=
  network.nodeSet.toList.foldlM (query lock isAddress exchange network.networkDesc) { nodes }

/-- What the live nodes of the entries answer, one after the other; each is asked with the session that
its answers before have left it. -/
def answers (nodes : NodePtr → NodeState) :
    List (NodeDescription × NodePtr) → List (NodePtr × NodeError × List ServerDescription)
  | [] => []
  | it :: l =>
    match lock it.2 with
    | none => answers nodes l
    | some node =>
      match (nodes node).getServersList isAddress networkDesc (exchange it.1) with
      | .error _ => answers nodes l
      | .ok (result, n) => (node, result) :: answers (Function.update nodes node n) l

/-- The lists of the queries that have succeeded, one behind the other. -/
def listed (asked : List (NodePtr × NodeError × List ServerDescription)) : List ServerDescription :=
  (asked.filter fun a => a.2.1 = .ok).flatMap fun a => a.2.2

/-- The nodes that servers were listed of. -/
def sources (asked : List (NodePtr × NodeError × List ServerDescription)) : List NodePtr :=
  (asked.filter fun a => a.2.1 = .ok ∧ a.2.2 ≠ []).map Prod.fst

/-- The live nodes are asked in the order of the map, and the lists of those that succeed are returned,
of no node twice. -/
structure Discovers (network : Network) (nodes : NodePtr → NodeState) (d : Discovery) : Prop where
  returns : network.getAvailableServers lock isAddress exchange nodes = .ok d
  asked : d.asked = answers lock isAddress exchange network.networkDesc nodes network.nodeSet.toList
  servers : d.availServers = listed d.asked
  once : (sources d.asked).Nodup

/-! ### Which nodes are asked -/

/-- In the course of the entries `l` the node of the entry `it` is asked: it is live, and logged in
when those before have been asked. -/
structure Asked (nodes : NodePtr → NodeState) (l before : List (NodeDescription × NodePtr))
    (it : NodeDescription × NodePtr) (node : NodePtr) : Prop where
  entry : ∃ later, l = before ++ it :: later
  live : lock it.2 = some node
  isLogged : (nodes node).isLogged = true
  session : ∀ it' ∈ before, lock it'.2 = some node → ¬ (exchange it'.1).EndsSession

/-- No query is interrupted, and none lists servers of a node that were listed before. -/
structure Answerable (nodes : NodePtr → NodeState) (l : List (NodeDescription × NodePtr)) :
    Prop where
  readable : ∀ before it node, Asked lock exchange nodes l before it node →
    ¬ ((exchange it.1).Severed ∨ (exchange it.1).Malformed isAddress)
  distinct : ∀ before it node, Asked lock exchange nodes l before it node → (exchange it.1).Lists →
    ∀ it' ∈ before, lock it'.2 = some node → ¬ (exchange it'.1).Lists

variable {lock isAddress exchange networkDesc}

/-! ### One query -/

theorem query_eq_ok_iff {d d' : Discovery} {it : NodeDescription × NodePtr} :
    query lock isAddress exchange networkDesc d it = .ok d' ↔
      ∃ node result n, lock it.2 = some node ∧
        (d.nodes node).getServersList isAddress networkDesc (exchange it.1) = .ok (result, n) ∧
        d' = d.append node result n := by
  unfold query
  constructor
  · intro h
    split at h
    · cases h
    · rename_i node hnode
      split at h
      · cases h
      · rename_i result n hresult
        exact ⟨node, result, n, hnode, hresult, (Except.ok.inj h).symm⟩
  · rintro ⟨node, result, n, hnode, hresult, rfl⟩
    rw [hnode]
    dsimp only
    rw [hresult]

section Cons

variable {nodes : NodePtr → NodeState} {it : NodeDescription × NodePtr} {node : NodePtr}
  {result : NodeError × List ServerDescription} {n : NodeState}
  {l : List (NodeDescription × NodePtr)}

theorem answers_cons (hnode : lock it.2 = some node)
    (hresult : (nodes node).getServersList isAddress networkDesc (exchange it.1) = .ok (result, n)) :
    answers lock isAddress exchange networkDesc nodes (it :: l) =
      (node, result) :: answers lock isAddress exchange networkDesc (Function.update nodes node n) l := by
  rw [answers, hnode]
  dsimp only
  rw [hresult]

/-- The first entry is asked when its node is logged in, and the others with what it leaves. -/
theorem asked_cons (hnode : lock it.2 = some node)
    (hresult : (nodes node).getServersList isAddress networkDesc (exchange it.1) = .ok (result, n))
    {before : List (NodeDescription × NodePtr)} {it' : NodeDescription × NodePtr} {node' : NodePtr} :
    Asked lock exchange nodes (it :: l) before it' node' ↔
      (before = [] ∧ it' = it ∧ node' = node ∧ (nodes node).isLogged = true) ∨
      ∃ before', before = it :: before' ∧
        Asked lock exchange (Function.update nodes node n) l before' it' node' := by
  have hsession := (getServersList_eq_ok hresult).1
  have hlogged : (Function.update nodes node n node').isLogged = true ↔
      (nodes node').isLogged = true ∧ (lock it.2 = some node' → ¬ (exchange it.1).EndsSession) := by
    rw [hnode, Option.some_inj]
    by_cases heq : node' = node
    · subst heq
      rw [Function.update_self, hsession]
      simp
    · rw [Function.update_of_ne heq]
      exact ⟨fun h => ⟨h, fun hc => absurd hc.symm heq⟩, And.left⟩
  constructor
  · rintro ⟨⟨later, hentry⟩, hlive, hin, hends⟩
    rcases List.cons_eq_append_iff.1 hentry with ⟨rfl, heq⟩ | ⟨before', rfl, heq⟩
    · obtain ⟨rfl, -⟩ := List.cons.inj heq
      obtain rfl := Option.some_inj.1 (hnode.symm.trans hlive)
      exact .inl ⟨rfl, rfl, rfl, hin⟩
    · obtain ⟨hfirst, hrest⟩ := List.forall_mem_cons.1 hends
      exact .inr ⟨before', rfl, ⟨later, heq⟩, hlive, hlogged.2 ⟨hin, hfirst⟩, hrest⟩
  · rintro (⟨rfl, rfl, rfl, hin⟩ | ⟨before', rfl, ⟨later, hentry⟩, hlive, hin, hends⟩)
    · exact ⟨⟨l, rfl⟩, hnode, hin, nofun⟩
    · obtain ⟨hin, hfirst⟩ := hlogged.1 hin
      exact ⟨⟨later, by rw [hentry]; rfl⟩, hlive, hin, List.forall_mem_cons.2 ⟨hfirst, hends⟩⟩

theorem readable_cons (hnode : lock it.2 = some node)
    (hresult : (nodes node).getServersList isAddress networkDesc (exchange it.1) = .ok (result, n)) :
    (∀ before it' node', Asked lock exchange nodes (it :: l) before it' node' →
        ¬ ((exchange it'.1).Severed ∨ (exchange it'.1).Malformed isAddress)) ↔
      ∀ before it' node', Asked lock exchange (Function.update nodes node n) l before it' node' →
        ¬ ((exchange it'.1).Severed ∨ (exchange it'.1).Malformed isAddress) := by
  constructor
  · intro h before it' node' hasked
    exact h (it :: before) it' node' ((asked_cons hnode hresult).2 (.inr ⟨before, rfl, hasked⟩))
  · intro h before it' node' hasked
    rcases (asked_cons hnode hresult).1 hasked with ⟨-, rfl, -, hin⟩ | ⟨before', -, hasked⟩
    · intro hbad
      obtain ⟨e, he⟩ := getServersList_error_iff.2 ⟨hin, hbad⟩
      rw [he] at hresult
      cases hresult
    · exact h before' it' node' hasked

end Cons

theorem listed_append (asked : List (NodePtr × NodeError × List ServerDescription)) (node : NodePtr)
    (result : NodeError × List ServerDescription) :
    listed (asked ++ [(node, result)]) =
      if result.1 = .ok then listed asked ++ result.2 else listed asked := by
  unfold listed
  rw [List.filter_append, List.flatMap_append]
  by_cases hok : result.1 = .ok
  · rw [if_pos hok]
    simp [hok]
  · rw [if_neg hok]
    simp [hok]

/-! ### The loop -/

theorem foldlM_query_cons {it : NodeDescription × NodePtr} {l : List (NodeDescription × NodePtr)}
    {d d' : Discovery} :
    (it :: l).foldlM (query lock isAddress exchange networkDesc) d = .ok d' ↔
      ∃ d₁, query lock isAddress exchange networkDesc d it = .ok d₁ ∧
        l.foldlM (query lock isAddress exchange networkDesc) d₁ = .ok d' := by
  rw [List.foldlM_cons]
  cases query lock isAddress exchange networkDesc d it with
  | error e => exact ⟨nofun, nofun⟩
  | ok d₁ =>
    constructor
    · intro h
      exact ⟨d₁, rfl, h⟩
    · rintro ⟨_, heq, h⟩
      obtain rfl := Except.ok.inj heq
      exact h

/-- The loop comes to its end when every pointer is live and no query is interrupted. -/
theorem foldlM_query_ok_iff (l : List (NodeDescription × NodePtr)) : ∀ d : Discovery,
    (∃ d', l.foldlM (query lock isAddress exchange networkDesc) d = .ok d') ↔
      (∀ it ∈ l, lock it.2 ≠ none) ∧ ∀ before it node, Asked lock exchange d.nodes l before it node →
        ¬ ((exchange it.1).Severed ∨ (exchange it.1).Malformed isAddress) := by
  induction l with
  | nil =>
    intro d
    refine iff_of_true ⟨d, rfl⟩ ⟨nofun, ?_⟩
    rintro before it node ⟨⟨later, hentry⟩, -⟩
    exact absurd hentry.symm (by simp)
  | cons it l ih =>
    intro d
    constructor
    · rintro ⟨d', h⟩
      obtain ⟨d₁, hquery, hrest⟩ := foldlM_query_cons.1 h
      obtain ⟨node, result, n, hnode, hresult, rfl⟩ := query_eq_ok_iff.1 hquery
      obtain ⟨hlive, hread⟩ := (ih _).1 ⟨d', hrest⟩
      refine ⟨List.forall_mem_cons.2 ⟨by rw [hnode]; nofun, hlive⟩, ?_⟩
      exact (readable_cons hnode hresult).2 hread
    · rintro ⟨hlive, hread⟩
      obtain ⟨hit, hlive⟩ := List.forall_mem_cons.1 hlive
      obtain ⟨node, hnode⟩ := Option.ne_none_iff_exists'.1 hit
      cases hresult : (d.nodes node).getServersList isAddress networkDesc (exchange it.1) with
      | error e =>
        obtain ⟨hin, hbad⟩ := getServersList_error_iff.1 ⟨e, hresult⟩
        exact absurd hbad (hread [] it node ⟨⟨l, rfl⟩, hnode, hin, nofun⟩)
      | ok r =>
        obtain ⟨result, n⟩ := r
        obtain ⟨d', hd'⟩ := (ih (d.append node result n)).2
          ⟨hlive, (readable_cons hnode hresult).1 hread⟩
        exact ⟨d', foldlM_query_cons.2
          ⟨_, query_eq_ok_iff.2 ⟨node, result, n, hnode, hresult, rfl⟩, hd'⟩⟩

theorem foldlM_query_error_iff (l : List (NodeDescription × NodePtr)) (d : Discovery) :
    (∃ e, l.foldlM (query lock isAddress exchange networkDesc) d = .error e) ↔
      (∃ it ∈ l, lock it.2 = none) ∨ ∃ before it node, Asked lock exchange d.nodes l before it node ∧
        ((exchange it.1).Severed ∨ (exchange it.1).Malformed isAddress) := by
  have hok := @foldlM_query_ok_iff lock isAddress exchange networkDesc l d
  cases hd : l.foldlM (query lock isAddress exchange networkDesc) d with
  | error e =>
    rw [hd] at hok
    refine iff_of_true ⟨e, rfl⟩ ?_
    by_contra hnone
    obtain ⟨hlive, hread⟩ := not_or.1 hnone
    obtain ⟨d', hd'⟩ := hok.2 ⟨fun it hit hgone => hlive ⟨it, hit, hgone⟩,
      fun before it node hasked hbad => hread ⟨before, it, node, hasked, hbad⟩⟩
    cases hd'
  | ok d' =>
    obtain ⟨hlive, hread⟩ := hok.1 ⟨d', hd⟩
    refine iff_of_false nofun ?_
    rintro (⟨it, hit, hgone⟩ | ⟨before, it, node, hasked, hbad⟩)
    · exact hlive it hit hgone
    · exact hread before it node hasked hbad

theorem foldlM_query_asked (l : List (NodeDescription × NodePtr)) : ∀ d d' : Discovery,
    l.foldlM (query lock isAddress exchange networkDesc) d = .ok d' →
      d'.asked = d.asked ++ answers lock isAddress exchange networkDesc d.nodes l := by
  induction l with
  | nil =>
    intro d d' h
    obtain rfl := Except.ok.inj h
    exact (List.append_nil _).symm
  | cons it l ih =>
    intro d d' h
    obtain ⟨d₁, hquery, hrest⟩ := foldlM_query_cons.1 h
    obtain ⟨node, result, n, hnode, hresult, rfl⟩ := query_eq_ok_iff.1 hquery
    rw [ih _ d' hrest, answers_cons hnode hresult]
    simp only [Discovery.append, List.append_assoc, List.singleton_append]

theorem foldlM_query_servers (l : List (NodeDescription × NodePtr)) : ∀ d d' : Discovery,
    l.foldlM (query lock isAddress exchange networkDesc) d = .ok d' →
      d.availServers = listed d.asked → d'.availServers = listed d'.asked := by
  induction l with
  | nil =>
    intro d d' h hd
    obtain rfl := Except.ok.inj h
    exact hd
  | cons it l ih =>
    intro d d' h hd
    obtain ⟨d₁, hquery, hrest⟩ := foldlM_query_cons.1 h
    obtain ⟨node, result, n, -, -, rfl⟩ := query_eq_ok_iff.1 hquery
    refine ih _ d' hrest ?_
    show (if result.1 = .ok then d.availServers ++ result.2 else d.availServers) =
      listed (d.asked ++ [(node, result)])
    rw [listed_append, hd]

/-! ### No repetition -/

section Sources

variable {node : NodePtr} {result : NodeError × List ServerDescription}
  {asked : List (NodePtr × NodeError × List ServerDescription)}

theorem mem_sources_cons {node' : NodePtr} : node' ∈ sources ((node, result) :: asked) ↔
    (node' = node ∧ result.1 = .ok ∧ result.2 ≠ []) ∨ node' ∈ sources asked := by
  unfold sources
  by_cases h : result.1 = .ok ∧ result.2 ≠ []
  · rw [List.filter_cons_of_pos (by simpa using h), List.map_cons, List.mem_cons]
    simp only [h, and_true, ne_eq, not_false_eq_true]
  · rw [List.filter_cons_of_neg (by simpa using h)]
    simp only [h, and_false, false_or]

theorem nodup_sources_cons : (sources ((node, result) :: asked)).Nodup ↔
    (result.1 = .ok ∧ result.2 ≠ [] → node ∉ sources asked) ∧ (sources asked).Nodup := by
  unfold sources
  by_cases h : result.1 = .ok ∧ result.2 ≠ []
  · rw [List.filter_cons_of_pos (by simpa using h), List.map_cons, List.nodup_cons]
    simp only [h, ne_eq, not_false_eq_true, and_self, true_imp_iff]
  · rw [List.filter_cons_of_neg (by simpa using h)]
    simp only [h, false_imp_iff, true_and]

end Sources

/-- Servers are listed of a node when it is asked for an entry whose reply lists some. -/
theorem mem_sources_answers (l : List (NodeDescription × NodePtr)) : ∀ d d' : Discovery,
    l.foldlM (query lock isAddress exchange networkDesc) d = .ok d' → ∀ node,
      (node ∈ sources (answers lock isAddress exchange networkDesc d.nodes l) ↔
        ∃ before it, Asked lock exchange d.nodes l before it node ∧ (exchange it.1).Lists) := by
  induction l with
  | nil =>
    intro d d' _ node
    refine iff_of_false nofun ?_
    rintro ⟨before, it, ⟨⟨later, hentry⟩, -⟩, -⟩
    exact absurd hentry.symm (by simp)
  | cons it l ih =>
    intro d d' h node'
    obtain ⟨d₁, hquery, hrest⟩ := foldlM_query_cons.1 h
    obtain ⟨node, result, n, hnode, hresult, rfl⟩ := query_eq_ok_iff.1 hquery
    have hmem : node' ∈ sources (answers lock isAddress exchange networkDesc
        (Function.update d.nodes node n) l) ↔ _ := ih _ d' hrest node'
    rw [answers_cons hnode hresult, mem_sources_cons, hmem, (getServersList_eq_ok hresult).2]
    constructor
    · rintro (⟨rfl, hin, hlists⟩ | ⟨before, it', hasked, hlists⟩)
      · exact ⟨[], it, (asked_cons hnode hresult).2 (.inl ⟨rfl, rfl, rfl, hin⟩), hlists⟩
      · exact ⟨it :: before, it', (asked_cons hnode hresult).2 (.inr ⟨before, rfl, hasked⟩), hlists⟩
    · rintro ⟨before, it', hasked, hlists⟩
      rcases (asked_cons hnode hresult).1 hasked with ⟨-, rfl, rfl, hin⟩ | ⟨before', -, hasked⟩
      · exact .inl ⟨rfl, hin, hlists⟩
      · exact .inr ⟨before', it', hasked, hlists⟩

/-- No node is repeated when none is asked for two entries whose replies list servers. -/
theorem nodup_sources_answers (l : List (NodeDescription × NodePtr)) : ∀ d d' : Discovery,
    l.foldlM (query lock isAddress exchange networkDesc) d = .ok d' →
      ((sources (answers lock isAddress exchange networkDesc d.nodes l)).Nodup ↔
        ∀ before it node, Asked lock exchange d.nodes l before it node → (exchange it.1).Lists →
          ∀ it' ∈ before, lock it'.2 = some node → ¬ (exchange it'.1).Lists) := by
  induction l with
  | nil =>
    intro d d' _
    refine iff_of_true List.nodup_nil ?_
    rintro before it node ⟨⟨later, hentry⟩, -⟩
    exact absurd hentry.symm (by simp)
  | cons it l ih =>
    intro d d' h
    obtain ⟨d₁, hquery, hrest⟩ := foldlM_query_cons.1 h
    obtain ⟨node, result, n, hnode, hresult, rfl⟩ := query_eq_ok_iff.1 hquery
    have hmem : node ∈ sources (answers lock isAddress exchange networkDesc
        (Function.update d.nodes node n) l) ↔ _ := mem_sources_answers l _ d' hrest node
    have hnodup : (sources (answers lock isAddress exchange networkDesc
        (Function.update d.nodes node n) l)).Nodup ↔ _ := ih _ d' hrest
    rw [answers_cons hnode hresult, nodup_sources_cons, hnodup, hmem, (getServersList_eq_ok hresult).2]
    constructor
    · rintro ⟨hfirst, hrest⟩ before it' node' hasked hlists
      rcases (asked_cons hnode hresult).1 hasked with ⟨rfl, -⟩ | ⟨before', rfl, hasked'⟩
      · exact nofun
      · refine List.forall_mem_cons.2 ⟨fun hsame hlists' => ?_, hrest before' it' node' hasked' hlists⟩
        obtain rfl := Option.some_inj.1 (hnode.symm.trans hsame)
        exact hfirst ⟨hasked.isLogged, hlists'⟩ ⟨before', it', hasked', hlists⟩
    · intro hall
      refine ⟨?_, fun before it' node' hasked hlists it'' hit'' => ?_⟩
      · rintro ⟨-, hlists⟩ ⟨before, it', hasked, hlists'⟩
        exact hall _ it' node ((asked_cons hnode hresult).2 (.inr ⟨before, rfl, hasked⟩)) hlists' it
          (List.mem_cons_self ..) hnode hlists
      · exact hall _ it' node' ((asked_cons hnode hresult).2 (.inr ⟨before, rfl, hasked⟩)) hlists it''
          (List.mem_cons_of_mem _ hit'')

/-! ### All servers -/

variable {nodes : NodePtr → NodeState} {network : Network}

theorem Discovers.live {d : Discovery} (hd : Discovers lock isAddress exchange network nodes d) :
    ∀ it ∈ network.nodeSet.toList, lock it.2 ≠ none :=
  ((foldlM_query_ok_iff _ { nodes }).1 ⟨d, hd.returns⟩).1

theorem Discovers.answerable {d : Discovery} (hd : Discovers lock isAddress exchange network nodes d) :
    Answerable lock isAddress exchange nodes network.nodeSet.toList where
  readable := ((foldlM_query_ok_iff _ { nodes }).1 ⟨d, hd.returns⟩).2
  distinct := by
    have honce := hd.once
    rw [hd.asked] at honce
    exact (nodup_sources_answers _ { nodes } d hd.returns).1 honce

theorem Answerable.exists_discovers (hlive : ∀ it ∈ network.nodeSet.toList, lock it.2 ≠ none)
    (h : Answerable lock isAddress exchange nodes network.nodeSet.toList) :
    ∃ d, Discovers lock isAddress exchange network nodes d := by
  obtain ⟨d, hd⟩ : ∃ d, network.getAvailableServers lock isAddress exchange nodes = .ok d :=
    (foldlM_query_ok_iff _ { nodes }).2 ⟨hlive, h.readable⟩
  have hasked := foldlM_query_asked _ _ d hd
  rw [List.nil_append] at hasked
  refine ⟨d, hd, hasked, foldlM_query_servers _ _ d hd rfl, ?_⟩
  rw [hasked]
  exact (nodup_sources_answers _ { nodes } d hd).2 h.distinct

/-- **Discovery works exactly when no pointer of the network has expired**, no query is interrupted, and
none lists servers of a node that were listed before. -/
theorem discovers_iff (lock : NodePtr → Option NodePtr) (isAddress : String → Bool)
    (exchange : NodeDescription → Exchange) (network : Network) (nodes : NodePtr → NodeState) :
    (∃ d, Discovers lock isAddress exchange network nodes d) ↔
      (∀ it ∈ network.nodeSet.toList, lock it.2 ≠ none) ∧
        Answerable lock isAddress exchange nodes network.nodeSet.toList :=
  ⟨fun ⟨_, hd⟩ => ⟨hd.live, hd.answerable⟩, fun h => h.2.exists_discovers h.1⟩

/-- Once `isActive` has erased what has expired, the dead nodes do not matter. -/
theorem discovers_isActive_iff {active : NodePtr → Bool} :
    (∃ d, Discovers lock isAddress exchange (network.isActive lock active).2 nodes d) ↔
      Answerable lock isAddress exchange nodes (network.isActive lock active).2.nodeSet.toList := by
  refine ⟨fun ⟨d, hd⟩ => hd.answerable, fun h => h.exists_discovers ?_⟩
  rintro ⟨k, q⟩ hit
  exact (mem_nodeSet_isActive.1 hit).2

end Network

/-- A node is associated and destroyed. -/
def destroyed : List NetworkNodes.Event :=
  let node : NodeDescription := ⟨"127.0.0.1", "node1", 10⟩
  [.manager (.createNode node .default), .associateNode 0, .manager (.removeNode node),
    .manager (.release 0)]

/-- Nobody holds the only node of the network any more, and its pointer is dereferenced. -/
theorem not_discovers_destroyed :
    ∃ s : NetworkNodes, Runs.run NetworkNodes.step (NetworkNodes.start
        ⟨.PUBLIC, .LISTED, .CLIENT_ONLY, "protocol1", "network1", {}⟩) destroyed = some s ∧
      ∀ isAddress exchange nodes,
        s.network.getAvailableServers s.manager.lock isAddress exchange nodes = .error .nullNode ∧
        ¬ ∃ d, Network.Discovers s.manager.lock isAddress exchange s.network nodes d := by
  have hrun : (Runs.run NetworkNodes.step (NetworkNodes.start
      ⟨.PUBLIC, .LISTED, .CLIENT_ONLY, "protocol1", "network1", {}⟩) destroyed).map
        (fun s => (s.network.nodeSet.toList.map Prod.snd, s.manager.lock 0)) = some ([0], none) := by
    decide +kernel
  obtain ⟨s, hs, hentries⟩ := Option.map_eq_some_iff.1 hrun
  obtain ⟨hlist, hgone⟩ := Prod.mk.inj hentries
  refine ⟨s, hs, fun isAddress exchange nodes => ?_⟩
  have hnull : s.network.getAvailableServers s.manager.lock isAddress exchange nodes =
      .error .nullNode := by
    obtain ⟨it, hit, hzero⟩ := List.map_eq_singleton_iff.1 hlist
    unfold Network.getAvailableServers
    rw [hit, List.foldlM_cons, Network.query, hzero, hgone]
    rfl
  refine ⟨hnull, ?_⟩
  rintro ⟨d, hd⟩
  exact absurd (hnull.symm.trans hd.returns) nofun

end Sp2p.Sercli
