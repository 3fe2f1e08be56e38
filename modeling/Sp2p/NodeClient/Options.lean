import Sp2p.NodeClient.ProgramLoop
import Sp2p.Sercli.NodeCalls

/-!
# The options of the commands

What the commands of the contexts declare to `program_options`, and how their handlers read the values.
Taking the words of a line apart is left to that library.
-/

namespace Sp2p.NodeClient

open Sercli

/-! ### Declarations -/

/-- What follows an option. -/
inductive ValueSemantic
  | untyped
  | string
  | uint16
  | bool (defaultValue : Bool)
  deriving DecidableEq

/-- The texts of the descriptions are for the help messages alone. -/
structure OptionDescription where
  longName : String
  shortName : Char
  semantic : ValueSemantic
  deriving DecidableEq

abbrev OptionsDescription := List OptionDescription

def helpOption : OptionDescription := ⟨"help", 'h', .untyped⟩

namespace NodeContext

def suOpts : OptionsDescription :=
  [helpOption, ⟨"username", 'u', .string⟩, ⟨"email", 'e', .string⟩, ⟨"password", 'p', .string⟩,
    ⟨"registered", 'r', .bool false⟩]

def cpOpts : OptionsDescription := [helpOption, ⟨"password", 'p', .string⟩]

def getUOpts : OptionsDescription := [helpOption, ⟨"username", 'u', .string⟩]

def inviteOpts : OptionsDescription := [helpOption, ⟨"username", 'u', .string⟩]

def upsOpts : OptionsDescription := [helpOption, ⟨"port", 'p', .uint16⟩]

def gkOpts : OptionsDescription := [helpOption, ⟨"network", 'n', .string⟩, ⟨"password", 'p', .string⟩]

def skOpts : OptionsDescription := [helpOption, ⟨"network", 'n', .string⟩]

end NodeContext

namespace Sp2pContext

def user : OptionsDescription := [⟨"username", 'u', .string⟩, ⟨"email", 'e', .string⟩]

def myUser : OptionsDescription :=
  [⟨"password", 'p', .string⟩, ⟨"registered", 'r', .bool false⟩] ++ user

def nodeDesc : OptionsDescription :=
  [helpOption, ⟨"name", 'n', .string⟩, ⟨"ip-address", 'i', .string⟩, ⟨"port", 'P', .uint16⟩]

def createNode : OptionsDescription := nodeDesc ++ myUser

def getNode : OptionsDescription := nodeDesc

def removeNode : OptionsDescription := nodeDesc

def networkDesc : OptionsDescription :=
  [helpOption, ⟨"name", 'n', .string⟩, ⟨"protocol", 'p', .string⟩, ⟨"access_rights", 'A', .string⟩,
    ⟨"visibility", 'V', .string⟩, ⟨"participation", 'P', .string⟩]

def createNetwork : OptionsDescription := networkDesc

def getNetwork : OptionsDescription := networkDesc

def removeNetwork : OptionsDescription := networkDesc

def saveState : OptionsDescription := [helpOption, ⟨"filename", 'f', .string⟩, ⟨"password", 'p', .string⟩]

def loadState : OptionsDescription := [helpOption, ⟨"filename", 'f', .string⟩, ⟨"password", 'p', .string⟩]

end Sp2pContext

/-! ### Values -/

inductive VariableValue
  | untyped
  | string (value : String)
  | uint16 (value : UInt16)
  | bool (value : Bool)
  deriving DecidableEq

def VariableValue.string? : VariableValue → Option String
  | .string value => some value
  | _ => none

def VariableValue.uint16? : VariableValue → Option UInt16
  | .uint16 value => some value
  | _ => none

def VariableValue.bool? : VariableValue → Option Bool
  | .bool value => some value
  | _ => none

/-- What is stored under the long names of the options. -/
abbrev VariablesMap := String → Option VariableValue

namespace VariablesMap

variable (vm : VariablesMap) {α : Type} (type : VariableValue → Option α)

def count (name : String) : Bool := (vm name).isSome

/-- `vm[name].as<T>()`. Another type is a `bad_any_cast`, and so is an option that was not given. -/
def valueAs (name : String) : Except Thrown α :=
  match (vm name).bind type with
  | some value => .ok value
  | none => .error .other

def required (name message : String) : Except Thrown α :=
  if vm.count name then vm.valueAs type name else .error (.commandException message)

def optional (name : String) : Except Thrown (Option α) :=
  if vm.count name then (vm.valueAs type name).map some else .ok none

end VariablesMap

/-! ### Texts -/

def accessRights : String → Except Thrown NetworkDescription.AccessRights
  | "PUBLIC" => .ok .PUBLIC
  | "PRIVATE" => .ok .PRIVATE
  | _ => .error (.commandException "No such access rights")

def visibility : String → Except Thrown NetworkDescription.Visibility
  | "LISTED" => .ok .LISTED
  | "UNLISTED" => .ok .UNLISTED
  | _ => .error (.commandException "No such visibility options")

def participationRights : String → Except Thrown NetworkDescription.ParticipationRights
  | "CLIENT_ONLY" => .ok .CLIENT_ONLY
  | "CLIENT_SERVER" => .ok .CLIENT_SERVER
  | _ => .error (.commandException "No such participation rights")

/-- The text of `operator<<`. -/
def nodeErrorText : NodeError → String
  | .ok => "OK"
  | .isActive => "IS_ACTIVE"
  | .noConnection => "NO_CONNECTION"
  | .internalServerError => "INTERNAL_SERVER_ERROR"
  | .badRequest => "BAD_REQUEST"
  | .noPrivilages => "NO_PRIVILAGES"
  | .badCredentials => "BAD_CREDENTIALS"
  | .notLogged => "NOT_LOGGED"
  | .noSuchUser => "NO_SUCH_USER"
  | .noSuchNetwork => "NO_SUCH_NETWORK"
  | .badData => "BAD_DATA"
  | .alreadyExists => "ALREADY_EXISTS"
  | .badServerResponse => "BAD_SERVER_RESPONSE"
  | .sendError => "SEND_ERROR"
  | .other => "OTHER"

/-! ### The words of a line -/

/-- The text behind a pointer of the array. One that is of another line points into a vector that is
gone. -/
def Dispatch.arg (d : Dispatch) (i : Nat) : Option String :=
  match d.argv[i]? with
  | some (some p) => if p.line = d.line then d.words[p.word]? else none
  | _ => none

/-- `n` arguments from the `i`th on. -/
def Dispatch.argsFrom (d : Dispatch) : (n i : Nat) → Option (List String)
  | 0, _ => some []
  | n + 1, i => do
    let word ← d.arg i
    let words ← d.argsFrom n (i + 1)
    some (word :: words)

/-- What `parse_command_line` takes from the array, which is all but the first. -/
def Dispatch.args (d : Dispatch) : Option (List String) :=
  if d.argc < 0 then none else d.argsFrom (d.argc.toNat - 1) 1

theorem Dispatch.argsFrom_of_inBounds {d : Dispatch} (h : d.InBounds) (n : Nat) :
    ∀ i, i + n ≤ d.argc.toNat → d.argsFrom n i = some ((d.words.drop i).take n) := by
  induction n with
  | zero =>
    intro i _
    rw [List.take_zero]
    rfl
  | succ n ih =>
    intro i hi
    obtain ⟨hlt, hptr⟩ := h.argv i (by omega)
    have hword : d.arg i = some d.words[i] := by
      rw [arg, hptr]
      exact (if_pos rfl).trans (List.getElem?_eq_getElem hlt)
    rw [argsFrom, hword, ih (i + 1) (by omega), List.drop_eq_getElem_cons hlt]
    rfl

/-- A handler that is given no more than its line has put into the array reads the words of the line. -/
theorem Dispatch.args_of_inBounds {d : Dispatch} (h : d.InBounds) (hargc : 0 < d.argc) :
    d.args = some ((d.words.drop 1).take (d.argc.toNat - 1)) := by
  rw [args, if_neg (by omega), argsFrom_of_inBounds h _ 1 (by omega)]

end Sp2p.NodeClient
