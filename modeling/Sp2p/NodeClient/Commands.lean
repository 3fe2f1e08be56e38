import Sp2p.NodeClient.Effects

/-!
# Lines one after the other

The loop as a system: a line takes it from one state to the next, unless the program ends with it.
`reported_leaves` is about the lines after which an exception is reported: up to sessions such a line has
done nothing.
-/

namespace Sp2p.NodeClient

open Std Protocol Sercli

/-! ### The loop as a system -/

namespace ProgramLoop

variable {δ : Type} {handler : δ → String → Option (Handler δ)} {s s' : ProgramLoop δ}

/-- A line after which the loop goes on. -/
def step (handler : δ → String → Option (Handler δ)) (s : ProgramLoop δ) (commandLine : String) :
    Option (ProgramLoop δ) :=
  match s.turn handler commandLine with
  | (s', none) => some s'
  | (s', some thrown) => thrown.report.map fun text => { s' with output := s'.output ++ [text] }

theorem runProgramLoop_cons {commandLine : String} (h : s.step handler commandLine = some s')
    (input : List String) :
    s.runProgramLoop handler (commandLine :: input) = s'.runProgramLoop handler input := by
  unfold step at h
  rw [runProgramLoop]
  split at h
  · rename_i s₁ heq
    obtain rfl := Option.some_inj.1 h
    rw [heq]
  · rename_i s₁ thrown heq
    obtain ⟨text, htext, rfl⟩ := Option.map_eq_some_iff.1 h
    rw [heq]
    cases thrown with
    | exitException | other => cases htext
    | nodeException | networkException | nodeError | programOption | commandException =>
      dsimp only
      rw [htext]

/-- The lines that the loop has gone through come first in a run of it. -/
theorem runProgramLoop_of_run {lines : List String} :
    ∀ {s : ProgramLoop δ}, Runs.run (step handler) s lines = some s' → ∀ input : List String,
      s.runProgramLoop handler (lines ++ input) = s'.runProgramLoop handler input := by
  induction lines with
  | nil =>
    intro s hrun input
    obtain rfl := Option.some_inj.1 hrun
    rfl
  | cons line lines ih =>
    intro s hrun input
    obtain ⟨s₁, hs₁, hrest⟩ := Option.bind_eq_some_iff.1 hrun
    rw [List.cons_append, runProgramLoop_cons hs₁, ih hrest]

/-- A line calls the handler of its first word, or it leaves the context as it is. -/
theorem turn_cases (handler : δ → String → Option (Handler δ)) (s : ProgramLoop δ)
    (commandLine : String) :
    (s.turn handler commandLine).1.context = s.context ∨
      ∃ command rest call d, splitInput commandLine = command :: rest ∧
        handler s.context command = some call ∧
        (s.turn handler commandLine).1.context = (call d s.context).2 ∧
        (s.turn handler commandLine).2 = (call d s.context).1 := by
  unfold turn
  cases splitInput commandLine with
  | nil => exact .inl rfl
  | cons command rest =>
    dsimp only
    cases hcall : handler s.context command with
    | none => exact .inl rfl
    | some call => exact .inr ⟨command, rest, call, _, rfl, hcall, rfl, rfl⟩

theorem step_context {commandLine : String} (h : s.step handler commandLine = some s') :
    s'.context = (s.turn handler commandLine).1.context := by
  unfold step at h
  split at h
  · rename_i heq
    rw [heq, Option.some_inj.1 h]
  · rename_i heq
    obtain ⟨text, -, rfl⟩ := Option.map_eq_some_iff.1 h
    rw [heq]

end ProgramLoop

/-! ### Exceptions that are reported -/

section Reported

variable {κ ξ σ : Type}

/-- The same client, up to the sessions of its nodes. -/
def SessionsOnly (s s' : Client κ ξ) : Prop :=
  ∃ g : NodePtr → NodeMembers κ ξ, (∀ p, SameButSession (s.nodes p) (g p)) ∧ s' = { s with nodes := g }

theorem SessionsOnly.refl (s : Client κ ξ) : SessionsOnly s s := ⟨s.nodes, fun _ => .refl _, rfl⟩

theorem SessionsOnly.trans {s s' s'' : Client κ ξ} (h : SessionsOnly s s') (h' : SessionsOnly s' s'') :
    SessionsOnly s s'' := by
  obtain ⟨g, hg, rfl⟩ := h
  obtain ⟨g', hg', rfl⟩ := h'
  exact ⟨g', fun p => (hg p).trans (hg' p), rfl⟩

theorem sessionsOnly_endConnections (s : Client κ ξ) (ended : List NodePtr) :
    SessionsOnly s (s.endConnections ended) :=
  ⟨_, fun p => .setActive (s.nodes p) _, rfl⟩

theorem sessionsOnly_setNode {s : Client κ ξ} {p : NodePtr} {n : NodeMembers κ ξ}
    (h : SameButSession (s.nodes p) n) : SessionsOnly s (s.setNode p n) := by
  refine ⟨_, fun q => ?_, rfl⟩
  rw [Function.update_apply]
  split
  · rename_i hq
    rw [hq]
    exact h
  · exact .refl _

variable {s : Client κ ξ} {r : Option Thrown × Client κ ξ} {thrown : Thrown}

theorem LocalEffect.reported (h : LocalEffect s r) (hthrown : thrown ∈ r.1) (hreport : thrown.report.isSome) :
    SessionsOnly s r.2 := by
  cases h with
  | throws thrown => exact .refl s
  | node p n t hp hdesc ht => exact sessionsOnly_setNode (ht thrown hthrown hreport)
  | sessions g t hg => exact ⟨g, hg, rfl⟩
  | moves | network => cases hthrown

theorem Effect.reported (h : Effect s r) (hthrown : thrown ∈ r.1) (hreport : thrown.report.isSome) :
    SessionsOnly s r.2 := by
  cases h with
  | ofLocal h => exact h.reported hthrown hreport
  | createNode | removeNode | createNetwork | removeNetwork => cases hthrown
  | saves dataManager saved t ht | renews dataManager g o t hg ho ht =>
    rw [ht thrown hthrown] at hreport
    cases hreport

theorem Picks.reported (h : Picks s r) (hthrown : thrown ∈ r.1) : SessionsOnly s r.2 := by
  cases h with
  | none t => exact .refl s
  | node | network => cases hthrown

variable (lib : Libraries κ ξ σ) (world : Nat → Surroundings κ σ)

/-- **A line after which an exception is reported has done nothing**, up to the sessions of the nodes. -/
theorem reported_leaves (s : ProgramLoop (Client κ ξ)) (commandLine : String) {text : String}
    (h : (s.turn (dispatcher lib world) commandLine).2.bind Thrown.report = some text) :
    SessionsOnly s.context (s.turn (dispatcher lib world) commandLine).1.context := by
  obtain ⟨thrown, hthrown, hreport⟩ := Option.bind_eq_some_iff.1 h
  rcases s.turn_cases (dispatcher lib world) commandLine with
    heq | ⟨command, rest, call, d, -, hcall, heq, hthrow⟩
  · rw [heq]
    exact .refl _
  · rw [heq]
    rw [hthrow] at hthrown
    have hsome : thrown.report.isSome := Option.isSome_of_eq_some hreport
    refine (sessionsOnly_endConnections s.context (world d.line).ended).trans ?_
    rcases dispatcher_cases lib world hcall d s.context with (hlocal | ⟨heffect, -⟩) | ⟨hpicks, -⟩
    · exact hlocal.reported hthrown hsome
    · exact heffect.reported hthrown hsome
    · exact hpicks.reported hthrown

end Reported

/-! ### A client -/

/-- A text as the value of an option. -/
def VariableValue.ofText (text : String) : ValueSemantic → Option VariableValue
  | .untyped => none
  | .string => some (.string text)
  | .uint16 => ((stoi text).filter fun n => 0 ≤ n ∧ n < 2 ^ 16).map fun n => .uint16 n.toNat.toUInt16
  | .bool _ =>
    if text = "true" then some (.bool true) else if text = "false" then some (.bool false) else none

/-- Takes short options, each with a value behind it. -/
def parseShort (opts : OptionsDescription) : List String → Except String VariablesMap
  | [] => .ok fun name => (opts.find? fun o => o.longName = name).bind fun o =>
    match o.semantic with
    | .bool defaultValue => some (.bool defaultValue)
    | _ => none
  | [word] => .error ("the required argument for option '" ++ word ++ "' is missing")
  | word :: value :: words => do
    let vm ← parseShort opts words
    match opts.find? fun o => word.toList = ['-', o.shortName] with
    | none => .error ("unrecognised option '" ++ word ++ "'")
    | some o =>
      match VariableValue.ofText value o.semantic with
      | none => .error ("the argument ('" ++ value ++ "') for option '" ++ word ++ "' is invalid")
      | some v => .ok fun name => if name = o.longName then some v else vm name

def plainLibraries : Libraries Unit Unit (List Item) where
  parseCommandLine := parseShort
  fromString text := some text
  readCertificate _ := none
  certRequest _ _ := ""
  source := ManagerObjects.itemSource
  opened := false

/-- Nothing is connected, and there is no file. -/
def quiet (_ : Nat) : Surroundings Unit (List Item) where
  key := ()

def newClient : ProgramLoop (Client Unit Unit) where
  context := { dataManager := ⟨.CryptDataManager "", ""⟩ }
  arguments := Vector.replicate ARGS_SIZE none

/-- The reply to a log-in. -/
def givesCookie : NodeMessage where
  responseType := some .ok
  loginResponse := some { cookie := some "c00kie" }

/-- Up to the line `4` the tracker gives a node its cookie, and then it has ended the session. -/
def endsSession (line : Nat) : Surroundings Unit (List Item) where
  key := ()
  exchange _ :=
    { connected := true, reply := some (if line < 4 then givesCookie else { responseType := some .notLogged }) }

def logsInNode1 : List String := ["cnd -n node1 -i 127.0.0.1 -P 10", "gnd -n node1", "cd Node", "login"]

/-- The password is not changed, and the node is not logged in any more. -/
theorem reported_leaves_cp :
    ∃ s s' : ProgramLoop (Client Unit Unit),
      Runs.run (ProgramLoop.step (dispatcher plainLibraries endsSession)) newClient logsInNode1 = some s ∧
      (s.turn (dispatcher plainLibraries endsSession) "cp -p new").1 = s' ∧
      (s.context.nodes 0).isLogged = true ∧ (s'.context.nodes 0).isLogged = false ∧
      SessionsOnly s.context s'.context := by
  have hsome : (Runs.run (ProgramLoop.step (dispatcher plainLibraries endsSession)) newClient
      logsInNode1).map (fun s =>
        let r := s.turn (dispatcher plainLibraries endsSession) "cp -p new"
        (r.2.bind Thrown.report, (s.context.nodes 0).isLogged, (r.1.context.nodes 0).isLogged)) =
        some (some "Node error: OTHER", true, false) := by
    decide +kernel
  obtain ⟨s, hrun, heq⟩ := Option.map_eq_some_iff.1 hsome
  obtain ⟨hreport, heq⟩ := Prod.mk.inj heq
  obtain ⟨hbefore, hafter⟩ := Prod.mk.inj heq
  exact ⟨s, _, hrun, rfl, hbefore, hafter,
    reported_leaves plainLibraries endsSession s "cp -p new" hreport⟩

end Sp2p.NodeClient
