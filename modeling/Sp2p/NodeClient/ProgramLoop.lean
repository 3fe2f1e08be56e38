import Mathlib.Tactic.Common
import Sp2p.Lib.Framing
import Sp2p.Sercli.Archive

/-!
# The loop of the client

`run_program_loop` splits a line into words, `place_arguments` puts pointers to the words into an array
of fixed size, and the handler of the first word is called with the number of words and the array. The
array is the same for all lines: what a line does not set is left of earlier lines, and points into a
vector that is gone, or was never set.

`inBounds_iff` says for which lines a handler is given no more than the line has put into the array.
-/

namespace Sp2p.NodeClient

open Framing

def ARGS_SIZE : Nat := 100

/-- A pointer to the text of a word, in the vector that was made of a line. -/
structure ArgPtr where
  line : Nat
  word : Nat
  deriving DecidableEq

/-- `none` has never been set. -/
abbrev Arguments := Vector (Option ArgPtr) ARGS_SIZE

/-- The words between white space. -/
def splitInput (input : String) : List String :=
  ((input.toList.splitOnP Sercli.isSpace).filter (· ≠ [])).map String.ofList

/-- The loop of `place_arguments` from the word `i` on, with what it prints. -/
def placeArguments (line i : Nat) : List String → Arguments → Arguments × List String
  | [], arguments => (arguments, [])
  | _ :: input, arguments =>
    if i = ARGS_SIZE then (arguments, ["Too many arguments"])
    else placeArguments line (i + 1) input (arguments.setIfInBounds i (some ⟨line, i⟩))

/-- A call of a handler: the arguments, and the words and the number of the line it is called for. -/
structure Dispatch where
  line : Nat
  words : List String
  argc : Int
  argv : Arguments

/-- What a handler throws. -/
inductive Thrown
  | nodeException (what : String)
  | networkException (what : String)
  | nodeError (error : String)
  | programOption (what : String)
  | commandException (what : String)
  | exitException
  /-- Of any other type. -/
  | other

/-- What is printed of an exception after which the loop goes on. -/
def Thrown.report : Thrown → Option String
  | .nodeException what => some ("Node exception: " ++ what)
  | .networkException what => some ("Network exception: " ++ what)
  | .nodeError error => some ("Node error: " ++ error)
  | .programOption what => some ("Program option exception: " ++ what)
  | .commandException what => some ("Command exception: " ++ what)
  | .exitException | .other => none

/-- A handler changes what there is besides the loop, and may throw. -/
abbrev Handler (δ : Type) := Dispatch → δ → Option Thrown × δ

structure ProgramLoop (δ : Type) where
  context : δ
  arguments : Arguments
  lines : Nat := 0
  dispatched : List Dispatch := []
  output : List String := []

namespace ProgramLoop

section Run

variable {δ : Type} (handler : δ → String → Option (Handler δ))

/-- The body of the loop for a line, with what it throws; `handler` is `dispatcher[command]`. -/
def turn (s : ProgramLoop δ) (commandLine : String) : ProgramLoop δ × Option Thrown :=
  let s' := { s with lines := s.lines + 1, output := s.output ++ ["> "] }
  match splitInput commandLine with
  | [] => (s', none)
  | command :: rest =>
    let splitted := command :: rest
    let (arguments, printed) := placeArguments s.lines 0 splitted s.arguments
    let s' := { s' with arguments, output := s'.output ++ printed }
    match handler s.context command with
    | none => (s', some (.commandException "No such command avaialable in current context"))
    | some call =>
      -- `splitted.size()` becomes an `int`
      let d : Dispatch := ⟨s.lines, splitted, toInt32 splitted.length, arguments⟩
      let (thrown, context) := call d s.context
      ({ s' with context, dispatched := s'.dispatched ++ [d] }, thrown)

def runProgramLoop (s : ProgramLoop δ) : List String → ProgramLoop δ
  | [] => { s with output := s.output ++ ["> ", "Exiting"] }
  | commandLine :: input =>
    match s.turn handler commandLine with
    | (s', none) => runProgramLoop s' input
    | (s', some .exitException) => { s' with output := s'.output ++ ["Exiting"] }
    | (s', some thrown) =>
      match thrown.report with
      | some text => runProgramLoop { s' with output := s'.output ++ [text] } input
      | none => s'

end Run

end ProgramLoop

/-- The handler is given at most as many arguments as there is room for, and each of them is a word of
the line. -/
structure Dispatch.InBounds (d : Dispatch) : Prop where
  argc : d.argc ≤ ARGS_SIZE
  argv : ∀ i : Nat, (i : Int) < d.argc → i < d.words.length ∧ d.argv[i]? = some (some ⟨d.line, i⟩)

/-! ### Placing the words -/

/-- The words go to the places from `i` on, as far as there are places. -/
theorem getElem?_placeArguments (line : Nat) (input : List String) :
    ∀ (i : Nat) (arguments : Arguments) (j : Nat), i ≤ ARGS_SIZE →
      (placeArguments line i input arguments).1[j]? =
        if i ≤ j ∧ j < i + input.length ∧ j < ARGS_SIZE then some (some ⟨line, j⟩)
        else arguments[j]? := by
  induction input with
  | nil =>
    intro i arguments j hi
    rw [placeArguments, if_neg (by simp only [List.length_nil]; omega)]
  | cons word input ih =>
    intro i arguments j hi
    rw [placeArguments, List.length_cons]
    by_cases hfull : i = ARGS_SIZE
    · rw [if_pos hfull, if_neg (by omega)]
    · rw [if_neg hfull, ih (i + 1) _ j (by omega), Vector.getElem?_setIfInBounds]
      by_cases hij : i = j
      · subst hij
        rw [if_neg (by omega), if_pos rfl, if_pos (by omega), if_pos (by omega)]
      · rw [if_neg hij]
        by_cases hin : i + 1 ≤ j ∧ j < i + 1 + input.length ∧ j < ARGS_SIZE
        · rw [if_pos hin, if_pos (by omega)]
        · rw [if_neg hin, if_neg (by omega)]

/-- What a line has put into the array is as much as its handler is told, unless there are too many
words. -/
theorem placed_inBounds_iff (line : Nat) (words : List String) (arguments : Arguments) :
    Dispatch.InBounds ⟨line, words, toInt32 words.length, (placeArguments line 0 words arguments).1⟩ ↔
      toInt32 words.length ≤ ARGS_SIZE := by
  refine ⟨Dispatch.InBounds.argc, fun hargc => ⟨hargc, fun i hi => ?_⟩⟩
  have hle : toInt32 words.length ≤ words.length := toInt32_le words.length
  have hlt : i < words.length ∧ i < ARGS_SIZE := by
    dsimp only at hi
    omega
  refine ⟨hlt.1, ?_⟩
  dsimp only
  rw [getElem?_placeArguments line words 0 arguments i (by omega), if_pos (by omega)]

/-! ### Running the loop -/

namespace ProgramLoop

variable {δ : Type} {handler : δ → String → Option (Handler δ)} {s : ProgramLoop δ}

/-- A call for a line of the input, made as the loop makes it. -/
def Sound (input : List String) (d : Dispatch) : Prop :=
  ∃ commandLine arguments, input[d.line]? = some commandLine ∧ d.words = splitInput commandLine ∧
    d = ⟨d.line, d.words, toInt32 d.words.length, (placeArguments d.line 0 d.words arguments).1⟩

/-- A line makes at most one call. -/
theorem turn_dispatched (handler : δ → String → Option (Handler δ)) (s : ProgramLoop δ)
    (commandLine : String) :
    (s.turn handler commandLine).1.lines = s.lines + 1 ∧
      ((s.turn handler commandLine).1.dispatched = s.dispatched ∨
        (s.turn handler commandLine).1.dispatched = s.dispatched ++
          [⟨s.lines, splitInput commandLine, toInt32 (splitInput commandLine).length,
            (placeArguments s.lines 0 (splitInput commandLine) s.arguments).1⟩]) := by
  unfold turn
  cases hsplit : splitInput commandLine with
  | nil => exact ⟨rfl, .inl rfl⟩
  | cons command rest =>
    dsimp only
    cases handler s.context command with
    | none => exact ⟨rfl, .inl rfl⟩
    | some call => exact ⟨rfl, .inr rfl⟩

/-- Every call of a run is for a line of the input. -/
theorem runProgramLoop_sound (all input : List String) :
    ∀ s : ProgramLoop δ, all.drop s.lines = input → (∀ d ∈ s.dispatched, Sound all d) →
      ∀ d ∈ (s.runProgramLoop handler input).dispatched, Sound all d := by
  induction input with
  | nil =>
    intro s _ hs d hd
    exact hs d hd
  | cons commandLine input ih =>
    intro s hdrop hs
    obtain ⟨hlines, hcalls⟩ := turn_dispatched handler s commandLine
    have hget : all[s.lines]? = some commandLine := by
      rw [← List.head?_drop, hdrop]
      rfl
    have hrest : all.drop (s.lines + 1) = input := by
      rw [← List.drop_drop, hdrop]
      rfl
    have hturn : ∀ d ∈ (s.turn handler commandLine).1.dispatched, Sound all d := by
      intro d hd
      rcases hcalls with hsame | hone
      · exact hs d (hsame ▸ hd)
      · rw [hone, List.mem_append, List.mem_singleton] at hd
        rcases hd with hd | rfl
        · exact hs d hd
        · exact ⟨commandLine, s.arguments, hget, rfl, rfl⟩
    rw [runProgramLoop]
    split
    · rename_i s' heq
      rw [heq] at hlines hturn
      exact ih s' (hlines ▸ hrest) hturn
    · rename_i s' heq
      rw [heq] at hturn
      exact hturn
    · rename_i s' thrown _ heq
      rw [heq] at hlines hturn
      split
      · exact ih _ (hlines ▸ hrest) hturn
      · exact hturn

/-- **A handler is given what its line has put into the array, and nothing else, exactly when the number
of words is at most `ARGS_SIZE` as an `int`**, whatever lines came before. -/
theorem inBounds_iff (handler : δ → String → Option (Handler δ)) (context : δ) (arguments : Arguments)
    (input : List String) {d : Dispatch}
    (hd : d ∈ (runProgramLoop handler { context, arguments } input).dispatched) :
    (∃ commandLine, input[d.line]? = some commandLine ∧ d.words = splitInput commandLine) ∧
      (d.InBounds ↔ toInt32 d.words.length ≤ ARGS_SIZE) := by
  obtain ⟨commandLine, arguments', hline, hwords, heq⟩ :=
    runProgramLoop_sound input input { context, arguments } rfl (by simp) d hd
  refine ⟨⟨commandLine, hline, hwords⟩, ?_⟩
  rw [heq]
  exact placed_inBounds_iff _ _ _

/-- A client with one command. -/
def echo : Unit → String → Option (Handler Unit)
  | _, "echo" => some fun _ _ => (none, ())
  | _, _ => none

/-- What the command is called with for a line. -/
theorem mem_dispatched_echo {commandLine : String} {rest : List String} (arguments : Arguments)
    (hsplit : splitInput commandLine = "echo" :: rest) :
    (⟨0, splitInput commandLine, toInt32 (splitInput commandLine).length,
        (placeArguments 0 0 (splitInput commandLine) arguments).1⟩ : Dispatch) ∈
      (runProgramLoop echo { context := (), arguments } [commandLine]).dispatched := by
  simp [runProgramLoop, turn, hsplit, echo]

theorem splitInput_echo : splitInput " echo b " = ["echo", "b"] := by decide +kernel

theorem inBounds_iff_echo :
    (∃ commandLine, [" echo b "][0]? = some commandLine ∧
        splitInput " echo b " = splitInput commandLine) ∧
      (Dispatch.InBounds ⟨0, splitInput " echo b ", toInt32 (splitInput " echo b ").length,
          (placeArguments 0 0 (splitInput " echo b ") (.replicate ARGS_SIZE none)).1⟩ ↔
        toInt32 (splitInput " echo b ").length ≤ ARGS_SIZE) :=
  inBounds_iff echo () (.replicate ARGS_SIZE none) [" echo b "]
    (mem_dispatched_echo (.replicate ARGS_SIZE none) splitInput_echo)

/-- A line of 101 words. -/
def longLine : String := "echo" ++ String.ofList (List.replicate 100 [' ', 'x']).flatten

theorem splitInput_longLine : splitInput longLine = "echo" :: List.replicate 100 "x" := by
  have hchars : longLine.toList =
      ['e', 'c', 'h', 'o'] ++ (List.replicate 100 [' ', 'x']).flatten := by
    rw [longLine, String.toList_append, String.toList_ofList, String.toList_ofList]
  have hwords : ((['e', 'c', 'h', 'o'] ++ (List.replicate 100 [' ', 'x']).flatten).splitOnP
      Sercli.isSpace).filter (· ≠ []) = ['e', 'c', 'h', 'o'] :: List.replicate 100 ['x'] := by
    decide +kernel
  rw [splitInput, hchars, hwords, List.map_cons, List.map_replicate]

/-- The handler is told of 101 arguments, and there are 100. -/
theorem dispatched_not_inBounds :
    ∃ d ∈ (runProgramLoop echo { context := (), arguments := .replicate ARGS_SIZE none }
        [longLine]).dispatched, d.argc = 101 ∧ d.argv[100]? = none ∧ ¬ d.InBounds := by
  have hcount : toInt32 (splitInput longLine).length = 101 := by
    rw [splitInput_longLine, toInt32_of_lt (by decide)]
    rfl
  refine ⟨_, mem_dispatched_echo _ splitInput_longLine, hcount, Vector.getElem?_eq_none (by decide), ?_⟩
  intro h
  have hargc : toInt32 (splitInput longLine).length ≤ ARGS_SIZE := h.argc
  rw [hcount] at hargc
  exact absurd hargc (by decide)

end ProgramLoop

end Sp2p.NodeClient
