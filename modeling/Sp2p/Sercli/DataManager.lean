import Mathlib.Data.List.Basic
import Mathlib.Logic.Function.Basic
import Mathlib.Tactic.Common

/-!
# The data manager of a manager

Data managers are objects of one of two classes, and a `Manager` has a C++ reference to one of them,
here its address. `getSink` and `getSource` are virtual. A reference cannot be bound again, so the
assignment of `setDataManager` is `DataManager::operator=` of the object the manager was constructed
over: it copies the members of `DataManager`, which is the file name, and leaves the class of the
object and its password as they are.
-/

namespace Sp2p.Sercli

/-- The class of an object, with the members that the class adds to those of `DataManager`. -/
inductive DataClass
  | DataManager
  | CryptDataManager (password : String)
  deriving DecidableEq

@[ext]
structure DataManager where
  dataClass : DataClass
  dataFile : String := ""
  deriving DecidableEq

inductive Sink
  | BasicSink (dataFile : String)
  | EncryptedSink (dataFile : String) (password : String)
  deriving DecidableEq

inductive Source
  | BasicSource (dataFile : String)
  | EncryptedSource (dataFile : String) (password : String)
  deriving DecidableEq

namespace DataManager

def setDataFile (d : DataManager) (dataFile : String) : DataManager :=
  { d with dataFile }

/-- Only a `CryptDataManager` has this function. -/
def setPassword (d : DataManager) (password : String) : DataManager :=
  match d.dataClass with
  | .DataManager => d
  | .CryptDataManager _ => { d with dataClass := .CryptDataManager password }

/-- What `getSink` and `getSource` have in common. The text is that of the `DataException`. -/
def stream {α : Type*} (basic : String → α) (encrypted : String → String → α) (d : DataManager) :
    Except String α :=
  if d.dataFile.length = 0 then .error "no file given"
  else match d.dataClass with
    | .DataManager => .ok (basic d.dataFile)
    | .CryptDataManager password => .ok (encrypted d.dataFile password)

def getSink : DataManager → Except String Sink := stream .BasicSink .EncryptedSink

def getSource : DataManager → Except String Source := stream .BasicSource .EncryptedSource

/-- `DataManager::operator=`, which is not virtual. -/
def assign (d other : DataManager) : DataManager := { d with dataFile := other.dataFile }

variable {d d' : DataManager}

/-- What is opened shows all of the data manager that opened it. -/
theorem stream_eq_iff {α : Type*} {basic : String → α} {encrypted : String → String → α}
    (hbasic : Function.Injective basic) (hencrypted : Function.Injective2 encrypted)
    (hne : ∀ f f' password, basic f ≠ encrypted f' password) :
    stream basic encrypted d = stream basic encrypted d' ↔
      d.dataFile.length = 0 ∧ d'.dataFile.length = 0 ∨ d = d' := by
  obtain ⟨c, f⟩ := d
  obtain ⟨c', f'⟩ := d'
  constructor
  · intro heq
    by_cases h : f.length = 0
    · by_cases h' : f'.length = 0
      · exact .inl ⟨h, h'⟩
      · cases c' <;> simp [stream, h, h'] at heq
    · by_cases h' : f'.length = 0
      · cases c <;> simp [stream, h, h'] at heq
      · right
        cases c <;> cases c' <;> simp only [stream, h, h', if_false, Except.ok.injEq] at heq
        · rw [hbasic heq]
        · exact absurd heq (hne _ _ _)
        · exact absurd heq.symm (hne _ _ _)
        · obtain ⟨rfl, rfl⟩ := hencrypted heq
          rfl
  · rintro (⟨h, h'⟩ | h)
    · rw [stream, stream, if_pos h, if_pos h']
    · rw [h]

theorem getSink_eq_iff :
    d.getSink = d'.getSink ↔ d.dataFile.length = 0 ∧ d'.dataFile.length = 0 ∨ d = d' := by
  apply stream_eq_iff
  · intro f f' h
    exact Sink.BasicSink.inj h
  · intro f f' password password' h
    exact Sink.EncryptedSink.inj h
  · intro f f' password h
    cases h

theorem getSource_eq_iff :
    d.getSource = d'.getSource ↔ d.dataFile.length = 0 ∧ d'.dataFile.length = 0 ∨ d = d' := by
  apply stream_eq_iff
  · intro f f' h
    exact Source.BasicSource.inj h
  · intro f f' password password' h
    exact Source.EncryptedSource.inj h
  · intro f f' password h
    cases h

end DataManager

abbrev DataPtr := Nat

/-- The data managers of a program, and the one that the manager refers to. -/
structure DataWorld where
  objects : DataPtr → DataManager
  dataManager : DataPtr

/-- What a program does with the manager and the data managers until the next `setDataManager`. A
file name given to `saveState` or `loadState` is set in the data manager first. -/
inductive DataCall
  | saveState (destFile : Option String)
  | loadState (sourceFile : Option String)
  | setDataFile (d : DataPtr) (dataFile : String)
  | setPassword (d : DataPtr) (password : String)

/-- What a call opens, or the exception it throws instead. -/
inductive Opened
  | sink (sink : Except String Sink)
  | source (source : Except String Source)

/-- What the call opens with a data manager. -/
def DataCall.opens (d : DataManager) : DataCall → Option Opened
  | saveState _ => some (.sink d.getSink)
  | loadState _ => some (.source d.getSource)
  | setDataFile _ _ | setPassword _ _ => none

/-- What a save or a load opens shows the data manager, unless there is no file. -/
theorem DataCall.opens_eq_iff {c : DataCall} {d d' : DataManager}
    (hc : c = .saveState none ∨ c = .loadState none) :
    c.opens d = c.opens d' ↔ d.dataFile.length = 0 ∧ d'.dataFile.length = 0 ∨ d = d' := by
  rcases hc with rfl | rfl
  · rw [opens, opens, Option.some_inj, Opened.sink.injEq, DataManager.getSink_eq_iff]
  · rw [opens, opens, Option.some_inj, Opened.source.injEq, DataManager.getSource_eq_iff]

namespace DataWorld

def modify (w : DataWorld) (d : DataPtr) (f : DataManager → DataManager) : DataWorld :=
  { w with objects := Function.update w.objects d (f (w.objects d)) }

def setDataManager (w : DataWorld) (d : DataPtr) : DataWorld :=
  w.modify w.dataManager (·.assign (w.objects d))

/-- The data managers after a call. -/
def call (w : DataWorld) : DataCall → DataWorld
  | .saveState file | .loadState file =>
    file.elim w fun file => w.modify w.dataManager (·.setDataFile file)
  | .setDataFile d file => w.modify d (·.setDataFile file)
  | .setPassword d password => w.modify d (·.setPassword password)

/-- Every call of the run that saves or loads opens what `d` gives at that time. -/
def Follows (d : DataPtr) (w : DataWorld) : List DataCall → Prop
  | [] => True
  | c :: cs =>
    c.opens ((w.call c).objects w.dataManager) = c.opens ((w.call c).objects d) ∧
      Follows d (w.call c) cs

variable {w : DataWorld} {d : DataPtr}

theorem objects_modify_self (f : DataManager → DataManager) :
    (w.modify d f).objects d = f (w.objects d) :=
  Function.update_self _ _ _

theorem objects_modify {d' : DataPtr} (f : DataManager → DataManager) (h : d' ≠ d) :
    (w.modify d f).objects d' = w.objects d' :=
  Function.update_of_ne h _ _

/-- The manager refers to the data manager it was constructed over. -/
theorem dataManager_call (c : DataCall) : (w.call c).dataManager = w.dataManager := by
  cases c with
  | saveState file => cases file <;> rfl
  | loadState file => cases file <;> rfl
  | setDataFile d file => rfl
  | setPassword d password => rfl

theorem follows_self (cs : List DataCall) :
    ∀ w : DataWorld, w.Follows w.dataManager cs := by
  induction cs with
  | nil =>
    intro w
    trivial
  | cons c cs ih =>
    intro w
    refine ⟨rfl, ?_⟩
    have hrest := ih (w.call c)
    rwa [dataManager_call] at hrest

/-- Right after the call the manager's data manager has the file of `d` and is of its own class. -/
theorem objects_setDataManager_self :
    (w.setDataManager d).objects w.dataManager =
      ⟨(w.objects w.dataManager).dataClass, (w.objects d).dataFile⟩ :=
  objects_modify_self _

theorem objects_setDataManager : (w.setDataManager d).objects d = w.objects d := by
  by_cases h : d = w.dataManager
  · subst h
    exact objects_setDataManager_self
  · exact objects_modify _ h

/-- The next call that names no file. -/
theorem follows_next_iff {c : DataCall} (hc : c = .saveState none ∨ c = .loadState none) :
    (w.setDataManager d).Follows d [c] ↔
      (w.objects d).dataFile.length = 0 ∨
        (w.objects w.dataManager).dataClass = (w.objects d).dataClass := by
  have hcall : (w.setDataManager d).call c = w.setDataManager d := by
    rcases hc with rfl | rfl <;> rfl
  rw [Follows, hcall, objects_setDataManager, show (w.setDataManager d).dataManager =
    w.dataManager from rfl, objects_setDataManager_self, DataCall.opens_eq_iff hc,
    DataManager.ext_iff]
  simp only [Follows, and_self, and_true]

/-- Another object that is given a file of its own is not followed. -/
theorem exists_not_follows (h : w.dataManager ≠ d) :
    ∃ cs, ¬ (w.setDataManager d).Follows d cs := by
  let file := (w.objects d).dataFile ++ "x"
  let w' := (w.setDataManager d).call (.setDataFile d file)
  refine ⟨[.setDataFile d file, .saveState none], ?_⟩
  rintro ⟨-, hsave, -⟩
  have hown : (w'.objects w.dataManager).dataFile = (w.objects d).dataFile := by
    rw [show w'.objects w.dataManager = (w.setDataManager d).objects w.dataManager from
      objects_modify (·.setDataFile file) h, objects_setDataManager_self]
  have hother : (w'.objects d).dataFile = file := by
    rw [show w'.objects d = ((w.setDataManager d).objects d).setDataFile file from
      objects_modify_self (·.setDataFile file)]
    rfl
  have hlen : file.length = (w.objects d).dataFile.length + 1 :=
    String.length_append _ _
  rcases (DataCall.opens_eq_iff (.inl rfl)).1 hsave with ⟨-, hempty⟩ | heq
  · rw [show ((w'.call (.saveState none)).objects d).dataFile = file from hother] at hempty
    omega
  · have hfile : (w.objects d).dataFile = file :=
      hown.symm.trans ((congrArg DataManager.dataFile heq).trans hother)
    have := congrArg String.length hfile
    omega

/-- `setDataManager` does what its name says when the manager is given the data manager it has. Of
another one it takes the file at most: whether the next save is made in its way depends on the class
and password of the old one, and the old one has lost its own file. -/
theorem setDataManager_iff (w : DataWorld) (d : DataPtr) :
    ((w.setDataManager d).objects w.dataManager = w.objects w.dataManager ∧
        (∀ cs, (w.setDataManager d).Follows d cs) ↔ w.dataManager = d) ∧
      ((w.setDataManager d).objects w.dataManager = w.objects w.dataManager ↔
        (w.objects d).dataFile = (w.objects w.dataManager).dataFile) ∧
      ∀ c, c = .saveState none ∨ c = .loadState none →
        ((w.setDataManager d).Follows d [c] ↔ (w.objects d).dataFile.length = 0 ∨
          (w.objects w.dataManager).dataClass = (w.objects d).dataClass) := by
  refine ⟨⟨?_, ?_⟩, ?_, ?_⟩
  · rintro ⟨-, hfollows⟩
    by_contra hne
    obtain ⟨cs, hcs⟩ := exists_not_follows hne
    exact hcs (hfollows cs)
  · rintro rfl
    refine ⟨objects_setDataManager, fun cs => ?_⟩
    exact follows_self cs (w.setDataManager w.dataManager)
  · rw [objects_setDataManager_self, DataManager.ext_iff]
    simp only [true_and]
  · intro c hc
    exact follows_next_iff hc

/-- A plain data manager is replaced by an encrypting one: the next save writes plain text to the
file of the new one. -/
theorem setDataManager_plainText :
    ¬ ∀ (w : DataWorld) (d : DataPtr),
      (w.setDataManager d).objects w.dataManager = w.objects w.dataManager ∧
        ∀ cs, (w.setDataManager d).Follows d cs := by
  intro h
  let w : DataWorld := {
    objects := fun d => if d = 0 then ⟨.DataManager, "plain"⟩
      else ⟨.CryptDataManager "secret", "encrypted"⟩
    dataManager := 0 }
  obtain ⟨hsave, -⟩ := (h w 1).2 [.saveState none]
  have hplain : ((w.setDataManager 1).objects 0).getSink = .ok (.BasicSink "encrypted") := by
    decide +kernel
  have hcrypt : ((w.setDataManager 1).objects 1).getSink =
      .ok (.EncryptedSink "encrypted" "secret") := by
    decide +kernel
  have hsink := Opened.sink.inj (Option.some_inj.1 hsave)
  rw [show (((w.setDataManager 1).call (.saveState none)).objects 1) =
    (w.setDataManager 1).objects 1 from rfl, hcrypt] at hsink
  cases hplain.symm.trans hsink

end DataWorld

end Sp2p.Sercli
