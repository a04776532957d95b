import CrossAudit.Assoc
import CrossAudit.Fault
import CrossAudit.Number.Binary64
import CrossAudit.Text.Search

/-!
# The machine

What a launcher can observe of the machine it runs on: which executables are found, what they
answer when they are asked for their version, and how the processes that are started behave.  What
the launcher does to the machine is a list of events.
-/

namespace CrossAudit

/-- An error of the operating system. -/
structure SystemError where
  number : Int
  text : String
  deriving Repr, DecidableEq, Inhabited

namespace SystemError

/-- The wording of a system error. -/
def message (e : SystemError) : String :=
  s!"[Errno {e.number}] {e.text}"

/-- Nothing stands at a path. -/
def noSuchFile : SystemError :=
  ⟨2, "No such file or directory"⟩

/-- The numbers of errors that may go away by themselves: no process, no memory, too many open
files in a process or on the machine, and an executable that is being written. -/
def transientNumbers : List Int := [11, 12, 24, 23, 26]

/-- Whether it is worth trying again. -/
def isTransient (e : SystemError) : Bool :=
  transientNumbers.contains e.number

end SystemError

/-- What comes of asking an executable for its version: it tells something and ends, exceeds its
time, or cannot be run; or the asking breaks off, as it does if what is told is no text. -/
inductive ProbeAnswer where
  | tells (output errors : String) (code : Int)
  | silent
  | fails (error : SystemError)
  | breaksOff (fault : Fault)
  deriving Repr, DecidableEq, Inhabited

/-- How a process behaves: what it prints and how it ends, whether it exceeds its time, and what
happens meanwhile.  With `trouble`, waiting for its output breaks off, as it does if the output is
no text or the time is too long to wait. -/
structure Behaviour where
  output : String := ""
  errors : String := ""
  code : Int := 0
  timesOut : Bool := false
  trouble : Option Fault := none
  cancels : Bool := false
  killsAll : Bool := false
  killError : Option SystemError := none
  deriving Repr, DecidableEq, Inhabited

/-- What comes of the next start of a process: the system refuses it, something else is wrong with
the command, or a process runs. -/
inductive Start where
  | refused (error : SystemError)
  | brokenOff (fault : Fault)
  | running (behaviour : Behaviour)
  deriving Repr, DecidableEq, Inhabited

/-- A machine.  The home directory of a user stands under the user's name, and that of whoever runs
the program under the empty one.  On a simulated machine nothing is run, and every command is taken
as it is. -/
structure Machine where
  found : List (String × String) := []
  links : List (String × String) := []
  executables : List String := []
  answers : List String → ProbeAnswer := fun _ => .fails .noSuchFile
  starts : List Start := []
  homes : List (String × String) := []
  parserVersion : Option String := none
  simulated : Bool := false
  deriving Inhabited

namespace Machine

/-- The path at the end of links. -/
def resolve (m : Machine) (path : String) : String :=
  (m.links.lookup path).getD path

/-- Whether a text holds a null character, which neither a command nor a name of a user may hold. -/
def holdsNull (s : String) : Bool :=
  s.toList.contains '\x00'

/-- The answer to a command. -/
def answerOf (m : Machine) (command : List String) : ProbeAnswer :=
  if !m.simulated && command.any holdsNull then .breaksOff .nullByte else m.answers command

/-- The home directory of a user; it may not be the name of yet another one. -/
def homeOf (m : Machine) (user : String) : Except Fault String :=
  if holdsNull user then .error .nullByte
  else
    match m.homes.lookup user with
    | none => .error .homeless
    | some home => if Text.startsWith home "~" then .error .homeless else .ok home

/-- Starts the next process. -/
def next (m : Machine) : Start × Machine :=
  match m.starts with
  | [] => (.refused .noSuchFile, m)
  | s :: rest => (s, { m with starts := rest })

end Machine

/-- What a launcher does. -/
inductive Event where
  | probe (command : List String) (timeout : Binary64)
  | spawn (command : List String)
  | request (text : String) (timeout : Binary64)
  | kill
  | killAll (count : Nat)
  | pause
  deriving Repr, DecidableEq, Inhabited

end CrossAudit
