import BoardConsole.Shell.Evaluate
import BoardConsole.Shell.Utility

/-!
# Shell — Running a command line

Runs a command line on the files of a volume. The shell reads nothing and its messages go nowhere;
what it prints is kept. It ends with the status of its last command, unless `exit` ends it earlier
or a signal does.
-/

namespace BoardConsole.Shell

/-- What a command line leaves behind. -/
structure Result where
  /-- The exit status; nothing where a signal ended the shell. -/
  status? : Option Nat
  output  : List UInt8
  volume  : Volume

/-- How deep commands are run inside commands. -/
def greatestDepth : Nat := 12000

/-- The number of the process that runs a command line. -/
def firstNumber : Nat := 4200

/-- The descriptions at the beginning: an empty input, the output, and one for messages. -/
def firstDescriptions : Array Description :=
  #[⟨.null, 0, false, true, false⟩, ⟨.outside, 0, false, false, true⟩,
    ⟨.null, 0, false, false, true⟩]

/-- How much is taken at first from what has no end: as much as a pipe holds. -/
def firstReach : Nat := 65536

/-- The world at the beginning. -/
def World.ofVolume (volume : Volume) : World where
  volume       := volume
  unsaved      := none
  descriptions := firstDescriptions
  pipes        := #[]
  named        := []
  reach        := firstReach
  documents    := #[]
  nextNumber   := firstNumber + 1
  alive        := [1, firstNumber - 1, firstNumber]
  signals      := []
  deferred     := []
  ended        := []
  unrun        := none
  time         := 0
  output       := #[]

/-- The variables that are passed to the shell. -/
def passedVariables (directory : String) : List (String × Variable) :=
  [("HOME", "/root"),
   ("PATH", "/usr/local/sbin:/usr/local/bin:/usr/sbin:/usr/bin:/sbin:/bin"),
   ("PWD", directory)].map fun (name, value) => (name, ⟨some value, true, false⟩)

/-- The process that runs a command line. -/
def Process.first (directory : String) : Process where
  number         := firstNumber
  shell          := firstNumber
  starter        := firstNumber - 1
  name           := "sh"
  arguments      := []
  store          := Program.standing (firstNumber - 1) ++ passedVariables directory
  functions      := []
  aliases        := []
  options        := []
  status         := 0
  taken          := 0
  lastBackground := none
  jobs           := []
  traps          := []
  descriptors    := [(0, 0), (1, 1), (2, 2)]
  directory      := []
  directoryName  := directory
  mask           := 0o022
  loops          := 0
  calls          := []
  optionIndex    := 1
  lettersRead    := 0
  line           := 1
  builtin        := none
  printed        := []
  unprinted      := false
  interrupted    := none

/-- The state at the beginning. -/
def State.first (volume : Volume) : State :=
  ⟨.ofVolume volume, .first (ofWorld (Volume.nameOf volume.base))⟩

/-- What the first process does with a command line, which follows the option that announces it. One
that looks like further options is taken for these, so that the shell is left without a command. -/
def obey (r : Runner) (text : String) : Act Unit := do
  match (Program.order (← Act.process).name ["-c", text]).task with
  | .nothing message => Act.setStatus (← Program.refuse message Act.faulty)
  | _                => r.script false text

/-- Runs a command line to its end, and then what it left in the background. -/
def whole (text : String) : Act (Option Nat) := do
  let r := Evaluate.runner Utility.all greatestDepth
  let ending ← Act.conclude r (obey r text)
  Act.settle r
  Act.save
  match ending with
  | .exited status => return some status
  | .killed _      => return none

/-- Runs a command line on the files of a volume. -/
def run (volume : Volume) (text : String) : Result :=
  match (whole (ofWorld text)).run (.first volume) with
  | .ok status s => ⟨status, s.world.output.toList, s.world.volume⟩
  | .error _ s   => ⟨none, s.world.output.toList, s.world.volume⟩

end BoardConsole.Shell
