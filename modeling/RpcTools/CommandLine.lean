/-
Module: RpcTools.CommandLine
Purpose: What a command line asks for.
Main exports: programName, programVersion, Shell, Inputs, Command, CommandLine
-/
namespace RpcTools

/-- The name that the program goes by. -/
def programName : String := "agent-tools"

/-- The version that the program tells. -/
def programVersion : String := "0.1.0"

/-- A shell that completion scripts are written for. -/
inductive Shell where
  | bash
  | elvish
  | fish
  | powershell
  | zsh
deriving Repr, DecidableEq

namespace Shell

def all : List Shell := [.bash, .elvish, .fish, .powershell, .zsh]

/-- The word for a shell. -/
def name : Shell → String
  | .bash => "bash"
  | .elvish => "elvish"
  | .fish => "fish"
  | .powershell => "powershell"
  | .zsh => "zsh"

/-- The shell that a word stands for. -/
def ofName? (text : String) : Option Shell :=
  all.find? (·.name == text)

theorem ofName?_name (shell : Shell) : ofName? shell.name = some shell := by
  cases shell <;> decide

end Shell

/-- What tools are made from. -/
structure Inputs where
  /-- The path of the file with the descriptors. -/
  descriptorSet : String
  /-- The path of the configuration. -/
  config : Option String
  /-- The command file, if it is designated here. -/
  commandFile : Option String
deriving Repr, DecidableEq

/-- What the program is to do. -/
inductive Command where
  /-- Write the module of the tools, to a path or to where the configuration says. -/
  | generate (inputs : Inputs) (output : Option String)
  /-- Show what would be generated. -/
  | inspect (inputs : Inputs)
  /-- Print a script with which a shell completes command lines. -/
  | completions (shell : Shell)
deriving Repr, DecidableEq

/-- A command, and how its run is told. -/
structure CommandLine where
  command : Command
  /-- Whether the log is to hold every event. -/
  verbose : Bool
  /-- The name of the format of summaries, not looked at yet. -/
  format : String
deriving Repr, DecidableEq

end RpcTools
