/-
Module: RpcTools.CommandLine.Argument
Purpose: What may stand on a command line, and where.
Main exports: CommandLine.Verb, CommandLine.Argument, CommandLine.Argument.available
-/
import RpcTools.CommandLine

/-!
A command line has two parts: what stands before the verb, and what stands behind it.
In each part other arguments are known.  Of the arguments known in both, each part has
its own.
-/

namespace RpcTools.CommandLine

/-- The word that says which command is meant. -/
inductive Verb where
  | generate
  | inspect
  | completions
deriving Repr, DecidableEq

namespace Verb

def all : List Verb := [.generate, .inspect, .completions]

def word : Verb → String
  | .generate => "generate"
  | .inspect => "inspect"
  | .completions => "completions"

/-- The verb that a word is. -/
def ofWord? (text : String) : Option Verb :=
  all.find? (·.word == text)

/-- What a verb is about, in a few words. -/
def about : Verb → String
  | .generate => "Generate the agent tools module"
  | .inspect => "List what generation would do without writing anything"
  | .completions => "Generate shell completion scripts"

theorem ofWord?_word (verb : Verb) : ofWord? verb.word = some verb := by
  cases verb <;> decide

end Verb

/-- The word that asks for help about a verb. -/
def helpWord : String := "help"

/-- What may be said on a command line, the verb apart. -/
inductive Argument where
  | descriptorSet
  | output
  | config
  | commandFile
  | shell
  | verbose
  | format
  | help
  | version
deriving Repr, DecidableEq

namespace Argument

/-- The name of an option; what has no name is known by its place. -/
def name? : Argument → Option String
  | .descriptorSet => some "descriptor-set"
  | .output => some "output"
  | .config => some "config"
  | .commandFile => some "command-file"
  | .shell => none
  | .verbose => some "verbose"
  | .format => some "format"
  | .help => some "help"
  | .version => some "version"

/-- The letter that may stand for an option. -/
def letter? : Argument → Option Char
  | .descriptorSet => some 'd'
  | .output => some 'o'
  | .config => some 'c'
  | .verbose => some 'v'
  | .help => some 'h'
  | .version => some 'V'
  | .commandFile | .shell | .format => none

/-- Whether something is said about an argument, or only that it is there. -/
def takesValue : Argument → Bool
  | .verbose | .help | .version => false
  | .descriptorSet | .output | .config | .commandFile | .shell | .format => true

/-- Whether a value may be said: no path is empty, and scripts are written for some
shells only. -/
def accepts (argument : Argument) (value : String) : Bool :=
  match argument with
  | .descriptorSet | .output | .config => !value.isEmpty
  | .shell => (Shell.ofName? value).isSome
  | .commandFile | .format | .verbose | .help | .version => true

/-- What an argument is about, in a few words. -/
def about : Argument → String
  | .descriptorSet => "Serialized set of file descriptors"
  | .output => "Output file or directory; `-` prints the module"
  | .config => "Generator config file (TOML)"
  | .commandFile => "Designated command file, as named inside the descriptor set"
  | .shell => "Shell to generate completions for"
  | .verbose => "Enable verbose logging (debug level)"
  | .format => "Output format for summaries (json, text, pretty)"
  | .help => "Print help"
  | .version => "Print version"

/-- The arguments known behind a verb, or before any. -/
def available : Option Verb → List Argument
  | none => [.verbose, .format, .help, .version]
  | some .generate =>
      [.descriptorSet, .output, .config, .commandFile, .verbose, .format, .help]
  | some .inspect => [.descriptorSet, .config, .commandFile, .verbose, .format, .help]
  | some .completions => [.shell, .verbose, .format, .help]

/-- The option with a name. -/
def ofName? (verb : Option Verb) (name : String) : Option Argument :=
  (available verb).find? (·.name? == some name)

/-- The option with a letter. -/
def ofLetter? (verb : Option Verb) (letter : Char) : Option Argument :=
  (available verb).find? (·.letter? == some letter)

/-- The argument that is known by its place. -/
def placed? (verb : Option Verb) : Option Argument :=
  (available verb).find? (·.name?.isNone)

end Argument

end RpcTools.CommandLine
