/-
Module: RpcTools.CommandLine.Reading
Purpose: Reading a command line.
Main exports: CommandLine.Halt, CommandLine.Reading, CommandLine.ofArguments
-/
import RpcTools.CommandLine.Argument
import RpcTools.OutputFormat
import RpcTools.Text.Segments

/-!
Words are read one by one.  `--name` is an option by its name, `-x` one by its letter,
and of letters several may share a dash.  A value follows its option as the next word,
behind an equals sign, or directly behind the letter; the next word is no value if it is
an option itself.  Behind `--` no word is an option.

A value is looked at when the next argument begins or the part ends, so an unknown
option is noticed before an unacceptable value that stands before it.
-/

namespace RpcTools.CommandLine

/-- Why a command line gives no command to run. -/
inductive Halt where
  /-- Nothing is said at all. -/
  | nothingSaid
  | verbMissing
  | verbUnknown (word : String)
  | argumentUnknown (word : String)
  | argumentMissing (argument : Argument)
  | argumentRepeated (argument : Argument)
  | valueMissing (argument : Argument)
  | valueRefused (argument : Argument) (value : String)
  /-- An argument that only can be there or not is given a value. -/
  | valueUnexpected (argument : Argument)
  | helpAsked (verb : Option Verb)
  | versionAsked
deriving Repr, DecidableEq

/-- The exit status where no command is run: help and version are answers, all else is
a refusal. -/
def Halt.exitStatus : Halt → ExitStatus
  | .helpAsked _ | .versionAsked => .success
  | .nothingSaid | .verbMissing | .verbUnknown _ | .argumentUnknown _ | .argumentMissing _
  | .argumentRepeated _ | .valueMissing _ | .valueRefused _ _ | .valueUnexpected _ =>
      .invalidInput

/-- What is known of one part of a command line while it is read. -/
structure Reading where
  /-- The arguments that are settled, in their order. -/
  settled : List (Argument × String)
  /-- An argument whose value is not looked at yet, or still to come. -/
  pending : Option (Argument × Option String)
  /-- Whether the options have ended. -/
  optionsEnded : Bool
deriving Repr, DecidableEq

namespace Reading

/-- Nothing is read yet. -/
def start : Reading := ⟨[], none, false⟩

/-- What is settled about an argument. -/
def value? (reading : Reading) (argument : Argument) : Option String :=
  (reading.settled.find? (·.1 == argument)).map (·.2)

def isSettled (reading : Reading) (argument : Argument) : Bool :=
  reading.settled.any (·.1 == argument)

/-- Whether the next word may be a value that an option waits for. -/
def awaitsValue (reading : Reading) : Bool :=
  match reading.pending with
  | some (_, none) => true
  | _ => false

/-- Whether an argument was met, settled or not. -/
def met (reading : Reading) (argument : Argument) : Bool :=
  reading.isSettled argument || reading.pending.any (·.1 == argument)

/-! ### Settling -/

/-- Settles an argument.  That there is no value is noticed first, then that the
argument is repeated, then that its value is not acceptable. -/
def settle (reading : Reading) (argument : Argument) (value : Option String) :
    Except Halt Reading :=
  match value with
  | none => .error (.valueMissing argument)
  | some text =>
      if reading.isSettled argument then .error (.argumentRepeated argument)
      else if argument.accepts text then
        .ok { reading with settled := reading.settled ++ [(argument, text)] }
      else .error (.valueRefused argument text)

/-- Settles what is pending. -/
def settlePending (reading : Reading) : Except Halt Reading :=
  match reading.pending with
  | none => .ok reading
  | some (argument, value) => { reading with pending := none }.settle argument value

/-- An argument with its value. -/
def assign (reading : Reading) (argument : Argument) (value : String) :
    Except Halt Reading := do
  (← reading.settlePending).settle argument (some value)

/-- An argument whose value comes, or is looked at, later. -/
def postpone (reading : Reading) (argument : Argument) (value : Option String) :
    Except Halt Reading := do
  let settled ← reading.settlePending
  pure { settled with pending := some (argument, value) }

/-- An argument that has no value; help and version end the reading. -/
def raise (verb : Option Verb) (reading : Reading) (argument : Argument) :
    Except Halt Reading := do
  let settled ← reading.settlePending
  match argument with
  | .help => .error (.helpAsked verb)
  | .version => .error .versionAsked
  | _ => settled.settle argument (some "")

/-! ### Words -/

/-- Reads an option by its name, whose value may stand behind an equals sign. -/
def readName (verb : Option Verb) (reading : Reading) (text : List Char) :
    Except Halt Reading :=
  let (name, value) :=
    match Text.cutFirst? '=' text with
    | some (name, value) => (String.ofList name, some (String.ofList value))
    | none => (String.ofList text, none)
  match Argument.ofName? verb name with
  | none => .error (.argumentUnknown ("--" ++ name))
  | some argument =>
      match argument.takesValue, value with
      | true, some value => reading.assign argument value
      | true, none => reading.postpone argument none
      | false, some _ => .error (.valueUnexpected argument)
      | false, none => reading.raise verb argument

/-- Reads options by their letters.  What stands behind a letter whose option takes a
value is that value, without an equals sign that it may start with. -/
def readLetters (verb : Option Verb) : Reading → List Char → Except Halt Reading
  | reading, [] => .ok reading
  | reading, letter :: rest =>
      match Argument.ofLetter? verb letter with
      | none => .error (.argumentUnknown (String.ofList ['-', letter]))
      | some argument =>
          if argument.takesValue then
            match rest with
            | [] => reading.postpone argument none
            | '=' :: value => reading.assign argument (String.ofList value)
            | value => reading.assign argument (String.ofList value)
          else
            match reading.raise verb argument with
            | .ok next => readLetters verb next rest
            | .error halt => .error halt

/-- Reads a word that is known by its place. -/
def readPlaced (verb : Option Verb) (reading : Reading) (word : String) :
    Except Halt Reading :=
  match verb, Argument.placed? verb with
  | _, some argument =>
      if reading.met argument then .error (.argumentUnknown word)
      else reading.postpone argument (some word)
  | some _, none => .error (.argumentUnknown word)
  | none, none =>
      if reading.optionsEnded && ((Verb.ofWord? word).isSome || word == helpWord) then
        .error (.argumentUnknown word)
      else .error (.verbUnknown word)

/-- Reads a word. -/
def readWord (verb : Option Verb) (reading : Reading) (word : String) :
    Except Halt Reading :=
  if reading.optionsEnded then reading.readPlaced verb word
  else
    match word.toList with
    | ['-', '-'] => .ok { reading with optionsEnded := true }
    | '-' :: '-' :: text => reading.readName verb text
    | '-' :: letter :: letters => reading.readLetters verb (letter :: letters)
    | _ =>
        match reading.pending with
        | some (argument, none) => .ok { reading with pending := some (argument, some word) }
        | _ => reading.readPlaced verb word

/-- Reads all words of a part. -/
def readWords (verb : Option Verb) (reading : Reading) (words : List String) :
    Except Halt Reading := do
  (← words.foldlM (readWord verb) reading).settlePending

/-! ### Parts -/

/-- What follows the front part. -/
inductive Continuation where
  | nothing
  | verb (verb : Verb) (words : List String)
deriving Repr, DecidableEq

/-- The answer to the help word and the words behind it. -/
def helpAbout : List String → Halt
  | [] => .helpAsked none
  | [word] =>
      match Verb.ofWord? word with
      | some verb => .helpAsked (some verb)
      | none => if word == helpWord then .helpAsked none else .verbUnknown word
  | word :: next :: _ =>
      if (Verb.ofWord? word).isSome || word == helpWord then .verbUnknown next
      else .verbUnknown word

/-- Reads the front part, up to the verb. -/
def readFront : Reading → List String → Except Halt (Reading × Continuation)
  | reading, [] => .ok (reading, .nothing)
  | reading, word :: rest =>
      if reading.optionsEnded || reading.awaitsValue then
        match reading.readWord none word with
        | .ok next => readFront next rest
        | .error halt => .error halt
      else
        match Verb.ofWord? word with
        | some verb => .ok (reading, .verb verb rest)
        | none =>
            if word == helpWord then .error (helpAbout rest)
            else
              match reading.readWord none word with
              | .ok next => readFront next rest
              | .error halt => .error halt

/-! ### Commands -/

/-- The part with the configuration that the surroundings designate, where the part
itself designates none. -/
def withDesignatedConfig (verb : Verb) (reading : Reading) (path : Option String) :
    Except Halt Reading :=
  match path with
  | none => .ok reading
  | some text =>
      if (Argument.available (some verb)).contains .config && !reading.isSettled .config then
        reading.settle .config (some text)
      else .ok reading

/-- What a part says about the inputs. -/
def inputs (reading : Reading) : Except Halt Inputs :=
  match reading.value? .descriptorSet with
  | none => .error (.argumentMissing .descriptorSet)
  | some descriptorSet =>
      .ok
        { descriptorSet
          config := reading.value? .config
          commandFile := reading.value? .commandFile }

/-- The command that a verb and what follows it give. -/
def command (reading : Reading) : Verb → Except Halt Command
  | .generate => do return .generate (← reading.inputs) (reading.value? .output)
  | .inspect => do return .inspect (← reading.inputs)
  | .completions =>
      match (reading.value? .shell).bind Shell.ofName? with
      | none => .error (.argumentMissing .shell)
      | some shell => .ok (.completions shell)

end Reading

/-- The command line that words spell, with the path of a configuration that the
surroundings designate.  Of what both parts may say, the part behind the verb counts
first. -/
def ofArguments (designatedConfig : Option String) (words : List String) :
    Except Halt CommandLine := do
  match ← Reading.readFront .start words with
  | (front, .nothing) =>
      let front ← front.settlePending
      .error (if front.settled.isEmpty then .nothingSaid else .verbMissing)
  | (front, .verb verb rest) =>
      let back ← Reading.start.readWords (some verb) rest
      let command ← (← back.withDesignatedConfig verb designatedConfig).command verb
      let front ← front.settlePending
      .ok
        { command
          verbose := back.isSettled .verbose || front.isSettled .verbose
          format :=
            ((back.value? .format).or (front.value? .format)).getD
              (default : OutputFormat).name }

end RpcTools.CommandLine
