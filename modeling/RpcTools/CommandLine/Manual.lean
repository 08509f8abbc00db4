/-
Module: RpcTools.CommandLine.Manual
Purpose: What the program tells about its command line, to readers and to shells.
Main exports: CommandLine.help, CommandLine.completionScript
-/
import RpcTools.CommandLine.Argument
import RpcTools.Text.Segments

/-!
Both are written from the tables of verbs and arguments, so they name every verb and
every option by its name.
-/

namespace RpcTools.CommandLine

/-- Lines with their ends. -/
def textOfLines (lines : List String) : String :=
  String.join (lines.map (· ++ "\n"))

/-! ### Options -/

/-- The words by which an option is known, the letter first. -/
def Argument.spellings (argument : Argument) : List String :=
  (argument.letter?.map fun letter => String.ofList ['-', letter]).toList ++
    (argument.name?.map ("--" ++ ·)).toList

/-- The words that may stand behind a verb, or before any. -/
def wordsAt (verb : Option Verb) : List String :=
  let options := (Argument.available verb).flatMap Argument.spellings
  match verb with
  | none => Verb.all.map (·.word) ++ [helpWord] ++ options
  | some .completions => Shell.all.map (·.name) ++ options
  | some _ => options

/-! ### Help -/

/-- A line about an argument. -/
def Argument.helpLine (argument : Argument) : String :=
  let spelling :=
    match argument.name? with
    | none => "<SHELL>"
    | some name =>
        Text.joinWith ", " argument.spellings ++
          (if argument.takesValue then " <" ++ name.map Char.toUpper ++ ">" else "")
  "  " ++ spelling ++ "  " ++ argument.about

/-- What is said when help is asked for. -/
def help : Option Verb → String
  | none =>
      textOfLines
        (["Generate agent tool descriptors from protobuf service definitions", "",
          "Usage: " ++ programName ++ " [OPTIONS] <COMMAND>", "", "Commands:"] ++
          Verb.all.map (fun verb => "  " ++ verb.word ++ "  " ++ verb.about) ++
          ["  " ++ helpWord ++ "  Print help about a command", "", "Options:"] ++
          (Argument.available none).map Argument.helpLine)
  | some verb =>
      textOfLines
        ([verb.about, "", "Usage: " ++ programName ++ " " ++ verb.word ++ " [OPTIONS]", "",
          "Options:"] ++
          (Argument.available (some verb)).map Argument.helpLine)

/-! ### Scripts -/

/-- A word in single quotes. -/
def quoted (word : String) : String :=
  "'" ++ word ++ "'"

/-- Lines of a case distinction by verb, each with the words that may follow. -/
def caseLines (line : String → String → String) : List String :=
  Verb.all.map fun verb => line verb.word (Text.joinWith " " (wordsAt (some verb)))

/-- The words that may stand first. -/
def firstWords : String :=
  Text.joinWith " " (wordsAt none)

def bashScript : List String :=
  ["_" ++ programName ++ "() \x7b", "    local words", "    case \"$\x7bCOMP_WORDS[1]\x7d\" in"] ++
    caseLines (fun verb words => "        " ++ verb ++ ") words=\"" ++ words ++ "\" ;;") ++
    ["        *) words=\"" ++ firstWords ++ "\" ;;", "    esac",
     "    COMPREPLY=($(compgen -W \"$words\" -- \"$\x7bCOMP_WORDS[COMP_CWORD]\x7d\"))", "\x7d",
     "complete -F _" ++ programName ++ " -o bashdefault -o default " ++ programName]

def zshScript : List String :=
  ["#compdef " ++ programName, "_" ++ programName ++ "() \x7b", "  case \"$words[2]\" in"] ++
    caseLines (fun verb words => "    " ++ verb ++ ") compadd -- " ++ words ++ "; _files ;;") ++
    ["    *) compadd -- " ++ firstWords ++ " ;;", "  esac", "\x7d",
     "compdef _" ++ programName ++ " " ++ programName]

/-- A line of the fish script for one option. -/
def fishOption (condition : String) (argument : Argument) : List String :=
  argument.name?.toList.map fun name =>
    "complete -c " ++ programName ++ " -n " ++ quoted condition ++ " -l " ++ name ++
      String.join (argument.letter?.toList.map fun letter => " -s " ++ letter.toString) ++
      (if argument.takesValue then " -r" else "") ++ " -d " ++ quoted argument.about

def fishScript : List String :=
  (Argument.available none).flatMap (fishOption "__fish_use_subcommand") ++
    Verb.all.flatMap (fun verb =>
      ("complete -c " ++ programName ++ " -n __fish_use_subcommand -f -a " ++ verb.word ++
        " -d " ++ quoted verb.about) ::
        (Argument.available (some verb)).flatMap
          (fishOption ("__fish_seen_subcommand_from " ++ verb.word))) ++
    ["complete -c " ++ programName ++ " -n " ++
      quoted ("__fish_seen_subcommand_from " ++ Verb.completions.word) ++ " -f -a " ++
      quoted (Text.joinWith " " (Shell.all.map (·.name)))]

/-- Words in single quotes with commas between them. -/
def quotedWords (verb : Option Verb) : String :=
  Text.joinWith ", " ((wordsAt verb).map quoted)

def powershellScript : List String :=
  ["Register-ArgumentCompleter -Native -CommandName " ++ quoted programName ++
     " -ScriptBlock \x7b",
   "    param($wordToComplete, $commandAst, $cursorPosition)",
   "    $words = switch (\"$($commandAst.CommandElements[1])\") \x7b"] ++
    Verb.all.map (fun verb =>
      "        " ++ quoted verb.word ++ " \x7b " ++ quotedWords (some verb) ++ " \x7d") ++
    ["        default \x7b " ++ quotedWords none ++ " \x7d", "    \x7d",
     "    $words | Where-Object \x7b $_ -like \"$wordToComplete*\" \x7d", "\x7d"]

def elvishScript : List String :=
  ["set edit:completion:arg-completer[" ++ programName ++ "] = \x7b|@words|",
   "    var verb = $words[1]"] ++
    Verb.all.map (fun verb =>
      "    if (eq $verb " ++ verb.word ++ ") \x7b put " ++
        Text.joinWith " " ((wordsAt (some verb)).map quoted) ++ " \x7d") ++
    ["    if (== (count $words) 2) \x7b put " ++
      Text.joinWith " " ((wordsAt none).map quoted) ++ " \x7d", "\x7d"]

/-- The script with which a shell completes command lines. -/
def completionScript : Shell → String
  | .bash => textOfLines bashScript
  | .elvish => textOfLines elvishScript
  | .fish => textOfLines fishScript
  | .powershell => textOfLines powershellScript
  | .zsh => textOfLines zshScript

end RpcTools.CommandLine
