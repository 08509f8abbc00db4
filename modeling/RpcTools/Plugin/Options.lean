/-
Module: RpcTools.Plugin.Options
Purpose: What a compiler's parameter text tells the plugin.
Main exports: OptionKey, PluginOptions, PluginOptions.entries, PluginOptions.add,
  PluginOptions.ofParameter
-/
import RpcTools.Error
import RpcTools.Text.Blank

/-!
A parameter is a list of entries `key=value` with commas between them.  White space
around entries, keys and values does not count, and neither do empty entries.  The
first entry that is refused decides the error; of one entry, a blank value is noticed
before an unknown key, and an unknown key before a repeated one.
-/

namespace RpcTools

/-- What an entry of a parameter can be about. -/
inductive OptionKey where
  | config
  | commandFile
  | outputFile
deriving Repr, DecidableEq

namespace OptionKey

def all : List OptionKey := [.config, .commandFile, .outputFile]

/-- The word for a key. -/
def word : OptionKey → String
  | .config => "config"
  | .commandFile => "command_file"
  | .outputFile => "output"

/-- The key that a word stands for. -/
def ofWord? (text : String) : Option OptionKey :=
  all.find? (·.word == text)

theorem ofWord?_word (key : OptionKey) : ofWord? key.word = some key := by
  cases key <;> decide

theorem word_of_ofWord? {text : String} {key : OptionKey} (found : ofWord? text = some key) :
    key.word = text := by
  simpa using List.find?_some found

end OptionKey

/-- What a parameter says. -/
structure PluginOptions where
  /-- The path of a configuration. -/
  config : Option String
  /-- The path of the designated command file. -/
  commandFile : Option String
  /-- The path of the module. -/
  outputFile : Option String
deriving Repr, DecidableEq

namespace PluginOptions

/-- The options of a parameter that says nothing. -/
def empty : PluginOptions := ⟨none, none, none⟩

/-- What is said about a key. -/
def get? (options : PluginOptions) : OptionKey → Option String
  | .config => options.config
  | .commandFile => options.commandFile
  | .outputFile => options.outputFile

/-- The options that say a value about a key, and all else as before. -/
def set (options : PluginOptions) (key : OptionKey) (value : String) : PluginOptions :=
  match key with
  | .config => { options with config := some value }
  | .commandFile => { options with commandFile := some value }
  | .outputFile => { options with outputFile := some value }

/-- The entries of a parameter, without white space around them and without empty
ones. -/
def entries (parameter : String) : List String :=
  ((Text.split ',' parameter).map Text.trim).filter fun entry => !entry.isEmpty

/-- The trimmed texts before and after the first equals sign. -/
def assignment? (entry : String) : Option (String × String) :=
  (Text.cutFirst? '=' entry.toList).map fun (before, after) =>
    (Text.trim (String.ofList before), Text.trim (String.ofList after))

/-- The options with what one more entry says. -/
def add (options : PluginOptions) (entry : String) : Except ArgumentFault PluginOptions :=
  match assignment? entry with
  | none => .error (.optionWithoutValue entry)
  | some (word, value) =>
      if value.isEmpty then .error (.optionBlank word)
      else
        match OptionKey.ofWord? word with
        | none => .error (.optionUnknown word)
        | some key =>
            match options.get? key with
            | some _ => .error (.optionRepeated word)
            | none => .ok (options.set key value)

/-- The options that a parameter spells. -/
def ofParameter (parameter : String) : Except Error PluginOptions :=
  match (entries parameter).foldlM add empty with
  | .ok options => .ok options
  | .error fault => .error (.invalidArgument fault)

/-! ### Small laws -/

@[simp] theorem get?_empty (key : OptionKey) : empty.get? key = none := by
  cases key <;> rfl

@[simp] theorem get?_set_self (options : PluginOptions) (key : OptionKey) (value : String) :
    (options.set key value).get? key = some value := by
  cases key <;> rfl

@[simp] theorem get?_set_of_ne (options : PluginOptions) {key other : OptionKey}
    (value : String) (different : other ≠ key) :
    (options.set key value).get? other = options.get? other := by
  cases key <;> cases other <;> first | rfl | exact absurd rfl different

/-- Options are known by what they say about every key. -/
theorem ext_get? {left right : PluginOptions} (same : ∀ key, left.get? key = right.get? key) :
    left = right := by
  obtain ⟨leftConfig, leftCommandFile, leftOutputFile⟩ := left
  obtain ⟨rightConfig, rightCommandFile, rightOutputFile⟩ := right
  have config := same .config
  have commandFile := same .commandFile
  have outputFile := same .outputFile
  simp only [get?] at config commandFile outputFile
  subst config commandFile outputFile
  rfl

end PluginOptions

end RpcTools
