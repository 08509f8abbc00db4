/-
Module: RpcTools.Event
Purpose: What a run tells about itself, and computations that tell it.
Main exports: Level, Event, Event.level, Event.text, Event.line, Logged
-/
import RpcTools.Error

namespace RpcTools

/-- How much an event matters. -/
inductive Level where
  | debug
  | info
  | warn
  | error
deriving Repr, DecidableEq

/-- The word for a level. -/
def Level.word : Level → String
  | .debug => "DEBUG"
  | .info => "INFO"
  | .warn => "WARN"
  | .error => "ERROR"

/-- Something that a run did or decided. -/
inductive Event where
  | configLoaded (path : String)
  | configDefaulted
  | schemaLoaded (fileCount serviceCount : Nat)
  | nothingToGenerate (marker : String)
  | noCommandFile (pattern : String)
  | commandFileSelected (path : String)
  | toolGenerated (name : String)
  | methodIgnored (method reason : String)
  | moduleGenerated (toolCount skippedCount : Nat) (outputFile : String)
  | moduleWritten (path : String)
  | filesReceived (count : Nat)
  | requestFailed (error : Error)
  | completionsGenerated (shell : String)
deriving Repr, DecidableEq

namespace Event

def level : Event → Level
  | .configLoaded _ | .configDefaulted | .schemaLoaded _ _ | .commandFileSelected _
  | .toolGenerated _ => .debug
  | .nothingToGenerate _ | .moduleGenerated _ _ _ | .moduleWritten _ | .filesReceived _
  | .completionsGenerated _ => .info
  | .noCommandFile _ | .methodIgnored _ _ => .warn
  | .requestFailed _ => .error

def text : Event → String
  | .configLoaded path => s!"Loaded generator config from {path}"
  | .configDefaulted => "Config file not found, using defaults"
  | .schemaLoaded fileCount serviceCount =>
      s!"Loaded {fileCount} files ({serviceCount} services)"
  | .nothingToGenerate marker => s!"No file path contains '{marker}', nothing to generate"
  | .noCommandFile pattern => s!"No file matches '{pattern}', generating an empty tool list"
  | .commandFileSelected path => s!"Selected command file: {path}"
  | .toolGenerated name => s!"Generated tool: {name}"
  | .methodIgnored method reason => s!"Ignored unsupported method: {method} ({reason})"
  | .moduleGenerated toolCount skippedCount outputFile =>
      s!"Generated {toolCount} tools ({skippedCount} methods skipped) into {outputFile}"
  | .moduleWritten path => s!"Wrote {path}"
  | .filesReceived count => s!"Received {count} files to generate"
  | .requestFailed error => error.message
  | .completionsGenerated shell => s!"Generating {shell} completions"

/-- One line of the log. -/
def line (event : Event) : String :=
  event.level.word ++ " " ++ event.text

end Event

/-- The outcome of a computation together with what it told, in order. -/
structure Logged (α : Type) where
  result : Except Error α
  events : List Event

namespace Logged

variable {α β : Type}

/-- A value, and nothing to tell. -/
protected def pure (value : α) : Logged α := ⟨.ok value, []⟩

/-- Goes on with the value, after what was told; an error ends the run. -/
protected def bind (first : Logged α) (next : α → Logged β) : Logged β :=
  match first.result with
  | .error error => ⟨.error error, first.events⟩
  | .ok value => ⟨(next value).result, first.events ++ (next value).events⟩

instance : Monad Logged where
  pure := Logged.pure
  bind := Logged.bind

/-- An outcome, and nothing to tell. -/
def ofExcept (outcome : Except Error α) : Logged α := ⟨outcome, []⟩

/-- Tells one event. -/
def tell (event : Event) : Logged Unit := ⟨.ok (), [event]⟩

/-- Ends with an error. -/
def fail (error : Error) : Logged α := ⟨.error error, []⟩

/-! ### Small laws -/

@[simp] theorem pure_bind' (value : α) (next : α → Logged β) :
    Logged.bind (Logged.pure value) next = next value := by
  simp [Logged.bind, Logged.pure]

@[simp] theorem bind_fail (error : Error) (next : α → Logged β) :
    Logged.bind (fail error) next = fail error := rfl

theorem id_map' (logged : Logged α) : id <$> logged = logged := by
  rcases logged with ⟨result, events⟩
  cases result <;> simp [Functor.map, Logged.bind, Logged.pure]

theorem bind_assoc' {γ : Type} (logged : Logged α) (next : α → Logged β)
    (last : β → Logged γ) :
    (logged >>= next) >>= last = logged >>= fun value => next value >>= last := by
  rcases logged with ⟨result, events⟩
  cases result with
  | error => rfl
  | ok value =>
      simp only [Bind.bind, Logged.bind]
      cases (next value).result <;> simp

instance : LawfulMonad Logged :=
  LawfulMonad.mk' Logged id_map' pure_bind' bind_assoc'

@[simp] theorem result_ofExcept (outcome : Except Error α) :
    (ofExcept outcome).result = outcome := rfl

@[simp] theorem result_pure (value : α) : (pure value : Logged α).result = .ok value := rfl

@[simp] theorem result_tell (event : Event) : (tell event).result = .ok () := rfl

/-- What is told has no part in what comes out. -/
theorem result_bind (logged : Logged α) (next : α → Logged β) :
    (logged >>= next).result = logged.result >>= fun value => (next value).result := by
  rcases logged with ⟨result, events⟩
  cases result <;> rfl

theorem result_bind_eq_ok_iff {logged : Logged α} {next : α → Logged β} {last : β} :
    (logged >>= next).result = .ok last ↔
      ∃ value, logged.result = .ok value ∧ (next value).result = .ok last := by
  rw [result_bind]
  cases logged.result <;> simp [Bind.bind, Except.bind]

theorem result_bind_eq_error_iff {logged : Logged α} {next : α → Logged β} {fault : Error} :
    (logged >>= next).result = .error fault ↔
      logged.result = .error fault ∨
        ∃ value, logged.result = .ok value ∧ (next value).result = .error fault := by
  rw [result_bind]
  cases logged.result <;> simp [Bind.bind, Except.bind]

end Logged

end RpcTools
