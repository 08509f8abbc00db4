/-
Module: RpcTools.Proofs.TemplateSteps
Purpose: What an engine answers to one step after another: which templates it has, which text
  is rendered under a name, and which steps leave no trace.
Main exports: TemplateLibrary.Lawful, TemplateLibrary.Step, TemplateLibrary.perform,
  TemplateLibrary.transcript, TemplateLibrary.StandsFor, TemplateLibrary.Remembers,
  TemplateLibrary.steps_answered
-/
import RpcTools.Proofs.BuiltInTemplates

namespace RpcTools.TemplateLibrary

/-! ### What an engine relies on -/

/-- What engines rely on of a library.  Whether a text compiles depends on the text alone, and
what a compiled text renders to on this and the context. -/
structure Lawful (library : TemplateLibrary) : Prop where
  /-- Engines start from nothing. -/
  nothing : ∀ name, library.find? library.empty name = none
  accepts : ∀ engine name text,
    (library.file engine name text).2 = none ↔ ∃ compiled, library.compile text = some compiled
  /-- A text that is accepted is filed under the name, and nothing else changes. -/
  files : ∀ {text compiled}, library.compile text = some compiled → ∀ engine name other,
    library.find? (library.file engine name text).1 other =
      if name = other then some compiled else library.find? engine other
  /-- A text that is refused leaves everything filed as it was. -/
  keeps : ∀ {text}, library.compile text = none → ∀ engine name other,
    library.find? (library.file engine name text).1 other = library.find? engine other
  has : ∀ engine name, library.has engine name = (library.find? engine name).isSome
  renders : ∀ {engine name compiled}, library.find? engine name = some compiled →
    ∀ context text, library.rendered engine name context = .ok text ↔
      library.output compiled context = some text
  misses : ∀ {engine name}, library.find? engine name = none →
    ∀ context, ∃ detail, library.rendered engine name context = .error detail
  /-- The words for what fails depend on nothing but what is filed. -/
  words : ∀ {engine other}, (∀ name, library.find? engine name = library.find? other name) →
    ∀ name, (∀ text, (library.file engine name text).2 = (library.file other name text).2) ∧
      ∀ context, library.rendered engine name context = library.rendered other name context

/-! ### Steps and answers -/

/-- What an engine can be asked for. -/
inductive Step where
  | has (name : String)
  | register (name text : String)
  | render (name : String) (context : Json)
deriving Repr

/-- What is answered to a step. -/
inductive Answer where
  | has (found : Bool)
  | registered
  | rendered (text : String)
  | refused (error : Error)
deriving Repr, DecidableEq

section Runs

variable (library : TemplateLibrary)

/-- The engine after a step, and the answer. -/
def perform (engine : library.Registry) : Step → library.Registry × Answer
  | .has name => (engine, .has (library.has engine name))
  | .register name text =>
      match library.register engine name text with
      | (next, .ok ()) => (next, .registered)
      | (next, .error error) => (next, .refused error)
  | .render name context =>
      match library.render engine name context with
      | .ok text => (engine, .rendered text)
      | .error error => (engine, .refused error)

/-- The answer to a step. -/
def answer (engine : library.Registry) (step : Step) : Answer :=
  (library.perform engine step).2

/-- The engine after one step after another. -/
def after (engine : library.Registry) : List Step → library.Registry
  | [] => engine
  | step :: rest => after (library.perform engine step).1 rest

/-- The steps, each with its answer. -/
def transcript (engine : library.Registry) : List Step → List (Step × Answer)
  | [] => []
  | step :: rest =>
      (step, library.answer engine step) :: transcript (library.perform engine step).1 rest

end Runs

/-- A registration under a name was accepted. -/
def accepted (name text : String) : Step × Answer :=
  (.register name text, .registered)

/-! ### What one step does

A registration of a text that compiles files it.  Every other step leaves everything filed as it
was, whatever it is answered. -/

/-- Two engines have the same templates filed. -/
def Alike (library : TemplateLibrary) (engine other : library.Registry) : Prop :=
  ∀ name, library.find? engine name = library.find? other name

section OneStep

variable {library : TemplateLibrary} {engine other : library.Registry} {step : Step}
  {name text : String} {compiled : library.Compiled}

theorem Alike.refl (engine : library.Registry) : library.Alike engine engine :=
  fun _ => rfl

/-- What is registered depends on what the library says to it. -/
theorem perform_register (engine : library.Registry) (name text : String) :
    library.perform engine (.register name text) =
      ((library.file engine name text).1,
        match (library.file engine name text).2 with
        | none => .registered
        | some detail => .refused (.template (.registration name detail))) := by
  simp only [perform, register]
  rcases library.file engine name text with ⟨next, told⟩
  cases told <;> rfl

/-- What is rendered depends on what the library says to it. -/
theorem answer_render (engine : library.Registry) (name : String) (context : Json) :
    library.answer engine (.render name context) =
      match library.rendered engine name context with
      | .ok text => .rendered text
      | .error detail => .refused (.template (.rendering name detail)) := by
  simp only [answer, perform, render]
  cases library.rendered engine name context <;> rfl

theorem perform_render (engine : library.Registry) (name : String) (context : Json) :
    (library.perform engine (.render name context)).1 = engine := by
  simp only [perform]
  cases library.render engine name context <;> rfl

namespace Lawful

/-- A registration is accepted exactly if its text compiles. -/
theorem answer_register_iff (lawful : library.Lawful) :
    library.answer engine (.register name text) = .registered ↔
      ∃ compiled, library.compile text = some compiled := by
  rw [← lawful.accepts engine name text, answer, perform_register]
  cases (library.file engine name text).2 <;> simp

theorem alike_refused (lawful : library.Lawful) (unread : library.compile text = none) :
    library.Alike (library.perform engine (.register name text)).1 engine := by
  rw [perform_register]
  exact lawful.keeps unread engine name

/-- A step files what the text that it registers compiles to, or leaves everything filed as it
was. -/
theorem perform_cases (lawful : library.Lawful) (engine : library.Registry) (step : Step) :
    (∃ name text compiled, step = .register name text ∧ library.compile text = some compiled ∧
      library.answer engine step = .registered ∧
      ∀ other, library.find? (library.perform engine step).1 other =
        if name = other then some compiled else library.find? engine other) ∨
    (library.answer engine step ≠ .registered ∧
      library.Alike (library.perform engine step).1 engine) := by
  cases step with
  | has name => exact .inr ⟨Answer.noConfusion, .refl engine⟩
  | register name text =>
      cases read : library.compile text with
      | some compiled =>
          have registered : library.answer engine (.register name text) = .registered :=
            lawful.answer_register_iff.2 ⟨compiled, read⟩
          refine .inl ⟨name, text, compiled, rfl, read, registered, ?_⟩
          rw [perform_register]
          exact lawful.files read engine name
      | none =>
          refine .inr ⟨?_, lawful.alike_refused read⟩
          intro registered
          obtain ⟨compiled, found⟩ := lawful.answer_register_iff.1 registered
          rw [read] at found
          cases found
  | render name context =>
      refine .inr ⟨?_, by rw [perform_render]; exact .refl engine⟩
      rw [answer_render]
      cases library.rendered engine name context <;> exact Answer.noConfusion

/-- Engines with the same templates filed answer alike, and file alike. -/
theorem alike_perform (lawful : library.Lawful) (alike : library.Alike engine other)
    (step : Step) :
    library.answer engine step = library.answer other step ∧
      library.Alike (library.perform engine step).1 (library.perform other step).1 := by
  cases step with
  | has name =>
      refine ⟨?_, alike⟩
      rw [answer, answer, perform, perform, lawful.has, lawful.has, alike name]
  | register name text =>
      rw [answer, answer, perform_register, perform_register,
        (lawful.words alike name).1 text]
      refine ⟨rfl, fun filed => ?_⟩
      cases read : library.compile text with
      | some compiled => rw [lawful.files read, lawful.files read, alike filed]
      | none => rw [lawful.keeps read, lawful.keeps read, alike filed]
  | render name context =>
      rw [answer_render, answer_render, perform_render, perform_render,
        (lawful.words alike name).2 context]
      exact ⟨rfl, alike⟩

/-- Nor can they be told apart by one step after another. -/
theorem transcript_eq (lawful : library.Lawful) (alike : library.Alike engine other)
    (steps : List Step) : library.transcript engine steps = library.transcript other steps := by
  induction steps generalizing engine other with
  | nil => rfl
  | cons step rest inductionHypothesis =>
      obtain ⟨same, onwards⟩ := lawful.alike_perform alike step
      rw [transcript, transcript, same, inductionHypothesis onwards]

end Lawful

end OneStep

/-! ### What a name stands for -/

/-- The text that a name stands for when these steps were answered so: that of the last
registration that was accepted, and the built-in one as long as none was. -/
inductive StandsFor (answered : List (Step × Answer)) (name : String) : String → Prop where
  | registered {before later : List (Step × Answer)} {text : String}
      (steps : answered = before ++ accepted name text :: later)
      (last : ∀ other, accepted name other ∉ later) : StandsFor answered name text
  | builtIn {text : String} (listed : (name, text) ∈ BuiltIn.texts)
      (never : ∀ other, accepted name other ∉ answered) : StandsFor answered name text

/-- A name is built in, or a registration under it was accepted. -/
def IsRegistered (answered : List (Step × Answer)) (name : String) : Prop :=
  name ∈ ["agent_tools/module", "agent_tools/tool", "agent_tools/execute"] ∨
    ∃ text, accepted name text ∈ answered

/-- The built-in texts have the built-in names. -/
theorem isRegistered_iff {answered : List (Step × Answer)} {name : String} :
    IsRegistered answered name ↔
      name ∈ BuiltIn.texts.map (·.1) ∨ ∃ text, accepted name text ∈ answered :=
  Iff.rfl

section StandsFor

variable {answered : List (Step × Answer)} {entry : Step × Answer} {name text other : String}

/-- Either no registration under a name was accepted, or one of them was the last. -/
theorem never_or_last (name : String) (answered : List (Step × Answer)) :
    (∀ other, accepted name other ∉ answered) ∨
      ∃ before text later, answered = before ++ accepted name text :: later ∧
        ∀ other, accepted name other ∉ later := by
  rcases none_or_last (fun entry => ∃ text, entry = accepted name text) answered with
    never | ⟨before, _, later, rfl, ⟨text, rfl⟩, last⟩
  · exact .inl fun other member => never _ member ⟨other, rfl⟩
  · exact .inr ⟨before, text, later, rfl, fun other member => last _ member ⟨other, rfl⟩⟩

/-- Exactly the registered names stand for a text. -/
theorem exists_standsFor_iff :
    (∃ text, StandsFor answered name text) ↔ IsRegistered answered name := by
  rw [isRegistered_iff]
  constructor
  · rintro ⟨text, ⟨rfl, _⟩ | ⟨listed, _⟩⟩
    · exact .inr ⟨text, by simp⟩
    · exact .inl (List.mem_map.2 ⟨_, listed, rfl⟩)
  · intro registered
    rcases never_or_last name answered with never | ⟨before, text, later, steps, last⟩
    · rcases registered with builtIn | ⟨text, member⟩
      · obtain ⟨⟨_, text⟩, listed, rfl⟩ := List.mem_map.1 builtIn
        exact ⟨text, .builtIn listed never⟩
      · exact absurd member (never text)
    · exact ⟨text, .registered steps last⟩

/-- With one more step a name stands for what was registered under it just now, or else for what
it stood for before. -/
theorem standsFor_concat_iff :
    StandsFor (answered ++ [entry]) name text ↔
      entry = accepted name text ∨
        (∀ other, entry ≠ accepted name other) ∧ StandsFor answered name text := by
  constructor
  · intro stands
    cases stands with
    | @registered before later _ steps last =>
        rcases List.eq_nil_or_concat later with rfl | ⟨front, final, rfl⟩
        · obtain ⟨_, here⟩ := List.append_inj' steps rfl
          exact .inl (List.singleton_inj.1 here)
        · have whole : answered ++ [entry] = (before ++ accepted name text :: front) ++ [final] := by
            simpa using steps
          obtain ⟨earlier, here⟩ := List.append_inj' whole rfl
          obtain rfl := List.singleton_inj.1 here
          refine .inr ⟨?_, .registered earlier ?_⟩
          · exact fun other same => last other (by simp [same])
          · exact fun other member => last other (by simp [member])
    | builtIn listed never =>
        refine .inr ⟨?_, .builtIn listed ?_⟩
        · exact fun other same => never other (by simp [same])
        · exact fun other member => never other (by simp [member])
  · rintro (rfl | ⟨different, stands⟩)
    · exact .registered rfl fun other => List.not_mem_nil
    · have absent : ∀ {earlier : List (Step × Answer)},
          (∀ other, accepted name other ∉ earlier) →
            ∀ other, accepted name other ∉ earlier ++ [entry] := by
        intro earlier never other member
        rcases List.mem_append.1 member with before | here
        · exact never other before
        · exact different other (List.mem_singleton.1 here).symm
      cases stands with
      | @registered before later _ steps last =>
          have whole : answered ++ [entry] = before ++ accepted name text :: (later ++ [entry]) := by
            rw [steps, List.append_assoc, List.cons_append]
          exact .registered whole (absent last)
      | builtIn listed never => exact .builtIn listed (absent never)

theorem isRegistered_concat_iff :
    IsRegistered (answered ++ [entry]) name ↔
      IsRegistered answered name ∨ ∃ text, entry = accepted name text := by
  simp only [IsRegistered, List.mem_append, List.mem_singleton, exists_or, or_assoc, eq_comm]

end StandsFor

/-! ### What the engine keeps

The engine is related to the answers so far: filed under a name is what the text that the name
stands for compiles to, and nothing else is filed.  One step keeps it so, and with it every
run. -/

/-- An engine files the templates that names stand for. -/
structure Keeps (library : TemplateLibrary) (engine : library.Registry)
    (answered : List (Step × Answer)) : Prop where
  files : ∀ {name text : String}, StandsFor answered name text →
    ∃ compiled, library.compile text = some compiled ∧
      library.find? engine name = some compiled
  nothingElse : ∀ {name : String}, ¬ IsRegistered answered name →
    library.find? engine name = none

section Runs

variable {library : TemplateLibrary} {engine start final : library.Registry}
  {answered : List (Step × Answer)}

/-- A text extends an engine exactly if it compiles. -/
theorem Lawful.exists_extended_iff (lawful : library.Lawful) (engine : library.Registry)
    {entry : String × String} :
    (∃ next, library.extended engine entry = .ok next) ↔
      ∃ compiled, library.compile entry.2 = some compiled := by
  rw [← lawful.accepts engine entry.1 entry.2, extended, register]
  rcases library.file engine entry.1 entry.2 with ⟨next, told⟩
  cases told <;> simp

theorem Lawful.find?_of_extended (lawful : library.Lawful) {entry : String × String}
    {next : library.Registry} (made : library.extended engine entry = .ok next) :
    ∃ compiled, library.compile entry.2 = some compiled ∧
      ∀ other, library.find? next other =
        if entry.1 = other then some compiled else library.find? engine other := by
  obtain ⟨compiled, read⟩ := (lawful.exists_extended_iff engine).1 ⟨next, made⟩
  refine ⟨compiled, read, ?_⟩
  have filed := lawful.files read engine entry.1
  rw [extended, register] at made
  rcases told : library.file engine entry.1 entry.2 with ⟨left, detail⟩
  rw [told] at made filed
  cases detail with
  | none =>
      cases made
      exact filed
  | some detail => cases made

/-- Texts make an engine exactly if all of them compile. -/
theorem Lawful.exists_foldlM_iff (lawful : library.Lawful) {texts : List (String × String)} :
    (∃ final, texts.foldlM library.extended engine = .ok final) ↔
      ∀ entry ∈ texts, ∃ compiled, library.compile entry.2 = some compiled := by
  induction texts generalizing engine with
  | nil => simp [pure, Except.pure]
  | cons entry rest inductionHypothesis =>
      rw [List.forall_mem_cons, ← lawful.exists_extended_iff engine]
      cases here : library.extended engine entry with
      | ok next =>
          rw [foldlM_cons_of_ok rest here, inductionHypothesis]
          simp
      | error error => simp [List.foldlM_cons, here, bind, Except.bind]

/-- What is filed in an engine that texts of different names make. -/
theorem Lawful.find?_of_foldlM (lawful : library.Lawful) {texts : List (String × String)}
    (made : texts.foldlM library.extended engine = .ok final)
    (distinct : (texts.map (·.1)).Nodup) :
    (∀ entry ∈ texts, ∃ compiled, library.compile entry.2 = some compiled ∧
      library.find? final entry.1 = some compiled) ∧
    ∀ name, name ∉ texts.map (·.1) → library.find? final name = library.find? engine name := by
  induction texts generalizing engine with
  | nil =>
      cases made
      exact ⟨by simp, fun _ _ => rfl⟩
  | cons entry rest inductionHypothesis =>
      rw [List.map_cons, List.nodup_cons] at distinct
      obtain ⟨onlyHere, distinctRest⟩ := distinct
      cases here : library.extended engine entry with
      | error error => simp [List.foldlM_cons, here, bind, Except.bind] at made
      | ok next =>
          rw [foldlM_cons_of_ok rest here] at made
          obtain ⟨compiled, read, filed⟩ := lawful.find?_of_extended here
          obtain ⟨others, elsewhere⟩ := inductionHypothesis made distinctRest
          constructor
          · intro other member
            rcases List.mem_cons.1 member with rfl | later
            · exact ⟨compiled, read, by rw [elsewhere _ onlyHere, filed, if_pos rfl]⟩
            · exact others other later
          · intro name absent
            rw [List.map_cons, List.mem_cons, not_or] at absent
            rw [elsewhere _ absent.2, filed, if_neg (Ne.symm absent.1)]

/-- A new engine has the built-in templates filed, and nothing else. -/
theorem Lawful.keeps_newEngine (lawful : library.Lawful)
    (made : library.newEngine = .ok start) : library.Keeps start [] := by
  obtain ⟨filed, elsewhere⟩ := lawful.find?_of_foldlM made (by decide)
  constructor
  · intro name text stands
    cases stands with
    | registered steps => simp at steps
    | builtIn listed => exact filed _ listed
  · intro name unregistered
    rw [isRegistered_iff, not_or] at unregistered
    rw [elsewhere _ unregistered.1, lawful.nothing]

theorem Keeps.perform (lawful : library.Lawful) (keeps : library.Keeps engine answered)
    (step : Step) :
    library.Keeps (library.perform engine step).1
      (answered ++ [(step, library.answer engine step)]) := by
  rcases lawful.perform_cases engine step with
    ⟨registered, text, compiled, rfl, read, told, filed⟩ | ⟨other, same⟩
  · have entry : (Step.register registered text,
        library.answer engine (.register registered text)) = accepted registered text := by
      rw [told, accepted]
    rw [entry]
    constructor
    · intro name found stands
      rw [filed]
      rcases standsFor_concat_iff.1 stands with here | ⟨different, before⟩
      · cases here
        exact ⟨compiled, read, if_pos rfl⟩
      · have apart : registered ≠ name := by
          rintro rfl
          exact different text rfl
        rw [if_neg apart]
        exact keeps.files before
    · intro name unregistered
      rw [isRegistered_concat_iff, not_or] at unregistered
      have apart : registered ≠ name := by
        rintro rfl
        exact unregistered.2 ⟨text, rfl⟩
      rw [filed, if_neg apart]
      exact keeps.nothingElse unregistered.1
  · have different : ∀ name text,
        (step, library.answer engine step) ≠ accepted name text :=
      fun name text here => other (Prod.mk.inj here).2
    constructor
    · intro name text stands
      rw [same name]
      rcases standsFor_concat_iff.1 stands with here | ⟨_, before⟩
      · exact absurd here (different name text)
      · exact keeps.files before
    · intro name unregistered
      rw [isRegistered_concat_iff, not_or] at unregistered
      rw [same name]
      exact keeps.nothingElse unregistered.1

theorem Keeps.after (lawful : library.Lawful) (keeps : library.Keeps engine answered)
    (steps : List Step) :
    library.Keeps (library.after engine steps)
      (answered ++ library.transcript engine steps) := by
  induction steps generalizing engine answered with
  | nil => simpa [TemplateLibrary.after, transcript] using keeps
  | cons step rest inductionHypothesis =>
      have onwards := inductionHypothesis (keeps.perform lawful step)
      rwa [List.append_assoc, List.singleton_append] at onwards

/-- What is answered to a run in two parts. -/
theorem transcript_append (engine : library.Registry) (before later : List Step) :
    library.transcript engine (before ++ later) =
      library.transcript engine before ++
        library.transcript (library.after engine before) later := by
  induction before generalizing engine with
  | nil => rfl
  | cons step rest inductionHypothesis =>
      rw [List.cons_append, transcript, transcript, inductionHypothesis, List.cons_append,
        TemplateLibrary.after]

theorem length_transcript (engine : library.Registry) (steps : List Step) :
    (library.transcript engine steps).length = steps.length := by
  induction steps generalizing engine with
  | nil => rfl
  | cons step rest inductionHypothesis =>
      rw [transcript, List.length_cons, inductionHypothesis, List.length_cons]

/-- A step that leaves everything filed as it was takes nothing with it but its own answer. -/
theorem transcript_without (lawful : library.Lawful) {before later : List Step} {step : Step}
    (idle : library.Alike (library.perform (library.after engine before) step).1
      (library.after engine before)) :
    (library.transcript engine (before ++ step :: later)).eraseIdx before.length =
      library.transcript engine (before ++ later) := by
  rw [transcript_append, transcript_append, transcript, lawful.transcript_eq idle,
    List.eraseIdx_append_of_length_le (Nat.le_of_eq (length_transcript ..)), length_transcript,
    Nat.sub_self, List.eraseIdx_cons_zero]

end Runs

/-! ### Runs of new engines -/

/-- An error says that a template could not be rendered, and names it. -/
def TellsUnrendered (name : String) (error : Error) : Prop :=
  error.isTemplateError = true ∧
    ∃ detail,
      error.message = "Template error: " ++ ("Failed to render '" ++ name ++ "': " ++ detail)

theorem tellsUnrendered_rendering (name detail : String) :
    TellsUnrendered name (.template (.rendering name detail)) :=
  ⟨rfl, detail, rfl⟩

/-- What is answered after some steps. -/
structure Remembers (library : TemplateLibrary) (start : library.Registry)
    (steps : List Step) : Prop where
  /-- The names that are found are the registered ones. -/
  has : ∀ name, ∃ found,
    library.answer (library.after start steps) (.has name) = .has found ∧
      (found = true ↔ IsRegistered (library.transcript start steps) name)
  /-- What is rendered under a registered name is what the text that it stands for renders
  to. -/
  render : ∀ name, IsRegistered (library.transcript start steps) name →
    ∃ text compiled, StandsFor (library.transcript start steps) name text ∧
      library.compile text = some compiled ∧
      ∀ context,
        (∃ shown, library.output compiled context = some shown ∧
          library.answer (library.after start steps) (.render name context) =
            .rendered shown) ∨
        (library.output compiled context = none ∧
          ∃ error, TellsUnrendered name error ∧
            library.answer (library.after start steps) (.render name context) =
              .refused error)
  /-- Nothing is rendered under any other name, and the error names it. -/
  unknown : ∀ name context, ¬ IsRegistered (library.transcript start steps) name →
    ∃ error, TellsUnrendered name error ∧
      library.answer (library.after start steps) (.render name context) = .refused error

section Engines

variable {library : TemplateLibrary} {engine start : library.Registry}

theorem Lawful.answer_render_of_found (lawful : library.Lawful) {name : String}
    {compiled : library.Compiled} (found : library.find? engine name = some compiled)
    (context : Json) :
    (∃ shown, library.output compiled context = some shown ∧
      library.answer engine (.render name context) = .rendered shown) ∨
    (library.output compiled context = none ∧
      ∃ error, TellsUnrendered name error ∧
        library.answer engine (.render name context) = .refused error) := by
  have renders := lawful.renders found context
  rw [answer_render]
  cases outcome : library.rendered engine name context with
  | ok shown => exact .inl ⟨shown, (renders shown).1 outcome, rfl⟩
  | error detail =>
      refine .inr ⟨?_, _, tellsUnrendered_rendering name detail, rfl⟩
      cases output : library.output compiled context with
      | none => rfl
      | some shown =>
          rw [(renders shown).2 output] at outcome
          cases outcome

theorem Lawful.answer_render_of_missing (lawful : library.Lawful) {name : String}
    (missing : library.find? engine name = none) (context : Json) :
    ∃ error, TellsUnrendered name error ∧
      library.answer engine (.render name context) = .refused error := by
  obtain ⟨detail, outcome⟩ := lawful.misses missing context
  refine ⟨_, tellsUnrendered_rendering name detail, ?_⟩
  rw [answer_render, outcome]

theorem Keeps.remembers (lawful : library.Lawful) {steps : List Step}
    (keeps : library.Keeps (library.after start steps) (library.transcript start steps)) :
    library.Remembers start steps where
  has := by
    intro name
    refine ⟨_, rfl, ?_⟩
    rw [lawful.has]
    by_cases registered : IsRegistered (library.transcript start steps) name
    · obtain ⟨text, stands⟩ := exists_standsFor_iff.2 registered
      obtain ⟨compiled, _, found⟩ := keeps.files stands
      simp [found, registered]
    · simp [keeps.nothingElse registered, registered]
  render := by
    intro name registered
    obtain ⟨text, stands⟩ := exists_standsFor_iff.2 registered
    obtain ⟨compiled, read, found⟩ := keeps.files stands
    exact ⟨text, compiled, stands, read, lawful.answer_render_of_found found⟩
  unknown := by
    intro name context unregistered
    exact lawful.answer_render_of_missing (keeps.nothingElse unregistered) context

/-- There are new engines exactly if the built-in texts compile.  Whatever a new engine is asked
for, one step after another, the names that it has are the built-in ones and those under which a
registration was accepted, and the last text that was accepted under a name, or else the
built-in one, is rendered under it.  A step that is no accepted registration leaves no trace in
the answers to others. -/
theorem steps_answered (library : TemplateLibrary) (lawful : library.Lawful) :
    ((∃ start, library.newEngine = .ok start) ↔
      ∀ entry ∈ BuiltIn.texts, ∃ compiled, library.compile entry.2 = some compiled) ∧
    ∀ start, library.newEngine = .ok start →
      (∀ steps, library.Remembers start steps) ∧
      ∀ (before : List Step) (step : Step) (later : List Step),
        (∀ name text, step = .register name text →
          library.answer (library.after start before) step ≠ .registered) →
        (library.transcript start (before ++ step :: later)).eraseIdx before.length =
          library.transcript start (before ++ later) := by
  refine ⟨lawful.exists_foldlM_iff, fun start made => ⟨?_, ?_⟩⟩
  · intro steps
    apply Keeps.remembers lawful
    simpa using (lawful.keeps_newEngine made).after lawful steps
  · intro before step later idle
    apply transcript_without lawful
    rcases lawful.perform_cases (library.after start before) step with
      ⟨name, text, _, rfl, _, registered, _⟩ | ⟨_, same⟩
    · exact absurd registered (idle name text rfl)
    · exact same

end Engines

end RpcTools.TemplateLibrary

namespace RpcTools.TemplateStore

open TemplateLibrary

/-! ### The templates that are read here -/

theorem library_lawful : library.Lawful where
  nothing _ := rfl
  accepts engine name text := by
    cases read : Template.ofText? text <;> simp [read]
  files {text template} read engine name other := by
    have read : Template.ofText? text = some template := read
    simp only [read]
    exact find?_insert engine name other template
  keeps {text} unread engine name other := by
    have unread : Template.ofText? text = none := unread
    simp only [unread]
  has _ _ := rfl
  renders {store name template} found context text := by
    have found : store.find? name = some template := found
    simp only [found]
    cases template.render context <;> simp [Except.mapError, Except.toOption]
  misses {store name} missing context := by
    have missing : store.find? name = none := missing
    exact ⟨(RenderFault.unknownTemplate name).message, by simp only [missing]⟩
  words {store other} alike name := by
    have same : store.find? name = other.find? name := alike name
    refine ⟨fun text => ?_, fun context => ?_⟩
    · cases read : Template.ofText? text <;> simp only [read]
    · simp only [same]

theorem unread_unclosed : Template.ofText? (BuiltIn.tag "#each items") = none := by
  rfl

/-- A text that makes no template does not take the place of the one before. -/
theorem steps_answered_unclosed :
    library.Lawful ∧ ∃ start, library.newEngine = .ok start ∧
      library.Remembers start [.register "greeting" "Hello",
        .register "greeting" (BuiltIn.tag "#each items")] ∧
      (∀ name text, Step.register "greeting" (BuiltIn.tag "#each items") = .register name text →
        library.answer (library.after start [.register "greeting" "Hello"])
          (.register "greeting" (BuiltIn.tag "#each items")) ≠ .registered) ∧
      (library.transcript start ([.register "greeting" "Hello"] ++
          .register "greeting" (BuiltIn.tag "#each items") ::
            [.render "greeting" .null])).eraseIdx 1 =
        library.transcript start
          ([.register "greeting" "Hello"] ++ [.render "greeting" .null]) := by
  obtain ⟨_, answered⟩ := steps_answered library library_lawful
  obtain ⟨remembers, traceless⟩ := answered builtIn ofTexts_builtIn
  have refused : ∀ name text,
      Step.register "greeting" (BuiltIn.tag "#each items") = .register name text →
      library.answer (library.after builtIn [.register "greeting" "Hello"])
        (.register "greeting" (BuiltIn.tag "#each items")) ≠ .registered := by
    intro _ _ _ registered
    obtain ⟨template, read⟩ := library_lawful.answer_register_iff.1 registered
    cases unread_unclosed.symm.trans read
  exact ⟨library_lawful, builtIn, ofTexts_builtIn, remembers _, refused,
    traceless [_] _ [_] refused⟩

end RpcTools.TemplateStore
