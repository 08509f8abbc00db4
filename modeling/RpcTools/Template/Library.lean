/-
Module: RpcTools.Template.Library
Purpose: Engines that keep templates by name in the registry of a template library.
Main exports: TemplateLibrary, TemplateLibrary.register, TemplateLibrary.engineOf,
  TemplateLibrary.newEngine, TemplateLibrary.render
-/
import RpcTools.Error
import RpcTools.Template.BuiltIn

/-!
Which texts are templates and what templates render to is decided by a library.  An engine is a
registry of the library; it names the template in every error, and starts from the built-in
templates.  What a registration leaves of a registry is the library's matter too, and an engine
goes on with what was left even if the text was refused.
-/

namespace RpcTools

/-- A template library: what it does with texts and registries, and how registries are told
apart. -/
structure TemplateLibrary where
  /-- What a text is compiled to. -/
  Compiled : Type
  /-- What keeps compiled texts by name. -/
  Registry : Type
  /-- The registry that engines start from. -/
  empty : Registry
  /-- What a text compiles to, unless it is no template. -/
  compile : String → Option Compiled
  /-- What a compiled text renders to over a context, unless something is missing there. -/
  output : Compiled → Json → Option String
  /-- What is filed under a name. -/
  find? : Registry → String → Option Compiled
  /-- Compiles the text of a template and files it under a name: what is left of the registry,
  and why the text was refused, if it was. -/
  file : Registry → (name text : String) → Registry × Option String
  /-- Whether something is filed under a name. -/
  has : Registry → String → Bool
  /-- Renders what is filed under a name, or tells why it cannot be done. -/
  rendered : Registry → String → Json → Except String String

namespace TemplateLibrary

variable (library : TemplateLibrary)

/-- Files a template in an engine. -/
def register (engine : library.Registry) (name text : String) :
    library.Registry × Except Error Unit :=
  match library.file engine name text with
  | (next, none) => (next, .ok ())
  | (next, some detail) => (next, .error (.template (.registration name detail)))

/-- The text of the template under a name over a context. -/
def render (engine : library.Registry) (name : String) (context : Json) :
    Except Error String :=
  (library.rendered engine name context).mapError fun detail =>
    .template (.rendering name detail)

/-- The engine with the template of one more text, which has to be accepted. -/
def extended (engine : library.Registry) (entry : String × String) :
    Except Error library.Registry :=
  match library.register engine entry.1 entry.2 with
  | (next, .ok ()) => .ok next
  | (_, .error error) => .error error

/-- The engine with the templates that texts make, each filed under its name; the first text
that is refused is an error. -/
def engineOf (texts : List (String × String)) : Except Error library.Registry :=
  texts.foldlM library.extended library.empty

/-- An engine with the built-in templates. -/
def newEngine : Except Error library.Registry :=
  library.engineOf BuiltIn.texts

end TemplateLibrary

end RpcTools
