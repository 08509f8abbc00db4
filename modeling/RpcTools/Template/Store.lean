/-
Module: RpcTools.Template.Store
Purpose: Templates by name, as they are read here.
Main exports: TemplateStore, TemplateStore.library, TemplateStore.builtIn,
  TemplateStore.ofTexts, TemplateStore.render
-/
import RpcTools.Template.Library
import RpcTools.Template.Reader

/-!
The reader and the renderer cover the part of the template language that the built-in
templates are written in, and are a library for texts of that kind.
-/

namespace RpcTools

/-- Templates by name; the one filed last under a name counts. -/
structure TemplateStore where
  entries : List (String × Template)

namespace TemplateStore

/-- The template filed under a name. -/
def find? (store : TemplateStore) (name : String) : Option Template :=
  (store.entries.find? (·.1 == name)).map (·.2)

/-- Files a template under a name, before any older one. -/
def insert (store : TemplateStore) (name : String) (template : Template) : TemplateStore :=
  ⟨(name, template) :: store.entries⟩

/-- The library of the templates that are read here. -/
abbrev library : TemplateLibrary where
  Compiled := Template
  Registry := TemplateStore
  empty := ⟨[]⟩
  compile := Template.ofText?
  output template context := (template.render context).toOption
  find? := find?
  file store name text :=
    match Template.ofText? text with
    | some template => (store.insert name template, none)
    | none => (store, some "the text is no template")
  has store name := (store.find? name).isSome
  rendered store name context :=
    match store.find? name with
    | none => .error (RenderFault.unknownTemplate name).message
    | some template => (template.render context).mapError RenderFault.message

/-- The store of the templates that texts make, each filed under its name. -/
def ofTexts (texts : List (String × String)) : Except Error TemplateStore :=
  library.engineOf texts

/-- The text of the template under a name over a context. -/
def render (store : TemplateStore) (name : String) (context : Json) : Except Error String :=
  library.render store name context

/-- The store that holds the built-in templates and no other. -/
def builtIn : TemplateStore :=
  ⟨[(BuiltIn.executeName, mergedNodes BuiltIn.executeTemplate),
    (BuiltIn.toolName, mergedNodes BuiltIn.toolTemplate),
    (BuiltIn.moduleName, mergedNodes BuiltIn.moduleTemplate)]⟩

/-! ### Small laws -/

theorem find?_insert (store : TemplateStore) (name other : String) (template : Template) :
    (store.insert name template).find? other =
      if name = other then some template else store.find? other := by
  by_cases same : name = other <;> simp [insert, find?, same]

end TemplateStore

end RpcTools
