/-
Module: RpcTools.Proofs.BuiltInTemplates
Purpose: The built-in templates are what their texts are read as, and the store renders
  them part by part.
Main exports: TemplateStore.ofTexts_builtIn, TemplateStore.builtIn_render
-/
import RpcTools.Proofs.TemplateRendering
import RpcTools.Proofs.Traversal
import RpcTools.Template.Store

namespace RpcTools

/-! ### Spelling the texts

A text is a row of literals and tags.  The two lemmas on spelling take its characters from
the row one entry at a time, so that reading starts from a plain list of characters. -/

theorem toList_join_literal {literal characters : List Char} {rest : List String}
    (spelled : (String.join rest).toList = characters) :
    (String.join (String.ofList literal :: rest)).toList = literal ++ characters := by
  rw [String.join_cons, String.toList_append, String.toList_ofList, spelled]

theorem toList_join_tag {content characters : List Char} {rest : List String}
    (spelled : (String.join rest).toList = characters) :
    (String.join (BuiltIn.tag (String.ofList content) :: rest)).toList =
      '{' :: '{' :: content ++ '}' :: '}' :: characters := by
  rw [String.join_cons, String.toList_append, spelled]
  simp [BuiltIn.tag]

theorem ofText?_eq_some {text : String} {characters : List Char} {template : Template}
    (spelled : text.toList = characters)
    (read :
      ((piecesFrom? false [] [] characters).map fun pieces =>
        settle true false pieces.rest pieces.tags).bind (nodes? [] []) = some template) :
    Template.ofText? text = some template := by
  rw [Template.ofText?, tokens?, spelled, read]

section Reading

set_option maxRecDepth 10000

theorem ofText?_moduleText :
    Template.ofText? BuiltIn.moduleText = some (mergedNodes BuiltIn.moduleTemplate) := by
  apply ofText?_eq_some
  case spelled =>
    unfold BuiltIn.moduleText
    repeat (with_reducible first | apply toList_join_tag | apply toList_join_literal)
    rfl
  case read => rfl

theorem ofText?_toolText :
    Template.ofText? BuiltIn.toolText = some (mergedNodes BuiltIn.toolTemplate) := by
  apply ofText?_eq_some
  case spelled =>
    unfold BuiltIn.toolText
    repeat (with_reducible first | apply toList_join_tag | apply toList_join_literal)
    rfl
  case read => rfl

theorem ofText?_executeText :
    Template.ofText? BuiltIn.executeText = some (mergedNodes BuiltIn.executeTemplate) := by
  apply ofText?_eq_some
  case spelled =>
    unfold BuiltIn.executeText
    repeat (with_reducible first | apply toList_join_tag | apply toList_join_literal)
    rfl
  case read => rfl

end Reading

namespace TemplateStore

theorem extended_of_read {text : String} {template : Template}
    (read : Template.ofText? text = some template) (store : TemplateStore) (name : String) :
    library.extended store (name, text) = .ok (store.insert name template) := by
  simp only [TemplateLibrary.extended, TemplateLibrary.register, read]

/-- Filing the built-in texts succeeds and makes the built-in store. -/
theorem ofTexts_builtIn : ofTexts BuiltIn.texts = .ok builtIn := by
  rw [ofTexts, TemplateLibrary.engineOf, BuiltIn.texts,
    foldlM_cons_of_ok _ (extended_of_read ofText?_moduleText _ _),
    foldlM_cons_of_ok _ (extended_of_read ofText?_toolText _ _),
    foldlM_cons_of_ok _ (extended_of_read ofText?_executeText _ _)]
  rfl

/-- A built-in template renders to what its parts render to. -/
theorem builtIn_render {name text : String} {template : Template} {context : Json}
    (filed : builtIn.find? name = some (mergedNodes template))
    (rendered : renderNodes (Scope.ofContext context) template = .ok text) :
    builtIn.render name context = .ok text := by
  simp only [render, TemplateLibrary.render, filed, Template.render, renderNodes_mergedNodes,
    rendered]
  rfl

theorem find?_moduleName :
    builtIn.find? BuiltIn.moduleName = some (mergedNodes BuiltIn.moduleTemplate) := by
  rfl

theorem find?_toolName :
    builtIn.find? BuiltIn.toolName = some (mergedNodes BuiltIn.toolTemplate) := by
  rfl

theorem find?_executeName :
    builtIn.find? BuiltIn.executeName = some (mergedNodes BuiltIn.executeTemplate) := by
  rfl

end TemplateStore

end RpcTools
