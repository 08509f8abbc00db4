/-
Module: RpcTools.Proofs.BodyText
Purpose: What a tool executes, line by line: every argument is bound before the call, and the
  client is released after it.
Main exports: bodyLines, WrittenBody, bodyOf_eq_written
-/
import RpcTools.Proofs.ParameterSpelling
import RpcTools.Proofs.ToolText

namespace RpcTools

/-! ### Lines -/

/-- The line that takes an argument out of the parameters. -/
def bindingLine (name : String) : String :=
  "                const " ++ name ++ " = params." ++ name ++ ";"

/-- The lines for an argument. -/
def argumentLines (name : String) : List String :=
  ["                // @ts-ignore", bindingLine name]

/-- A call with its arguments in their order. -/
def callText (callName : String) (arguments : List String) : String :=
  callName ++ "(" ++ Text.joinWith ", " arguments ++ ")"

/-- The lines that get a client. -/
def openingLines (invocation : Invocation) : List String :=
  ["            const client = " ++ invocation.clientFactory ++
     "((params as \x7b accountId: string \x7d).accountId);",
   "            try \x7b"]

/-- The lines that start a result, with some content or none. -/
def resultLines (methodName content : String) : List String :=
  ["                const result: \x7b content: any[]; details: string \x7d = \x7b",
   "                    content: [" ++ content ++ "],",
   "                    details: \"Result of " ++ methodName ++ " method.\",",
   "                \x7d;"]

/-- The line with the call: one call is awaited, or its results are iterated. -/
def callLine (callName : String) (arguments : List String) (isStreamList : Bool) : String :=
  if isStreamList then
    "                for await (const item of client." ++ callText callName arguments ++ ") \x7b"
  else "                const ret = await client." ++ callText callName arguments ++ ";"

/-- The lines before the call: the client, the arguments, and for a stream the result that is
filled later. -/
def linesBeforeCall (invocation : Invocation) (methodName : String) (arguments : List String)
    (isStreamList : Bool) : List String :=
  openingLines invocation ++ arguments.flatMap argumentLines ++
    if isStreamList then resultLines methodName "" else []

/-- The line that packs one element of a stream. -/
def pushLine : String :=
  "                    result.content.push(\x7b type: \"text\", " ++
    "text: JSON.stringify(item) \x7d);"

/-- The lines that pack what the call gives. -/
def packingLines (methodName : String) (isStreamList : Bool) : List String :=
  (if isStreamList then
    [pushLine, "                \x7d"]
  else resultLines methodName "\x7b type: \"text\", text: JSON.stringify(ret) \x7d") ++
    ["                return result;"]

/-- The lines that release the client, whatever happened before. -/
def releaseLines (invocation : Invocation) : List String :=
  ["            \x7d finally \x7b",
   "                client." ++ invocation.clientCloseMethod ++ "();",
   "            \x7d"]

/-- All lines of what a tool executes. -/
def bodyLines (invocation : Invocation) (methodName callName : String)
    (arguments : List String) (isStreamList : Bool) : List String :=
  linesBeforeCall invocation methodName arguments isStreamList ++
    callLine callName arguments isStreamList ::
      (packingLines methodName isStreamList ++ releaseLines invocation)

/-! ### Lines and the pieces of a text -/

/-- The text of some lines, each with its line break. -/
def brokenLines (lines : List String) : String :=
  String.join (lines.map (· ++ "\n"))

theorem brokenLines_append (front back : List String) :
    brokenLines (front ++ back) = brokenLines front ++ brokenLines back := by
  rw [brokenLines, List.map_append, String.join_append, brokenLines, brokenLines]

theorem brokenLines_cons (line : String) (rest : List String) :
    brokenLines (line :: rest) = line ++ "\n" ++ brokenLines rest := by
  rw [brokenLines, List.map_cons, String.join_cons, brokenLines]

theorem Text.joinWith_append_singleton (lines : List String) (last : String) :
    Text.joinWith "\n" (lines ++ [last]) = brokenLines lines ++ last := by
  induction lines with
  | nil => simp [brokenLines, Text.joinWith]
  | cons line rest inductionHypothesis =>
      have nonempty : rest ++ [last] ≠ [] := by simp
      rw [List.cons_append, brokenLines_cons, String.append_assoc, ← inductionHypothesis]
      cases whole : rest ++ [last] with
      | nil => exact absurd whole nonempty
      | cons second others => simp [Text.joinWith, String.append_assoc]

theorem brokenLines_argumentLines (name : String) :
    brokenLines (argumentLines name) = bindingLines name := by
  unfold brokenLines argumentLines bindingLine bindingLines
  simp only [List.map_cons, List.map_nil, String.append_assoc]
  simp only [String.reduceAppend]
  simp only [String.join_cons, String.join_nil, String.append_assoc]

theorem brokenLines_flatMap_argumentLines (arguments : List String) :
    brokenLines (arguments.flatMap argumentLines) = String.join (arguments.map bindingLines) := by
  induction arguments with
  | nil => rfl
  | cons name rest inductionHypothesis =>
      rw [List.flatMap_cons, brokenLines_append, inductionHypothesis,
        brokenLines_argumentLines, List.map_cons, String.join_cons]

section Text

variable (invocation : Invocation) (methodName callName : String) (arguments : List String)

theorem brokenLines_openingLines :
    brokenLines (openingLines invocation) =
      String.join
        ["            const client = ", invocation.clientFactory,
         "((params as \x7b accountId: string \x7d).accountId);\n",
         "            try \x7b\n"] := by
  unfold brokenLines openingLines
  simp only [List.map_cons, List.map_nil, String.append_assoc]
  simp only [String.reduceAppend]
  simp only [String.join_cons, String.join_nil, String.append_assoc]

theorem brokenLines_unary :
    brokenLines (callLine callName arguments false :: packingLines methodName false) =
      unaryCallLines methodName callName arguments := by
  simp only [packingLines, Bool.false_eq_true, if_false, callLine, resultLines]
  unfold brokenLines unaryCallLines callText
  simp only [List.map_cons, List.map_nil, List.cons_append, List.nil_append,
    String.append_assoc]
  simp only [String.reduceAppend]
  simp only [String.join_cons, String.join_nil, String.append_assoc]

theorem brokenLines_streamList :
    brokenLines (resultLines methodName "" ++
        callLine callName arguments true :: packingLines methodName true) =
      streamCallLines methodName callName arguments := by
  have pushed :
      pushLine ++ "\n" =
        "                    result.content.push(\x7b type: \"text\", " ++
          "text: JSON.stringify(item) \x7d);\n" := by
    unfold pushLine
    simp only [String.reduceAppend]
  simp only [packingLines, if_true, callLine, resultLines]
  unfold brokenLines streamCallLines callText
  simp only [List.map_cons, List.map_nil, List.cons_append, List.nil_append,
    String.append_assoc]
  simp only [String.reduceAppend]
  rw [pushed]
  simp only [String.join_cons, String.join_nil, String.append_assoc]

theorem brokenLines_release :
    brokenLines
        ["            \x7d finally \x7b",
         "                client." ++ invocation.clientCloseMethod ++ "();"] =
      String.join
        ["            \x7d finally \x7b\n",
         "                client.", invocation.clientCloseMethod, "();\n"] := by
  unfold brokenLines
  simp only [List.map_cons, List.map_nil, String.append_assoc]
  simp only [String.reduceAppend]
  simp only [String.join_cons, String.join_nil, String.append_assoc]

/-- The pieces that a text is rendered in are its lines. -/
theorem executeLines_eq (isStreamList : Bool) :
    executeLines invocation methodName callName arguments isStreamList =
      Text.joinWith "\n" (bodyLines invocation methodName callName arguments isStreamList) := by
  have lastApart :
      bodyLines invocation methodName callName arguments isStreamList =
        openingLines invocation ++ (arguments.flatMap argumentLines ++
          (((if isStreamList then resultLines methodName "" else []) ++
            callLine callName arguments isStreamList :: packingLines methodName isStreamList) ++
          ["            \x7d finally \x7b",
           "                client." ++ invocation.clientCloseMethod ++ "();"])) ++
        ["            \x7d"] := by
    simp only [bodyLines, linesBeforeCall, releaseLines, List.append_assoc, List.cons_append,
      List.nil_append]
  have call :
      brokenLines ((if isStreamList then resultLines methodName "" else []) ++
          callLine callName arguments isStreamList :: packingLines methodName isStreamList) =
        if isStreamList then streamCallLines methodName callName arguments
        else unaryCallLines methodName callName arguments := by
    cases isStreamList with
    | false => exact brokenLines_unary methodName callName arguments
    | true => exact brokenLines_streamList methodName callName arguments
  rw [lastApart, Text.joinWith_append_singleton, brokenLines_append, brokenLines_append,
    brokenLines_append, brokenLines_openingLines, brokenLines_flatMap_argumentLines, call,
    brokenLines_release, executeLines]
  simp only [executePieces, String.join_cons, String.join_nil, String.append_assoc,
    String.empty_append]

theorem releaseLines_suffix (isStreamList : Bool) :
    releaseLines invocation <:+
      bodyLines invocation methodName callName arguments isStreamList := by
  rw [bodyLines, ← List.cons_append, ← List.append_assoc]
  exact List.suffix_append _ _

/-- A body ends in its last brace. -/
theorem brace_suffix_executeLines (isStreamList : Bool) :
    ['\x7d'] <:+ (executeLines invocation methodName callName arguments isStreamList).toList := by
  have lastLine : "            \x7d".toList = List.replicate 12 ' ' ++ ['\x7d'] := by decide
  rw [executeLines, String.toList_append, lastLine, ← List.append_assoc]
  exact List.suffix_append _ _

/-- Behind the last brace of a body there is no white space. -/
theorem trimEnd_executeLines (isStreamList : Bool) :
    Text.trimEnd (executeLines invocation methodName callName arguments isStreamList) =
      executeLines invocation methodName callName arguments isStreamList := by
  obtain ⟨front, whole⟩ :=
    brace_suffix_executeLines invocation methodName callName arguments isStreamList
  apply String.toList_injective
  rw [Text.toList_trimEnd, Text.dropBlanksEnd_eq_self_iff, ← whole]
  intro last isLast
  rw [List.getLast?_concat, Option.some.injEq] at isLast
  subst isLast
  decide

end Text

/-! ### Bound once -/

/-- Between fixed texts a text that is written twice can be told. -/
theorem eq_of_written_twice {first second front between back : String}
    (same : front ++ first ++ between ++ first ++ back =
      front ++ second ++ between ++ second ++ back) :
    first = second := by
  have spelled := congrArg String.toList same
  simp only [String.toList_append, List.append_assoc, List.append_cancel_left_eq] at spelled
  have lengths : first.toList.length = second.toList.length := by
    have counted := congrArg List.length spelled
    simp only [List.length_append] at counted
    omega
  exact String.toList_injective (List.append_inj_left spelled lengths)

/-- The line that binds an argument tells which one it binds. -/
theorem bindingLine_injective : Function.Injective bindingLine :=
  fun _ _ same => eq_of_written_twice same

/-- The character that a line has behind sixteen others. -/
def markOf (line : String) : Option Char :=
  line.toList[16]?

theorem markOf_append {front : String} (long : 16 < front.toList.length) (back : String) :
    markOf (front ++ back) = markOf front := by
  rw [markOf, String.toList_append, List.getElem?_append_left long, markOf]

theorem markOf_bindingLine (name : String) : markOf (bindingLine name) = some 'c' := by
  unfold bindingLine
  simp only [String.append_assoc]
  rw [markOf_append (by decide)]
  decide

/-- A line that has another character there binds nothing. -/
theorem bindingLine_ne {name line : String} (mark : markOf line ≠ some 'c') :
    bindingLine name ≠ line := by
  rintro rfl
  exact mark (markOf_bindingLine name)

theorem getLast?_bindingLine (name : String) :
    (bindingLine name).toList.getLast? = some ';' := by
  unfold bindingLine
  rw [String.toList_append]
  exact List.getLast?_concat

section BoundOnce

variable (invocation : Invocation) (methodName name : String) (arguments : List String)

theorem bindingLine_not_mem_openingLines : bindingLine name ∉ openingLines invocation := by
  intro listed
  rcases List.mem_cons.mp listed with same | listed
  · refine bindingLine_ne ?_ same
    rw [String.append_assoc, markOf_append (by decide)]
    decide
  · exact bindingLine_ne (by decide) (List.mem_singleton.mp listed)

/-- Only the first of these lines starts as a binding does, and it ends otherwise. -/
theorem bindingLine_not_mem_resultLines : bindingLine name ∉ resultLines methodName "" := by
  intro listed
  rcases List.mem_cons.mp listed with same | listed
  · have last := getLast?_bindingLine name
    rw [same] at last
    exact absurd last (by decide)
  rcases List.mem_cons.mp listed with same | listed
  · exact bindingLine_ne (by decide) same
  rcases List.mem_cons.mp listed with same | listed
  · refine bindingLine_ne ?_ same
    rw [String.append_assoc, markOf_append (by decide)]
    decide
  · exact bindingLine_ne (by decide) (List.mem_singleton.mp listed)

theorem count_argumentLines (argument : String) :
    (argumentLines argument).count (bindingLine name) = [argument].count name := by
  have comment : "                // @ts-ignore" ≠ bindingLine name :=
    (bindingLine_ne (by decide)).symm
  rw [argumentLines, List.count_cons_of_ne comment, List.count_singleton, List.count_singleton]
  simp only [beq_iff_eq, bindingLine_injective.eq_iff]

theorem count_flatMap_argumentLines :
    (arguments.flatMap argumentLines).count (bindingLine name) = arguments.count name := by
  induction arguments with
  | nil => rfl
  | cons argument rest inductionHypothesis =>
      rw [List.flatMap_cons, List.count_append, inductionHypothesis, count_argumentLines,
        ← List.count_append, List.singleton_append]

/-- Before the call every argument is bound as often as it is listed. -/
theorem count_linesBeforeCall (isStreamList : Bool) :
    (linesBeforeCall invocation methodName arguments isStreamList).count (bindingLine name) =
      arguments.count name := by
  have opening := List.count_eq_zero.mpr (bindingLine_not_mem_openingLines invocation name)
  have result :
      (if isStreamList then resultLines methodName "" else []).count (bindingLine name) = 0 := by
    cases isStreamList with
    | false => rfl
    | true => exact List.count_eq_zero.mpr (bindingLine_not_mem_resultLines methodName name)
  rw [linesBeforeCall, List.count_append, List.count_append, opening, result,
    count_flatMap_argumentLines, Nat.zero_add, Nat.add_zero]

end BoundOnce

/-! ### What a body is -/

/-- A body as it is written: line by line, with every argument bound before the call and the
client released behind it. -/
structure WrittenBody (invocation : Invocation) (method : Method) (callName : String)
    (isStreamList : Bool) (body : String) : Prop where
  /-- The text is made of the lines, in their order. -/
  lines :
    body = Text.joinWith "\n" (bodyLines invocation method.name callName
      (method.inputFields.map (·.propertyName)) isStreamList)
  /-- No white space stands behind the text. -/
  trimmed : Text.trimEnd body = body
  brace : ['\x7d'] <:+ body.toList
  /-- The lines up to the call bind a name as often as a field of the request has it. -/
  bound :
    ∀ name,
      (linesBeforeCall invocation method.name (method.inputFields.map (·.propertyName))
        isStreamList).count (bindingLine name) =
          (method.inputFields.map (·.propertyName)).count name
  /-- The last lines release the client, for either call. -/
  released :
    releaseLines invocation <:+ bodyLines invocation method.name callName
      (method.inputFields.map (·.propertyName)) isStreamList

/-- A method has a body exactly if its form is one of the two that are called, and the body is
the written one, whatever the names and the settings hold. -/
theorem bodyOf_eq_written (invocation : Invocation) (method : Method) (callName : String)
    (form : BodyForm) :
    ∃ body?, bodyOf TemplateStore.builtIn invocation method callName form = .ok body? ∧
      (body? = none ↔ form = .notYetSupported) ∧
      ∀ body, body? = some body →
        WrittenBody invocation method callName (form = .streamList) body := by
  have written (isStreamList : Bool) :
      WrittenBody invocation method callName isStreamList
        (executeLines invocation method.name callName method.argumentNames isStreamList) :=
    { lines := executeLines_eq invocation method.name callName method.argumentNames isStreamList
      trimmed :=
        trimEnd_executeLines invocation method.name callName method.argumentNames isStreamList
      brace :=
        brace_suffix_executeLines invocation method.name callName method.argumentNames
          isStreamList
      bound name :=
        count_linesBeforeCall invocation method.name name method.argumentNames isStreamList
      released :=
        releaseLines_suffix invocation method.name callName method.argumentNames isStreamList }
  refine ⟨_, bodyOf_builtIn invocation method callName form, ?_, ?_⟩
  · cases form <;> simp [plainBody?]
  · intro body found
    cases form with
    | unary =>
        obtain rfl := Option.some.inj found
        exact written false
    | streamList =>
        obtain rfl := Option.some.inj found
        exact written true
    | notYetSupported => exact absurd found (Option.some_ne_none body).symm

/-- Nothing stands between the parentheses of a call without arguments. -/
example : callText "getSet" [] = "getSet()" := by decide

end RpcTools
