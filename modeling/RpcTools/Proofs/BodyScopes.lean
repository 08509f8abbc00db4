/-
Module: RpcTools.Proofs.BodyScopes
Purpose: The scopes of what a tool executes, and which names of fields get between a use of a
  name and the declaration that is meant.
Main exports: Script.Code, Script.Code.Clean, bodyCode, clean_attempt_iff,
  BodyScopes, emitted_body_scopes
-/
import RpcTools.Proofs.EmittedTools
import RpcTools.Proofs.FieldSpelling

namespace RpcTools

/-! ### Code with scopes -/

namespace Script

/-- Code as far as it declares and uses names.  What else is written stays as it is. -/
inductive Code (Region : Type) where
  | done
  | text (written : String) (rest : Code Region)
  /-- A constant or parameter of the scope at hand. -/
  | declares (name : String) (rest : Code Region)
  /-- A use of a name, and the scope whose declaration is meant; without one, the name is
  that of the whole module or program. -/
  | uses (name : String) (meant : Option Region) (rest : Code Region)
  /-- Code in a scope of its own. -/
  | scope (region : Region) (inner rest : Code Region)

/-- A scope with the names that it declares. -/
structure Frame (Region : Type) where
  region : Region
  names : List String

variable {Region : Type}

/-- The innermost scope, of those around a use, that declares the name. -/
def binder? (frames : List (Frame Region)) (name : String) : Option Region :=
  (frames.find? fun frame => decide (name ∈ frame.names)).map (·.region)

@[simp] theorem binder?_nil (name : String) : binder? ([] : List (Frame Region)) name = none :=
  rfl

/-- A declaration hides those further out. -/
@[simp] theorem binder?_cons (region : Region) (names : List String)
    (frames : List (Frame Region)) (name : String) :
    binder? (⟨region, names⟩ :: frames) name =
      if name ∈ names then some region else binder? frames name := by
  by_cases declared : name ∈ names <;> simp [binder?, declared]

namespace Code

/-- The code as a text. -/
def source : Code Region → String
  | done => ""
  | text written rest => written ++ rest.source
  | declares name rest => name ++ rest.source
  | uses name _ rest => name ++ rest.source
  | scope _ inner rest => inner.source ++ rest.source

/-- The names that the scope at hand declares.  They are declared for the whole scope,
before and after the place at which they are. -/
def declared : Code Region → List String
  | done => []
  | text _ rest => rest.declared
  | declares name rest => name :: rest.declared
  | uses _ _ rest => rest.declared
  | scope _ _ rest => rest.declared

/-- No scope declares a name twice, and every use finds the declaration that is meant.  The
frames are those around the code, its own included. -/
def Clean (frames : List (Frame Region)) : Code Region → Prop
  | done => True
  | text _ rest => rest.Clean frames
  | declares _ rest => rest.Clean frames
  | uses name meant rest => binder? frames name = meant ∧ rest.Clean frames
  | scope region inner rest =>
      (inner.declared.Nodup ∧ inner.Clean (⟨region, inner.declared⟩ :: frames)) ∧
        rest.Clean frames

end Code

end Script

open Script (Code Frame binder?)

/-! ### What a tool executes -/

/-- The scopes of a tool's function. -/
inductive BodyRegion where
  /-- The parameters of the function. -/
  | parameters
  /-- The statements of the function. -/
  | statements
  /-- The statements that may fail. -/
  | attempt
  /-- The loop over a stream.  What is iterated belongs to it: it is evaluated where the name
  for the elements is already declared. -/
  | loop
  /-- The statements that are executed in any case. -/
  | release
deriving DecidableEq

/-- The scopes around the statements that may fail. -/
def bodyFrames : List (Frame BodyRegion) :=
  [⟨.statements, ["client"]⟩, ⟨.parameters, ["_id", "params"]⟩]

/-- Every argument is taken out of the parameters. -/
def bindingCode (names : List String) (rest : Code BodyRegion) : Code BodyRegion :=
  names.foldr
    (fun name later =>
      .text "                // @ts-ignore\n" <| .text "                const " <|
        .declares name <| .text " = " <| .uses "params" (some .parameters) <| .text "." <|
        .text name <| .text ";\n" later)
    rest

/-- The arguments of a call are the names that were bound. -/
def argumentCode : List String → Code BodyRegion → Code BodyRegion
  | [], rest => rest
  | [name], rest => .uses name (some .attempt) rest
  | name :: others, rest =>
      .uses name (some .attempt) <| .text ", " <| argumentCode others rest

/-- The call of the client's method. -/
def callCode (callName : String) (names : List String) (rest : Code BodyRegion) :
    Code BodyRegion :=
  .uses "client" (some .statements) <| .text "." <| .text callName <| .text "(" <|
    argumentCode names rest

/-- A value is packed as a text. -/
def packedCode (name : String) (region : BodyRegion) (rest : Code BodyRegion) :
    Code BodyRegion :=
  .text "\x7b type: \"text\", text: " <| .uses "JSON" none <| .text ".stringify(" <|
    .uses name (some region) <| .text ") \x7d" rest

/-- What a result has behind its content. -/
def detailsCode (methodName : String) (rest : Code BodyRegion) : Code BodyRegion :=
  .text "],\n" <| .text "                    details: \"Result of " <| .text methodName <|
    .text " method.\",\n" <| .text "                \x7d;\n" rest

/-- The declaration of a result, up to its content. -/
def resultCode (content : Code BodyRegion) : Code BodyRegion :=
  .text "                const " <| .declares "result" <|
    .text ": \x7b content: any[]; details: string \x7d = \x7b\n" <|
    .text "                    content: [" content

/-- The result is given back. -/
def returnCode : Code BodyRegion :=
  .text "                return " <| .uses "result" (some .attempt) <| .text ";\n" .done

/-- One call is awaited, and its result packed. -/
def unaryCode (methodName callName : String) (names : List String) : Code BodyRegion :=
  .text "                const " <| .declares "ret" <| .text " = await " <|
    callCode callName names <| .text ");\n" <|
    resultCode <| packedCode "ret" .attempt <| detailsCode methodName returnCode

/-- The elements of a stream, one after the other, are added to the result. -/
def loopCode (callName : String) (names : List String) : Code BodyRegion :=
  .text "const " <| .declares "item" <| .text " of " <| callCode callName names <|
    .text ")) \x7b\n" <| .text "                    " <| .uses "result" (some .attempt) <|
    .text ".content.push(" <| packedCode "item" .loop <| .text ");\n" <|
    .text "                \x7d\n" .done

/-- The stream is iterated into a result. -/
def streamCode (methodName callName : String) (names : List String) : Code BodyRegion :=
  resultCode <| detailsCode methodName <|
    .text "                for await (" <| .scope .loop (loopCode callName names) returnCode

/-- The statements that may fail. -/
def attemptCode (methodName callName : String) (names : List String) (isStreamList : Bool) :
    Code BodyRegion :=
  bindingCode names <|
    if isStreamList then streamCode methodName callName names
    else unaryCode methodName callName names

/-- The statements that release the client. -/
def releaseCode (invocation : Invocation) : Code BodyRegion :=
  .text "                " <| .uses "client" (some .statements) <| .text "." <|
    .text invocation.clientCloseMethod <| .text "();\n" .done

/-- All that a tool executes. -/
def bodyCode (invocation : Invocation) (methodName callName : String) (names : List String)
    (isStreamList : Bool) : Code BodyRegion :=
  .text "            const " <| .declares "client" <| .text " = " <|
    .uses invocation.clientFactory none <| .text "((" <| .uses "params" (some .parameters) <|
    .text " as \x7b accountId: string \x7d).accountId);\n" <|
    .text "            try \x7b\n" <|
    .scope .attempt (attemptCode methodName callName names isStreamList) <|
    .text "            \x7d finally \x7b\n" <| .scope .release (releaseCode invocation) <|
    .text "            \x7d" .done

/-! ### The text of the code -/

section Source

-- The equations are derived here once, not by each of the proofs below that rewrite with them.
attribute [local simp] Code.source

variable (invocation : Invocation) (methodName callName : String) (names : List String)

theorem source_bindingCode (rest : Code BodyRegion) :
    (bindingCode names rest).source = String.join (names.map bindingLines) ++ rest.source := by
  have parameter : " = params." = " = " ++ "params" ++ "." := by
    simp only [String.reduceAppend]
  induction names with
  | nil => simp [bindingCode]
  | cons name others inductionHypothesis =>
      unfold bindingCode at inductionHypothesis ⊢
      simp only [List.foldr_cons, Code.source, inductionHypothesis, List.map_cons]
      unfold bindingLines
      rw [parameter]
      simp only [String.join_cons, String.join_nil, String.append_assoc, String.empty_append]

theorem source_argumentCode (rest : Code BodyRegion) :
    (argumentCode names rest).source = Text.joinWith ", " names ++ rest.source := by
  induction names with
  | nil => simp [argumentCode, Text.joinWith]
  | cons name others inductionHypothesis =>
      cases others with
      | nil => simp [argumentCode, Text.joinWith, Code.source]
      | cons next later =>
          simp only [argumentCode, Code.source, inductionHypothesis, Text.joinWith,
            String.append_assoc]

theorem source_callCode (rest : Code BodyRegion) :
    (callCode callName names rest).source =
      "client" ++ ("." ++ (callName ++ ("(" ++ (Text.joinWith ", " names ++ rest.source)))) := by
  simp only [callCode, Code.source, source_argumentCode]

theorem source_packedCode (name : String) (region : BodyRegion) (rest : Code BodyRegion) :
    (packedCode name region rest).source =
      "\x7b type: \"text\", text: JSON.stringify(" ++ (name ++ (") \x7d" ++ rest.source)) := by
  have start :
      "\x7b type: \"text\", text: JSON.stringify(" =
        "\x7b type: \"text\", text: " ++ "JSON" ++ ".stringify(" := by
    simp only [String.reduceAppend]
  rw [start]
  simp only [packedCode, Code.source, String.append_assoc]

theorem source_detailsCode (rest : Code BodyRegion) :
    (detailsCode methodName rest).source =
      "],\n" ++ ("                    details: \"Result of " ++ (methodName ++
        (" method.\",\n" ++ ("                \x7d;\n" ++ rest.source)))) := by
  simp only [detailsCode, Code.source]

theorem source_resultCode (content : Code BodyRegion) :
    (resultCode content).source =
      "                const result: \x7b content: any[]; details: string \x7d = \x7b\n" ++
        ("                    content: [" ++ content.source) := by
  have start :
      "                const result: \x7b content: any[]; details: string \x7d = \x7b\n" =
        "                const " ++ "result" ++
          ": \x7b content: any[]; details: string \x7d = \x7b\n" := by
    simp only [String.reduceAppend]
  rw [start]
  simp only [resultCode, Code.source, String.append_assoc]

theorem source_returnCode : returnCode.source = "                return result;\n" := by
  simp only [returnCode, Code.source, String.reduceAppend]

theorem source_unaryCode :
    (unaryCode methodName callName names).source =
      unaryCallLines methodName callName names := by
  have start :
      "                const ret = await client." =
        "                const " ++ "ret" ++ " = await " ++ "client" ++ "." := by
    simp only [String.reduceAppend]
  have content :
      "                    content: [\x7b type: \"text\", text: JSON.stringify(ret) \x7d],\n" =
        "                    content: [" ++ "\x7b type: \"text\", text: JSON.stringify(" ++
          "ret" ++ ") \x7d" ++ "],\n" := by
    simp only [String.reduceAppend]
  unfold unaryCode unaryCallLines
  rw [start, content]
  simp only [Code.source, source_callCode, source_resultCode, source_packedCode,
    source_detailsCode, source_returnCode, String.join_cons, String.join_nil,
    String.append_assoc, String.append_empty]

theorem source_loopCode :
    (loopCode callName names).source =
      String.join
        ["const item of client.", callName, "(", Text.joinWith ", " names, ")) \x7b\n",
         "                    result.content.push(\x7b type: \"text\", ",
         "text: JSON.stringify(item) \x7d);\n",
         "                \x7d\n"] := by
  have start : "const item of client." = "const " ++ "item" ++ " of " ++ "client" ++ "." := by
    simp only [String.reduceAppend]
  have pushed (rest : String) :
      "                    result.content.push(\x7b type: \"text\", " ++
          ("text: JSON.stringify(item) \x7d);\n" ++ rest) =
        "                    " ++ "result" ++ ".content.push(" ++
          "\x7b type: \"text\", text: JSON.stringify(" ++ "item" ++ ") \x7d" ++ ");\n" ++
          rest := by
    rw [← String.append_assoc]
    simp only [String.reduceAppend]
  rw [start]
  simp only [loopCode, Code.source, source_callCode, source_packedCode, String.join_cons,
    String.join_nil]
  rw [pushed]
  simp only [String.append_assoc]

theorem source_streamCode :
    (streamCode methodName callName names).source =
      streamCallLines methodName callName names := by
  have content :
      "                    content: [],\n" = "                    content: [" ++ "],\n" := by
    simp only [String.reduceAppend]
  have head :
      "                for await (const item of client." =
        "                for await (" ++ "const item of client." := by
    simp only [String.reduceAppend]
  unfold streamCode streamCallLines
  rw [content, head]
  simp only [Code.source, source_resultCode, source_detailsCode, source_loopCode,
    source_returnCode, String.join_cons, String.join_nil, String.append_assoc,
    String.append_empty]

theorem source_attemptCode (isStreamList : Bool) :
    (attemptCode methodName callName names isStreamList).source =
      String.join (names.map bindingLines) ++
        if isStreamList then streamCallLines methodName callName names
        else unaryCallLines methodName callName names := by
  rw [attemptCode, source_bindingCode]
  cases isStreamList with
  | false => exact congrArg (_ ++ ·) (source_unaryCode methodName callName names)
  | true => exact congrArg (_ ++ ·) (source_streamCode methodName callName names)

/-- The code is what a tool executes. -/
theorem source_bodyCode (isStreamList : Bool) :
    (bodyCode invocation methodName callName names isStreamList).source =
      executeLines invocation methodName callName names isStreamList := by
  have client : "            const client = " = "            const " ++ "client" ++ " = " := by
    simp only [String.reduceAppend]
  have account :
      "((params as \x7b accountId: string \x7d).accountId);\n" =
        "((" ++ "params" ++ " as \x7b accountId: string \x7d).accountId);\n" := by
    simp only [String.reduceAppend]
  have close : "                client." = "                " ++ "client" ++ "." := by
    simp only [String.reduceAppend]
  unfold executeLines executePieces
  rw [client, account, close]
  simp only [bodyCode, releaseCode, Code.source, source_attemptCode, String.join_cons,
    String.join_nil, String.append_assoc, String.append_empty]

end Source

/-! ### Names that are declared -/

section Declared

attribute [local simp] Code.declared

variable (methodName callName : String) (names : List String)

theorem declared_bindingCode (rest : Code BodyRegion) :
    (bindingCode names rest).declared = names ++ rest.declared := by
  induction names with
  | nil => rfl
  | cons name others inductionHypothesis =>
      exact congrArg (name :: ·) inductionHypothesis

theorem declared_argumentCode (rest : Code BodyRegion) :
    (argumentCode names rest).declared = rest.declared := by
  induction names with
  | nil => rfl
  | cons name others inductionHypothesis =>
      cases others with
      | nil => rfl
      | cons next later => exact inductionHypothesis

/-- The names that a body declares for itself, beside the arguments. -/
def ownNames (isStreamList : Bool) : List String :=
  if isStreamList then ["result"] else ["ret", "result"]

/-- The names of the arguments and the body's own stand in one scope. -/
theorem declared_attemptCode (isStreamList : Bool) :
    (attemptCode methodName callName names isStreamList).declared =
      names ++ ownNames isStreamList := by
  rw [attemptCode, declared_bindingCode]
  cases isStreamList with
  | false =>
      simp [unaryCode, callCode, resultCode, packedCode, detailsCode, returnCode,
        Code.declared, declared_argumentCode, ownNames]
  | true => simp [streamCode, resultCode, detailsCode, returnCode, Code.declared, ownNames]

theorem declared_loopCode : (loopCode callName names).declared = ["item"] := by
  simp [loopCode, callCode, packedCode, Code.declared, declared_argumentCode]

end Declared

/-! ### Names that are meant -/

section Meant

attribute [local simp] Code.Clean

variable {frames : List (Frame BodyRegion)} {names : List String} {rest : Code BodyRegion}

theorem clean_bindingCode_iff :
    (bindingCode names rest).Clean frames ↔
      (∀ name ∈ names, binder? frames "params" = some .parameters) ∧ rest.Clean frames := by
  induction names with
  | nil => simp [bindingCode]
  | cons name others inductionHypothesis =>
      unfold bindingCode at inductionHypothesis ⊢
      simp only [List.foldr_cons, Code.Clean, inductionHypothesis, List.forall_mem_cons,
        and_assoc]

theorem clean_argumentCode_iff :
    (argumentCode names rest).Clean frames ↔
      (∀ name ∈ names, binder? frames name = some .attempt) ∧ rest.Clean frames := by
  induction names with
  | nil => simp [argumentCode]
  | cons name others inductionHypothesis =>
      cases others with
      | nil => simp [argumentCode, Code.Clean]
      | cons next later =>
          simp only [argumentCode, Code.Clean, inductionHypothesis, List.forall_mem_cons,
            and_assoc]

theorem clean_callCode_iff {callName : String} :
    (callCode callName names rest).Clean frames ↔
      binder? frames "client" = some .statements ∧
        (∀ name ∈ names, binder? frames name = some .attempt) ∧ rest.Clean frames := by
  simp only [callCode, Code.Clean, clean_argumentCode_iff]

theorem clean_packedCode_iff {name : String} {region : BodyRegion} :
    (packedCode name region rest).Clean frames ↔
      binder? frames "JSON" = none ∧ binder? frames name = some region ∧ rest.Clean frames := by
  simp only [packedCode, Code.Clean]

theorem clean_returnCode_iff :
    returnCode.Clean frames ↔ binder? frames "result" = some .attempt := by
  simp only [returnCode, Code.Clean, and_true]

end Meant

/-! ### The statements that may fail -/

section Attempt

/-- The scopes around a statement that may fail. -/
def attemptFrames (names : List String) (isStreamList : Bool) : List (Frame BodyRegion) :=
  ⟨.attempt, names ++ ownNames isStreamList⟩ :: bodyFrames

variable (methodName callName : String) (names : List String) (isStreamList : Bool)

theorem binder?_argument {name : String} (member : name ∈ names) :
    binder? (attemptFrames names isStreamList) name = some .attempt := by
  simp [attemptFrames, member]

theorem binder?_result : binder? (attemptFrames names isStreamList) "result" = some .attempt := by
  cases isStreamList <;> simp [attemptFrames, ownNames]

/-- Only an argument can come between a use of a name from further out and its declaration. -/
theorem binder?_outer_iff {name : String} {meant : Option BodyRegion}
    (notOwn : name ∉ ownNames isStreamList) (found : binder? bodyFrames name = meant)
    (outside : meant ≠ some .attempt) :
    binder? (attemptFrames names isStreamList) name = meant ↔ name ∉ names := by
  simp only [attemptFrames, Script.binder?_cons, List.mem_append, or_iff_left notOwn, found]
  split
  next member => exact iff_of_false (Ne.symm outside) (not_not_intro member)
  next free => exact iff_of_true rfl free

theorem binder?_client_iff :
    binder? (attemptFrames names isStreamList) "client" = some .statements ↔
      "client" ∉ names :=
  binder?_outer_iff names isStreamList (by cases isStreamList <;> decide) rfl (by decide)

theorem binder?_params_iff :
    binder? (attemptFrames names isStreamList) "params" = some .parameters ↔
      "params" ∉ names :=
  binder?_outer_iff names isStreamList (by cases isStreamList <;> decide) rfl (by decide)

theorem binder?_json_iff :
    binder? (attemptFrames names isStreamList) "JSON" = none ↔ "JSON" ∉ names :=
  binder?_outer_iff names isStreamList (by cases isStreamList <;> decide) rfl (by decide)

theorem clean_unaryCode_iff :
    (unaryCode methodName callName names).Clean (attemptFrames names false) ↔
      "client" ∉ names ∧ "JSON" ∉ names := by
  have ret : binder? (attemptFrames names false) "ret" = some .attempt := by
    simp [attemptFrames, ownNames]
  simp only [unaryCode, resultCode, detailsCode, Code.Clean, clean_callCode_iff,
    clean_packedCode_iff, clean_returnCode_iff, binder?_client_iff, binder?_json_iff,
    binder?_result, ret, and_true]
  constructor
  · rintro ⟨client, _, json⟩
    exact ⟨client, json⟩
  · rintro ⟨client, json⟩
    exact ⟨client, fun name => binder?_argument names false, json⟩

/-- The scopes inside the loop over a stream. -/
def loopFrames (names : List String) : List (Frame BodyRegion) :=
  ⟨.loop, ["item"]⟩ :: attemptFrames names true

theorem binder?_loopFrames {name : String} (different : name ≠ "item") :
    binder? (loopFrames names) name = binder? (attemptFrames names true) name := by
  simp [loopFrames, different]

/-- The name for the elements is declared already where the arguments of the call are
evaluated, and hides an argument of that name. -/
theorem forall_binder?_loopFrames_iff :
    (∀ name ∈ names, binder? (loopFrames names) name = some .attempt) ↔ "item" ∉ names := by
  constructor
  · intro each member
    have hidden := each "item" member
    simp [loopFrames] at hidden
  · intro free name member
    have different : name ≠ "item" := by
      rintro rfl
      exact free member
    rw [binder?_loopFrames names different, binder?_argument names true member]

theorem clean_loopCode_iff :
    (loopCode callName names).Clean (loopFrames names) ↔
      "client" ∉ names ∧ "JSON" ∉ names ∧ "item" ∉ names := by
  have client : binder? (loopFrames names) "client" = some .statements ↔ "client" ∉ names := by
    rw [binder?_loopFrames names (by decide), binder?_client_iff]
  have json : binder? (loopFrames names) "JSON" = none ↔ "JSON" ∉ names := by
    rw [binder?_loopFrames names (by decide), binder?_json_iff]
  have result : binder? (loopFrames names) "result" = some .attempt := by
    rw [binder?_loopFrames names (by decide), binder?_result]
  have item : binder? (loopFrames names) "item" = some .loop := by simp [loopFrames]
  simp only [loopCode, Code.Clean, clean_callCode_iff, clean_packedCode_iff, client, json,
    result, item, forall_binder?_loopFrames_iff, and_true, true_and]
  rw [and_comm (a := "item" ∉ names)]

theorem clean_streamCode_iff :
    (streamCode methodName callName names).Clean (attemptFrames names true) ↔
      "client" ∉ names ∧ "JSON" ∉ names ∧ "item" ∉ names := by
  have once : ["item"].Nodup := List.nodup_singleton "item"
  have inner := clean_loopCode_iff callName names
  rw [loopFrames] at inner
  simp only [streamCode, resultCode, detailsCode, Code.Clean, clean_returnCode_iff,
    declared_loopCode, binder?_result, inner, once, and_true, true_and]

/-- Every argument finds the parameters, exactly if none has their name. -/
theorem forall_binder?_params_iff :
    (∀ name ∈ names, binder? (attemptFrames names isStreamList) "params" = some .parameters) ↔
      "params" ∉ names := by
  rw [binder?_params_iff]
  constructor
  · intro each member
    exact each "params" member member
  · intro free _ _
    exact free

/-- The words that a body uses as names, for either call. -/
def reliedOnWords (isStreamList : Bool) : List String :=
  ["client", "params", "result", if isStreamList then "item" else "ret"]

/-- The names that an argument must not have. -/
def reliedOn (isStreamList : Bool) : List String :=
  "JSON" :: reliedOnWords isStreamList

theorem forall_not_mem_reliedOn_iff :
    (∀ name ∈ names, name ∉ reliedOn isStreamList) ↔
      "JSON" ∉ names ∧ "client" ∉ names ∧ "params" ∉ names ∧ "result" ∉ names ∧
        (if isStreamList then "item" else "ret") ∉ names := by
  have swapped :
      (∀ name ∈ names, name ∉ reliedOn isStreamList) ↔
        ∀ word ∈ reliedOn isStreamList, word ∉ names :=
    ⟨fun apart word relied member => apart word member relied,
      fun apart name member relied => apart name relied member⟩
  rw [swapped, reliedOn, reliedOnWords]
  simp only [List.forall_mem_cons, List.not_mem_nil, false_implies, implies_true, and_true]

/-- Every name is declared once exactly if no argument has one of the body's own. -/
theorem nodup_append_ownNames_iff (distinct : names.Nodup) :
    (names ++ ownNames isStreamList).Nodup ↔ ∀ word ∈ ownNames isStreamList, word ∉ names := by
  have own : (ownNames isStreamList).Nodup := by cases isStreamList <;> decide
  rw [List.nodup_append_comm, List.nodup_append]
  constructor
  · rintro ⟨_, _, apart⟩ word isOwn member
    exact apart word isOwn word member rfl
  · intro apart
    refine ⟨own, distinct, fun word isOwn name member same => ?_⟩
    subst same
    exact apart word isOwn member

/-- The statements that may fail declare every name once, and mean what they say, exactly if
no argument has one of the names that they rely on. -/
theorem clean_attempt_iff (distinct : names.Nodup) :
    (Code.scope .attempt (attemptCode methodName callName names isStreamList) .done).Clean
        bodyFrames ↔
      ∀ name ∈ names, name ∉ reliedOn isStreamList := by
  have params := forall_binder?_params_iff names isStreamList
  have once := nodup_append_ownNames_iff names isStreamList distinct
  rw [forall_not_mem_reliedOn_iff]
  simp only [Code.Clean, and_true, declared_attemptCode, once]
  rw [← attemptFrames, attemptCode, clean_bindingCode_iff, params]
  cases isStreamList with
  | false =>
      have body := clean_unaryCode_iff methodName callName names
      simp only [Bool.false_eq_true, if_false, body, ownNames, List.forall_mem_cons,
        List.not_mem_nil, false_implies, implies_true, and_true]
      constructor
      · rintro ⟨⟨ret, result⟩, params, client, json⟩
        exact ⟨json, client, params, result, ret⟩
      · rintro ⟨json, client, params, result, ret⟩
        exact ⟨⟨ret, result⟩, params, client, json⟩
  | true =>
      have body := clean_streamCode_iff methodName callName names
      simp only [if_true, body, ownNames, List.forall_mem_cons,
        List.not_mem_nil, false_implies, implies_true, and_true]
      constructor
      · rintro ⟨result, params, client, json, item⟩
        exact ⟨json, client, params, result, item⟩
      · rintro ⟨json, client, params, result, item⟩
        exact ⟨result, params, client, json, item⟩

end Attempt

/-- The client that is released is the one that was got, whatever the arguments are. -/
theorem clean_release (invocation : Invocation) :
    (Code.scope .release (releaseCode invocation) .done).Clean bodyFrames := by
  simp [releaseCode, Code.Clean, Code.declared, bodyFrames]

/-! ### Emitted tools -/

section Emitted

variable {descriptors : List Descriptor.File} {files : List ProtoFile} {generator : Generator}
  {service : Service} {method : Method} {tool : Tool} {generated : GeneratedModule}

theorem not_mem_reliedOn_iff {declared : String} {isStreamList : Bool} :
    propertyName declared ∉ reliedOn isStreamList ↔
      propertyName declared ≠ "JSON" ∧
        ∀ word ∈ reliedOnWords isStreamList, ¬ Trailed word declared := by
  have plain : ∀ word ∈ reliedOnWords isStreamList,
      word.toList.all Char.isLower = true ∧ word ∉ objectProperties := by
    cases isStreamList <;> decide
  have words :
      propertyName declared ∉ reliedOnWords isStreamList ↔
        ∀ word ∈ reliedOnWords isStreamList, ¬ Trailed word declared := by
    rw [← List.forall_mem_ne']
    apply forall₂_congr
    intro word relied
    obtain ⟨small, free⟩ := plain word relied
    rw [eq_comm, propertyName_eq_word_iff (List.all_eq_true.1 small) free]
  rw [reliedOn, List.mem_cons, not_or, words]

/-- What the body of a tool means, as far as its names go. -/
structure BodyScopes (invocation : Invocation) (method : Method) (message : Descriptor.Message)
    (tool : Tool) : Prop where
  text : tool.body =
    (bodyCode invocation method.name tool.name method.argumentNames
      (CallPattern.ofMethod method).isPureList).source
  /-- The client that is released is the one that was got, whatever the fields are. -/
  released : (Code.scope .release (releaseCode invocation) .done).Clean bodyFrames
  /-- Where something may fail, every scope declares its names once and every use finds what
  is meant, exactly if no field is declared as a word that the body relies on. -/
  clean_iff :
    (Code.scope .attempt (attemptCode method.name tool.name method.argumentNames
        (CallPattern.ofMethod method).isPureList) .done).Clean bodyFrames ↔
      ∀ described ∈ message.fields, propertyName described.name ≠ "JSON" ∧
        ∀ word ∈ reliedOnWords (CallPattern.ofMethod method).isPureList,
          ¬ Trailed word described.name

/-- The fields that a method's message is declared with decide whether the body of its tool
means what it says. -/
theorem emitted_body_scopes (read : ReadFrom descriptors files)
    (emits : generator.Emits files service method tool generated)
    (distinct : method.argumentNames.Nodup) :
    ∃ (pool : Pool) (message : Descriptor.Message),
      pool.files = descriptors ∧ pool.Receives service method message ∧
        BodyScopes generator.config.invocation method message tool := by
  obtain ⟨pool, message, whole, receives⟩ := emits.exists_receives read
  refine ⟨pool, message, whole, receives, ?_, clean_release _, ?_⟩
  · rw [emits.body_eq, source_bodyCode]
  · rw [clean_attempt_iff _ _ _ _ distinct, Method.argumentNames, List.forall_mem_map,
      receives.forall_inputFields_iff
        fun name _ => name ∉ reliedOn (CallPattern.ofMethod method).isPureList]
    simp only [not_mem_reliedOn_iff]

theorem emitted_body_scopes_setId :
    ReadFrom (onlyScalarFiles "set_id" .string) [askedFile (onlyScalar "setId" .string)] ∧
      smallGenerator.Emits [askedFile (onlyScalar "setId" .string)]
        (askedService (onlyScalar "setId" .string)) (askedMethod (onlyScalar "setId" .string))
        (askedTool (onlyScalar "setId" .string) [⟨"setId", .string⟩])
        (smallGenerator.madeOf (some (askedFile (onlyScalar "setId" .string)))) ∧
      (askedMethod (onlyScalar "setId" .string)).argumentNames.Nodup ∧
      ∃ (pool : Pool) (message : Descriptor.Message),
        pool.files = onlyScalarFiles "set_id" .string ∧
          pool.Receives (askedService (onlyScalar "setId" .string))
            (askedMethod (onlyScalar "setId" .string)) message ∧
          BodyScopes smallGenerator.config.invocation
            (askedMethod (onlyScalar "setId" .string)) message
            (askedTool (onlyScalar "setId" .string) [⟨"setId", .string⟩]) := by
  have distinct : (askedMethod (onlyScalar "setId" .string)).argumentNames.Nodup := by decide
  exact ⟨readFrom_setId, emits_onlyScalar "setId" .string, distinct,
    emitted_body_scopes readFrom_setId (emits_onlyScalar "setId" .string) distinct⟩

/-- A field that is declared as `client` is bound between the client and its use: the call
goes to the field's value. -/
theorem client_field_hides_client :
    ReadFrom (onlyScalarFiles "client" .string) [askedFile (onlyScalar "client" .string)] ∧
      smallGenerator.Emits [askedFile (onlyScalar "client" .string)]
        (askedService (onlyScalar "client" .string)) (askedMethod (onlyScalar "client" .string))
        (askedTool (onlyScalar "client" .string) [⟨"client", .string⟩])
        (smallGenerator.madeOf (some (askedFile (onlyScalar "client" .string)))) ∧
      (askedMethod (onlyScalar "client" .string)).argumentNames.Nodup ∧
      (askedTool (onlyScalar "client" .string) [⟨"client", .string⟩]).body =
        (bodyCode smallGenerator.config.invocation "Get" "get" ["client"] false).source ∧
      "client" ∈ (askedMethod (onlyScalar "client" .string)).argumentNames ∧
      binder? (attemptFrames ["client"] false) "client" = some .attempt ∧
      ¬ (Code.scope .attempt (attemptCode "Get" "get" ["client"] false) .done).Clean
        bodyFrames := by
  refine ⟨.request rfl (by decide +kernel), emits_onlyScalar "client" .string, by decide, ?_,
    by decide, by decide, ?_⟩
  · rw [source_bodyCode]
    rfl
  · rw [clean_attempt_iff _ _ _ _ (by decide)]
    decide

end Emitted

end RpcTools
