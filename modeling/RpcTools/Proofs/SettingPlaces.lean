/-
Module: RpcTools.Proofs.SettingPlaces
Purpose: The places of the settings in the head of a module: which settings are read there
  as what they are, and which break out.
Main exports: preambleSpots, Generator.SettingsRead, Generator.settings_read
-/
import RpcTools.Proofs.GenerationRun
import RpcTools.Proofs.ScriptText

namespace RpcTools

open Script (Spot Token Reads textOf endsLine isCode)

/-! ### The head of a module -/

/-- The import of names from a module. -/
def importSpots (names : List String) (source : String) : List Spot :=
  .code "import \x7b " :: names.map .code ++ [.code " \x7d from ", .literal source, .code ";\n"]

/-- What stands between the two comments of the head. -/
def openingSpots (invocation : Invocation) : List Spot :=
  .code "\n" ::
  (importSpots [invocation.runtimeAccessor] invocation.runtimeImport ++
  importSpots [invocation.resolvedAccountType, ", ", invocation.accountResolver]
    invocation.accountsImport ++
  importSpots [invocation.configType] invocation.typesImport ++
  importSpots
    (invocation.clientType ::
      invocation.clientNamespaces.map fun namespaceName => ", " ++ namespaceName)
    invocation.clientPackage ++
  importSpots ["Type"] invocation.schemaPackage ++
  [.code "\n", .code "function ", .code invocation.clientFactory, .code "(accountId: string): ",
   .code invocation.clientType, .code " \x7b\n",
   .code "    const runtime = ", .code invocation.runtimeAccessor, .code "();\n",
   .code "    const config = runtime.config.loadConfig();\n", .code "\n", .code "    "])

/-- The comment of the head that has no setting in it. -/
def fallbackComment : String :=
  " fall back to the default account when this one is unconfigured or incomplete"

/-- What stands after that comment. -/
def closingSpots (invocation : Invocation) : List Spot :=
  [.code "\n", .code "    let account: ", .code invocation.resolvedAccountType, .code " = ",
   .code invocation.accountResolver, .code "(\x7b cfg: config as ",
   .code invocation.configType, .code ", accountId \x7d);\n",
   .code "    if (!account || !account.", .code invocation.serverUrlField,
   .code " || !account.", .code invocation.clientKeyField, .code ") \x7b\n",
   .code "        account = ", .code invocation.accountResolver,
   .code "(\x7b cfg: config as ", .code invocation.configType, .code ", accountId: ",
   .literal invocation.defaultAccountId, .code " \x7d);\n",
   .code "    \x7d\n", .code "    return new ", .code invocation.clientType,
   .code "(\x7b clientKey: account.", .code invocation.clientKeyField,
   .code ", serverUrl: account.", .code invocation.serverUrlField,
   .code " \x7d);\n", .code "\x7d\n", .code "\n"]

/-- The head of a module, spot by spot. -/
def preambleSpots (config : Config) : List Spot :=
  .comment (" " ++ config.fileHeader) ::
    (openingSpots config.invocation ++
      .comment fallbackComment :: closingSpots config.invocation)

/-- The spots make up the head. -/
theorem textOf_preambleSpots (config : Config) :
    textOf (preambleSpots config) = String.join (preamblePieces config) := by
  -- the pieces of the head that a spot of another kind begins or ends in
  have header : "// " = "//" ++ " " := by decide
  have opens : " \x7d from \"" = " \x7d from " ++ "\"" := by decide
  have closes : "\";\n" = "\"" ++ ";\n" := by decide
  have builder : "import \x7b Type \x7d from \"" =
      "import \x7b " ++ ("Type" ++ (" \x7d from " ++ "\"")) := by decide
  have fallback :
      "    // fall back to the default account when this one is unconfigured or incomplete\n" =
        "    " ++ ("//" ++ (fallbackComment ++ "\n")) := by decide +kernel
  have opensValue : ", accountId: \"" = ", accountId: " ++ "\"" := by decide
  have closesValue : "\" \x7d);\n" = "\"" ++ " \x7d);\n" := by decide
  have namespaces : (Spot.source ∘ Spot.code ∘ fun namespaceName => ", " ++ namespaceName) =
      fun namespaceName => ", " ++ namespaceName := rfl
  simp only [textOf, preambleSpots, openingSpots, closingSpots, importSpots, preamblePieces,
    header, opens, closes, builder, fallback, opensValue, closesValue, namespaces,
    List.map_cons, List.map_append, List.map_map, List.map_nil, List.cons_append,
    List.nil_append, List.append_assoc, Spot.source, String.join_cons, String.join_append,
    String.join_nil, String.append_assoc, String.append_empty]

/-- The value between quotes, if the spot is one. -/
def literalValue? : Spot → Option String
  | .literal value => some value
  | .code _ | .comment _ => none

theorem filterMap_importSpots (names : List String) (source : String) :
    (importSpots names source).filterMap literalValue? = [source] := by
  have none : (names.map Spot.code).filterMap literalValue? = [] := by
    rw [List.filterMap_map, List.filterMap_eq_nil_iff]
    intro name _
    rfl
  rw [importSpots, List.filterMap_append, List.filterMap_cons_none rfl, none]
  rfl

/-- The head has one spot for every setting that is put between quotes, in their order. -/
theorem filterMap_preambleSpots (config : Config) :
    (preambleSpots config).filterMap literalValue? =
      config.invocation.literals.map (·.2) := by
  rw [preambleSpots, List.filterMap_cons_none rfl, List.filterMap_append, openingSpots,
    List.filterMap_cons_none rfl]
  simp only [List.filterMap_append, filterMap_importSpots]
  rfl

/-! ### What a valid configuration is made of -/

/-- What the conditions on a configuration come to for the settings in the head. -/
structure Config.SettingsValid (config : Config) : Prop where
  header : '\n' ∉ config.fileHeader.toList
  identifiers : ∀ entry ∈ config.invocation.identifiers, isIdentifier entry.2 = true
  namespaces : ∀ name ∈ config.invocation.clientNamespaces, isIdentifier name = true
  literals : ∀ entry ∈ config.invocation.literals,
    '"' ∉ entry.2.toList ∧ '\n' ∉ entry.2.toList

theorem Config.settingsValid {config : Config} (valid : config.faults = []) :
    config.SettingsValid := by
  simp only [faults, Invocation.faults, identifierFaults, literalFaults,
    List.append_eq_nil_iff, List.flatMap_eq_nil_iff, violation_eq_nil_iff,
    Bool.not_eq_false'] at valid
  obtain ⟨⟨⟨_, header⟩, _⟩, ⟨identifiers, namespaces⟩, literals⟩ := valid
  refine ⟨by simpa using header, identifiers, namespaces, ?_⟩
  intro entry member
  have clean := (literals entry member).2
  simp only [List.any_eq_false, Bool.or_eq_true, decide_eq_true_eq, not_or] at clean
  constructor
  · intro quote
    exact (clean _ quote).1 rfl
  · intro lineFeed
    exact (clean _ lineFeed).2 rfl

/-! ### Code -/

theorem isCode_of_isIdentifierPart {character : Char}
    (part : isIdentifierPart character = true) : isCode character = true := by
  by_contra special
  have starts : character = '/' ∨ character = '\\' ∨ character = '"' ∨
      character = '\x27' ∨ character = '\x60' := by
    simp only [isCode, Bool.and_eq_true, decide_eq_true_eq, not_and_or, not_not] at special
    tauto
  rcases starts with rfl | rfl | rfl | rfl | rfl <;> cases part

theorem isIdentifierPart_of_isIdentifierStart {character : Char}
    (start : isIdentifierStart character = true) : isIdentifierPart character = true := by
  simp only [isIdentifierStart, isIdentifierPart, Char.isAlphanum, Bool.or_eq_true] at start ⊢
  tauto

theorem all_isCode_of_isIdentifier {name : String} (identifier : isIdentifier name = true) :
    name.toList.all isCode = true := by
  rw [isIdentifier] at identifier
  split at identifier
  · cases identifier
  · next first rest split =>
      rw [Bool.and_eq_true, List.all_eq_true] at identifier
      rw [split, List.all_cons, Bool.and_eq_true, List.all_eq_true]
      constructor
      · exact isCode_of_isIdentifierPart (isIdentifierPart_of_isIdentifierStart identifier.1)
      · intro character member
        exact isCode_of_isIdentifierPart (identifier.2 character member)

/-- Whether what is meant as code is code throughout. -/
def codeThroughout : Spot → Bool
  | .code text => text.toList.all isCode
  | .comment _ | .literal _ => true

theorem all_codeThroughout_importSpots {names : List String} {source : String}
    (plain : names.all (·.toList.all isCode) = true) :
    (importSpots names source).all codeThroughout = true := by
  have inside : (names.map Spot.code).all codeThroughout = true := by
    rw [List.all_map]
    exact plain
  simp only [importSpots, List.all_append, List.all_cons, inside, codeThroughout]
  decide

/-- The identifiers of a valid configuration are code, and so is what the head has around
them. -/
theorem all_codeThroughout_preambleSpots {config : Config} (valid : config.SettingsValid) :
    (preambleSpots config).all codeThroughout = true := by
  have names : ∀ entry ∈ config.invocation.identifiers, entry.2.toList.all isCode = true :=
    fun entry member => all_isCode_of_isIdentifier (valid.identifiers entry member)
  have namespaces : (config.invocation.clientNamespaces.map (", " ++ ·)).all
      (·.toList.all isCode) = true := by
    rw [List.all_map, List.all_eq_true]
    intro name member
    have plain := all_isCode_of_isIdentifier (valid.namespaces name member)
    rw [Function.comp_apply, String.toList_append, List.all_append, plain]
    decide
  have comma : ", ".toList.all isCode = true := by decide
  have builder : "Type".toList.all isCode = true := by decide
  simp only [Invocation.identifiers, List.forall_mem_cons] at names
  simp only [preambleSpots, openingSpots, closingSpots, List.all_append, List.all_cons,
    List.all_nil, codeThroughout, all_codeThroughout_importSpots, names, namespaces, comma,
    builder, Bool.and_self]
  decide +kernel

/-! ### Settings in their places -/

/-- A header that has no end of a line. -/
def Config.HeaderStays (config : Config) : Prop :=
  ∀ character ∈ config.fileHeader.toList,
    character ≠ '\r' ∧ character ≠ '\u2028' ∧ character ≠ '\u2029'

/-- A value that a quote closes and that denotes itself. -/
def ValueStays (value : String) : Prop :=
  '\\' ∉ value.toList ∧ '\r' ∉ value.toList

theorem mem_literals_of_split {config : Config} {before after : List Spot} {value : String}
    (split : preambleSpots config = before ++ .literal value :: after) :
    ∃ entry ∈ config.invocation.literals, entry.2 = value := by
  have member : value ∈ (preambleSpots config).filterMap literalValue? := by
    rw [split]
    exact List.mem_filterMap.2 ⟨.literal value, by simp, rfl⟩
  rw [filterMap_preambleSpots] at member
  exact List.mem_map.1 member

/-- In a valid configuration only backslashes and carriage returns can keep a value from
standing for itself. -/
theorem literal_iff_valueStays {value : String}
    (clean : '"' ∉ value.toList ∧ '\n' ∉ value.toList) :
    Script.Literal value.toList ↔ ValueStays value := by
  constructor
  · intro literal
    constructor
    · intro backslash
      exact (literal _ backslash).2.1 rfl
    · intro carriageReturn
      exact (literal _ carriageReturn).2.2.2 rfl
  · intro stays character member
    refine ⟨?_, ?_, ?_, ?_⟩
    · rintro rfl
      exact clean.1 member
    · rintro rfl
      exact stays.1 member
    · rintro rfl
      exact clean.2 member
    · rintro rfl
      exact stays.2 member

theorem endsLine_fallbackComment :
    ∀ character ∈ fallbackComment.toList, endsLine character = false := by
  have goesOn : fallbackComment.toList.all Script.goesOn = true := by decide +kernel
  intro character member
  have here := List.all_eq_true.1 goesOn character member
  rwa [Script.goesOn, Bool.not_eq_true'] at here

section Valid

variable {config : Config} (valid : config.SettingsValid)

include valid

theorem staysIn_literal_of_split {before after : List Spot} {value : String} {rest : List Char}
    (split : preambleSpots config = before ++ .literal value :: after) :
    (Spot.literal value).StaysIn rest ↔ ValueStays value := by
  obtain ⟨entry, member, rfl⟩ := mem_literals_of_split split
  rw [Spot.staysIn_literal_iff, literal_iff_valueStays (valid.literals entry member)]

theorem staysIn_header {rest : List Char} :
    (Spot.comment (" " ++ config.fileHeader)).StaysIn ('\n' :: rest) ↔ config.HeaderStays := by
  rw [Spot.staysIn_comment_iff rfl, String.toList_append]
  constructor
  · intro stays character member
    have here := stays character (List.mem_append_right _ member)
    simp only [endsLine, Bool.or_eq_false_iff, decide_eq_false_iff_not] at here
    exact ⟨here.1.1.2, here.1.2, here.2⟩
  · intro stays character member
    rcases List.mem_append.1 member with blank | inHeader
    · obtain rfl := List.mem_singleton.1 blank
      rfl
    · have notLineFeed : character ≠ '\n' := by
        rintro rfl
        exact valid.header inHeader
      have others := stays character inHeader
      simp only [endsLine, Bool.or_eq_false_iff, decide_eq_false_iff_not]
      exact ⟨⟨⟨notLineFeed, others.1⟩, others.2.1⟩, others.2.2⟩

/-- A spot of the head that is no comment stays in its place, whatever comes after it. -/
theorem staysIn_of_mem (stays : ∀ entry ∈ config.invocation.literals, ValueStays entry.2)
    {spot : Spot} (member : spot ∈ preambleSpots config)
    (noComment : ∀ text, spot ≠ .comment text) (after : List Char) : spot.StaysIn after := by
  cases spot with
  | code text =>
      have plain := List.all_eq_true.1 (all_codeThroughout_preambleSpots valid) _ member
      exact Spot.staysIn_code (List.all_eq_true.1 plain)
  | comment text => exact absurd rfl (noComment text)
  | literal value =>
      obtain ⟨before, others, split⟩ := List.append_of_mem member
      obtain ⟨entry, inLiterals, rfl⟩ := mem_literals_of_split split
      exact (staysIn_literal_of_split valid split).2 (stays entry inLiterals)

/-- The head is read part by part: the header, what stands between the comments, the other
comment, and what stands after it. -/
theorem reads_preambleSpots {rest : List Char} (header : config.HeaderStays)
    (stays : ∀ entry ∈ config.invocation.literals, ValueStays entry.2) :
    Reads ((textOf (preambleSpots config)).toList ++ rest)
      ((preambleSpots config).flatMap Spot.tokens) rest := by
  have opening : ∀ spot ∈ openingSpots config.invocation, ∀ after, spot.StaysIn after := by
    intro spot member
    apply staysIn_of_mem valid stays (by simp [preambleSpots, member])
    rintro text rfl
    simp [openingSpots, importSpots] at member
  have closing : ∀ spot ∈ closingSpots config.invocation, ∀ after, spot.StaysIn after := by
    intro spot member
    apply staysIn_of_mem valid stays (by simp [preambleSpots, member])
    rintro text rfl
    simp [closingSpots] at member
  -- both comments have a line feed after them
  have headerReads : ∀ after, (Spot.comment (" " ++ config.fileHeader)).StaysIn
      ((textOf (openingSpots config.invocation)).toList ++ after) := by
    intro after
    rw [openingSpots, Script.toList_textOf_cons]
    exact (staysIn_header valid).2 header
  have fallbackReads : ∀ after, (Spot.comment fallbackComment).StaysIn
      ((textOf (closingSpots config.invocation)).toList ++ after) := by
    intro after
    rw [closingSpots, Script.toList_textOf_cons]
    exact (Spot.staysIn_comment_iff rfl).2 endsLine_fallbackComment
  rw [preambleSpots, Script.toList_textOf_cons, Script.toList_textOf_append,
    Script.toList_textOf_cons]
  simp only [List.append_assoc, List.flatMap_cons, List.flatMap_append]
  apply Reads.append (headerReads _)
  apply Reads.append (Script.reads_spots opening)
  apply Reads.append (fallbackReads _)
  exact Script.reads_spots closing

end Valid

/-- What becomes of the settings in the text of a module. -/
structure Config.SettingsRead (config : Config) (content rest : String) : Prop where
  /-- The module starts with the head. -/
  written : content = textOf (preambleSpots config) ++ rest
  /-- The header is a comment that ends where the line was meant to end, exactly if nothing
  else in it ends the line. -/
  header : ∃ after, preambleSpots config = .comment (" " ++ config.fileHeader) :: after ∧
    ((Spot.comment (" " ++ config.fileHeader)).StaysIn (textOf after ++ rest).toList ↔
      config.HeaderStays)
  /-- There are six values between quotes. -/
  places : (preambleSpots config).filterMap literalValue? =
    config.invocation.literals.map (·.2)
  /-- Each of them is closed by the quote after it and denotes itself, exactly if it has
  neither a backslash nor a carriage return. -/
  literals : ∀ before value after, preambleSpots config = before ++ .literal value :: after →
    ((Spot.literal value).StaysIn (textOf after ++ rest).toList ↔ ValueStays value)
  /-- If all that is so, the head is read from its start to its end as it was meant. -/
  whole : config.HeaderStays → (∀ entry ∈ config.invocation.literals, ValueStays entry.2) →
    Reads content.toList ((preambleSpots config).flatMap Spot.tokens) rest.toList

namespace Generator

variable {generator : Generator} {files : List ProtoFile}

theorem exists_rest {generated : GeneratedModule}
    (generates : (generator.generate files).result = .ok (some generated)) :
    ∃ rest, generated.content = textOf (preambleSpots generator.config) ++ rest := by
  obtain ⟨commandFile, _, _, rfl, _⟩ := exists_commandFile generates
  rw [textOf_preambleSpots]
  exact ⟨_, rfl⟩

/-- In every module that is generated the settings of the head are read as what they are
meant to be, exactly as far as they have no character that the validation lets pass
although it has a meaning of its own in its place. -/
theorem settings_read {generated : GeneratedModule}
    (generates : (generator.generate files).result = .ok (some generated)) :
    ∃ rest, generator.config.SettingsRead generated.content rest := by
  have valid := Config.settingsValid generator.valid
  obtain ⟨rest, written⟩ := exists_rest generates
  refine ⟨rest, written, ?_, filterMap_preambleSpots _, ?_, ?_⟩
  · refine ⟨_, rfl, ?_⟩
    rw [String.toList_append, openingSpots, List.cons_append, Script.toList_textOf_cons]
    exact staysIn_header valid
  · intro before value after split
    exact staysIn_literal_of_split valid split
  · intro header stays
    rw [written, String.toList_append]
    exact reads_preambleSpots valid header stays

theorem settings_read_tagged :
    (taggedGenerator.generate [taggedFile]).result =
        .ok (some (taggedGenerator.madeOf (some taggedFile))) ∧
      ∃ rest, taggedGenerator.config.SettingsRead
        (taggedGenerator.madeOf (some taggedFile)).content rest := by
  have generates := congrArg Logged.result generate_tagged
  exact ⟨generates, settings_read generates⟩

/-- A generator whose header has a second line, and whose default account ends in a
backslash. -/
def escapingGenerator : Generator where
  config :=
    { Config.default with
      fileHeader := "a\rb"
      invocation := { Invocation.default with defaultAccountId := "x\\" } }
  valid := by decide +kernel

/-- Its configuration is valid, and neither setting stays in its place. -/
theorem settings_break_out :
    ∃ generated rest, (escapingGenerator.generate [taggedFile]).result = .ok (some generated) ∧
      generated.content = textOf (preambleSpots escapingGenerator.config) ++ rest ∧
      (∀ after, ¬ (Spot.comment (" " ++ escapingGenerator.config.fileHeader)).StaysIn
        ('\n' :: after)) ∧
      (∀ after, ¬ (Spot.literal escapingGenerator.config.invocation.defaultAccountId).StaysIn
        after) := by
  have services : [taggedFile].any escapingGenerator.hasServices = true := by decide +kernel
  have generates := congrArg Logged.result
    (escapingGenerator.generate_of_commandFile services rfl)
  obtain ⟨rest, written⟩ := exists_rest generates
  refine ⟨_, rest, generates, written, ?_, ?_⟩
  · intro after
    rw [staysIn_header (Config.settingsValid escapingGenerator.valid)]
    intro stays
    exact (stays '\r' (by decide)).1 rfl
  · intro after
    rw [Spot.staysIn_literal_iff]
    intro literal
    exact (literal '\\' (by decide)).2.1 rfl

end Generator

end RpcTools
