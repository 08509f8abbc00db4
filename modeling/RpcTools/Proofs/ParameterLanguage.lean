/-
Module: RpcTools.Proofs.ParameterLanguage
Purpose: The parameters that tell options: which ones are accepted, what they tell, and which
  fault a refused one is answered with.
Main exports: PluginOptions.Assigns, PluginOptions.WellSpelled, PluginOptions.Offends,
  PluginOptions.Respaced, PluginOptions.FollowsRules, PluginOptions.ofParameter_followsRules
-/
import Mathlib.Data.List.Induction
import RpcTools.Proofs.ParameterSpelling
import RpcTools.Proofs.TrimmedText

namespace RpcTools

namespace PluginOptions

/-! ### What an entry says -/

variable {entry word value : String} {key : OptionKey} {listed earlier : List String}
  {options : PluginOptions}

/-- An entry assigns a value to a word: the trimmed texts around its first equals sign. -/
def Assigns (entry word value : String) : Prop :=
  ∃ before after : List Char, entry.toList = before ++ '=' :: after ∧ '=' ∉ before ∧
    Text.trim (String.ofList before) = word ∧ Text.trim (String.ofList after) = value

theorem assignment?_eq_some_iff :
    assignment? entry = some (word, value) ↔ Assigns entry word value := by
  simp [assignment?, Assigns, Text.cutFirst?_eq_some_iff, and_assoc]

theorem assignment?_eq_none_iff : assignment? entry = none ↔ '=' ∉ entry.toList := by
  rw [assignment?, Option.map_eq_none_iff, Text.cutFirst?_eq_none_iff]

theorem Assigns.unique {other told : String} (assigns : Assigns entry word value)
    (again : Assigns entry other told) : word = other ∧ value = told := by
  have same := (assignment?_eq_some_iff.2 assigns).symm.trans (assignment?_eq_some_iff.2 again)
  simpa using same

theorem word_injective {other : OptionKey} (same : key.word = other.word) : key = other := by
  have found := OptionKey.ofWord?_word key
  rw [same, OptionKey.ofWord?_word] at found
  exact (Option.some.inj found).symm

/-- The words that entries can begin with. -/
theorem mem_words_iff :
    word ∈ ["config", "command_file", "output"] ↔ ∃ key : OptionKey, key.word = word := by
  constructor
  · intro known
    simp only [List.mem_cons, List.not_mem_nil, or_false] at known
    rcases known with rfl | rfl | rfl
    · exact ⟨.config, rfl⟩
    · exact ⟨.commandFile, rfl⟩
    · exact ⟨.outputFile, rfl⟩
  · rintro ⟨key, rfl⟩
    cases key <;> simp [OptionKey.word]

/-- White space around an entry does not change what it says. -/
theorem Assigns.trim (assigns : Assigns entry word value) :
    Assigns (Text.trim entry) word value := by
  obtain ⟨before, after, whole, absent, rfl, rfl⟩ := assigns
  refine ⟨_, _, Text.toList_trim_around whole (by decide), ?_, Text.trim_dropBlanks,
    Text.trim_dropBlanksEnd⟩
  exact fun member => absent (Text.dropBlanks_suffix.subset member)

/-- What is wrong with an entry that follows others, in the order in which it is looked for:
no equals sign, nothing behind it, an unknown word before it, or a word that is taken. -/
inductive Offends (earlier : List String) (entry : String) : ArgumentFault → Prop where
  | noEquals (absent : '=' ∉ entry.toList) : Offends earlier entry (.optionWithoutValue entry)
  | blank {word : String} (assigns : Assigns entry word "") :
      Offends earlier entry (.optionBlank word)
  | unknown {word value : String} (assigns : Assigns entry word value) (filled : value ≠ "")
      (strange : word ∉ ["config", "command_file", "output"]) :
      Offends earlier entry (.optionUnknown word)
  | repeated {word value : String} (assigns : Assigns entry word value) (filled : value ≠ "")
      (known : word ∈ ["config", "command_file", "output"])
      (taken : ∃ other ∈ earlier, ∃ told, Assigns other word told) :
      Offends earlier entry (.optionRepeated word)

/-- Every entry assigns something to a word that is known, and no two to the same. -/
structure WellSpelled (listed : List String) : Prop where
  each : ∀ entry ∈ listed, ∃ word ∈ ["config", "command_file", "output"], ∃ value,
    Assigns entry word value ∧ value ≠ ""
  once : listed.Pairwise fun entry other => ∀ word value told,
    Assigns entry word value → ¬ Assigns other word told

/-- Options say what entries assign, and nothing else. -/
structure Tells (listed : List String) (options : PluginOptions) : Prop where
  config : ∀ value, options.config = some value ↔ ∃ entry ∈ listed, Assigns entry "config" value
  commandFile : ∀ value, options.commandFile = some value ↔
    ∃ entry ∈ listed, Assigns entry "command_file" value
  outputFile : ∀ value, options.outputFile = some value ↔
    ∃ entry ∈ listed, Assigns entry "output" value

theorem tells_iff :
    Tells listed options ↔ ∀ key value, options.get? key = some value ↔
      ∃ entry ∈ listed, Assigns entry (OptionKey.word key) value := by
  constructor
  · rintro ⟨config, commandFile, outputFile⟩ key
    cases key
    · exact config
    · exact commandFile
    · exact outputFile
  · exact fun tells => ⟨tells .config, tells .commandFile, tells .outputFile⟩

theorem tells_nil : Tells [] empty :=
  tells_iff.2 fun key value => by simp

theorem Tells.unique {other : PluginOptions} (tells : Tells listed options)
    (again : Tells listed other) : options = other :=
  ext_get? fun key => Option.ext fun value =>
    (tells_iff.1 tells key value).trans (tells_iff.1 again key value).symm

theorem Tells.get?_eq_none_iff (tells : Tells listed options) :
    options.get? key = none ↔ ¬ ∃ entry ∈ listed, ∃ value, Assigns entry key.word value := by
  rw [Option.eq_none_iff_forall_ne_some]
  constructor
  · rintro free ⟨entry, member, value, assigns⟩
    exact free value ((tells_iff.1 tells key value).2 ⟨entry, member, assigns⟩)
  · intro free value found
    obtain ⟨entry, member, assigns⟩ := (tells_iff.1 tells key value).1 found
    exact free ⟨entry, member, value, assigns⟩

/-! ### One more entry -/

theorem add_of_assigns (assigns : Assigns entry key.word value) (filled : value ≠ "")
    (free : options.get? key = none) : options.add entry = .ok (options.set key value) := by
  have notEmpty : value.isEmpty = false := by simpa using filled
  simp [add, assignment?_eq_some_iff.2 assigns, notEmpty, OptionKey.ofWord?_word, free]

theorem add_of_offends {fault : ArgumentFault} (tells : Tells earlier options)
    (offends : Offends earlier entry fault) : options.add entry = .error fault := by
  cases offends with
  | noEquals absent => simp [add, assignment?_eq_none_iff.2 absent]
  | blank assigns => simp [add, assignment?_eq_some_iff.2 assigns]
  | @unknown word value assigns filled strange =>
      have notEmpty : value.isEmpty = false := by simpa using filled
      have unknown : OptionKey.ofWord? word = none := by
        cases found : OptionKey.ofWord? word with
        | none => rfl
        | some key => exact absurd (mem_words_iff.2 ⟨key, OptionKey.word_of_ofWord? found⟩) strange
      simp [add, assignment?_eq_some_iff.2 assigns, notEmpty, unknown]
  | @repeated word value assigns filled known taken =>
      have notEmpty : value.isEmpty = false := by simpa using filled
      obtain ⟨key, rfl⟩ := mem_words_iff.1 known
      obtain ⟨other, member, told, before⟩ := taken
      have found : options.get? key = some told :=
        (tells_iff.1 tells key told).2 ⟨other, member, before⟩
      simp [add, assignment?_eq_some_iff.2 assigns, notEmpty, OptionKey.ofWord?_word, found]

/-- An entry that does not offend says something about a key of which nothing was said. -/
theorem offends_or_assigns (earlier : List String) (entry : String) :
    (∃ fault, Offends earlier entry fault) ∨
      ∃ key value, Assigns entry (OptionKey.word key) value ∧ value ≠ "" ∧
        ¬ ∃ other ∈ earlier, ∃ told, Assigns other key.word told := by
  cases assigned : assignment? entry with
  | none => exact .inl ⟨_, .noEquals (assignment?_eq_none_iff.1 assigned)⟩
  | some said =>
      obtain ⟨word, value⟩ := said
      have assigns := assignment?_eq_some_iff.1 assigned
      by_cases nothing : value = ""
      · subst nothing
        exact .inl ⟨_, .blank assigns⟩
      · by_cases known : ∃ key : OptionKey, key.word = word
        · obtain ⟨key, rfl⟩ := known
          by_cases taken : ∃ other ∈ earlier, ∃ told, Assigns other key.word told
          · exact .inl ⟨_, .repeated assigns nothing (mem_words_iff.2 ⟨key, rfl⟩) taken⟩
          · exact .inr ⟨key, value, assigns, nothing, taken⟩
        · exact .inl ⟨_, .unknown assigns nothing fun member => known (mem_words_iff.1 member)⟩

theorem wellSpelled_concat_iff :
    WellSpelled (earlier ++ [entry]) ↔ WellSpelled earlier ∧
      ∃ key value, Assigns entry (OptionKey.word key) value ∧ value ≠ "" ∧
        ¬ ∃ other ∈ earlier, ∃ told, Assigns other key.word told := by
  constructor
  · rintro ⟨each, once⟩
    rw [List.pairwise_append] at once
    obtain ⟨word, known, value, assigns, filled⟩ := each entry (by simp)
    obtain ⟨key, rfl⟩ := mem_words_iff.1 known
    refine ⟨⟨fun other member => each other (List.mem_append_left _ member), once.1⟩,
      key, value, assigns, filled, ?_⟩
    rintro ⟨other, member, told, before⟩
    exact once.2.2 other member entry List.mem_cons_self key.word told value before assigns
  · rintro ⟨⟨each, once⟩, key, value, assigns, filled, free⟩
    constructor
    · intro other member
      rcases List.mem_append.1 member with before | here
      · exact each other before
      · rw [List.mem_singleton.1 here]
        exact ⟨key.word, mem_words_iff.2 ⟨key, rfl⟩, value, assigns, filled⟩
    · rw [List.pairwise_append]
      refine ⟨once, List.pairwise_singleton _ _, ?_⟩
      intro other member last here word told valueToo before again
      rw [List.mem_singleton.1 here] at again
      rw [(again.unique assigns).1] at before
      exact free ⟨other, member, told, before⟩

theorem Tells.concat (tells : Tells earlier options) (assigns : Assigns entry key.word value)
    (free : options.get? key = none) : Tells (earlier ++ [entry]) (options.set key value) := by
  refine tells_iff.2 fun other told => ?_
  simp only [List.mem_append, List.mem_singleton, or_and_right, exists_or, exists_eq_left]
  rw [← tells_iff.1 tells other told]
  by_cases same : other = key
  · subst same
    rw [get?_set_self, free, Option.some.injEq]
    constructor
    · rintro rfl
      exact .inr assigns
    · intro said
      rcases said with nothing | again
      · cases nothing
      · exact (assigns.unique again).2
  · rw [get?_set_of_ne options value same]
    constructor
    · exact .inl
    · intro said
      rcases said with before | again
      · exact before
      · exact absurd (word_injective (again.unique assigns).1) same

/-! ### All entries -/

/-- Well-spelled entries are read one after the other, and tell what they assign. -/
theorem exists_tells (wellSpelled : WellSpelled listed) :
    ∃ options, listed.foldlM add empty = .ok options ∧ Tells listed options := by
  induction listed using List.reverseRecOn with
  | nil => exact ⟨empty, rfl, tells_nil⟩
  | append_singleton front entry inductionHypothesis =>
      obtain ⟨before, key, value, assigns, filled, free⟩ := wellSpelled_concat_iff.1 wellSpelled
      obtain ⟨options, reads, tells⟩ := inductionHypothesis before
      have unsaid := tells.get?_eq_none_iff.2 free
      refine ⟨options.set key value, ?_, tells.concat assigns unsaid⟩
      rw [List.foldlM_append, reads]
      exact congrArg (· >>= pure) (add_of_assigns assigns filled unsaid)

/-- Reading stops at the first entry that offends, whatever follows it. -/
theorem foldlM_add_of_offends {fault : ArgumentFault} (wellSpelled : WellSpelled earlier)
    (offends : Offends earlier entry fault) (later : List String) :
    (earlier ++ entry :: later).foldlM add empty = .error fault := by
  obtain ⟨options, reads, tells⟩ := exists_tells wellSpelled
  rw [List.foldlM_append, reads]
  exact congrArg (· >>= fun next => later.foldlM add next) (add_of_offends tells offends)

/-- A fault is the one of the first entry that offends. -/
inductive FirstFault : List String → ArgumentFault → Prop where
  | found {earlier later : List String} {entry : String} {fault : ArgumentFault}
      (before : WellSpelled earlier) (offends : Offends earlier entry fault) :
      FirstFault (earlier ++ entry :: later) fault

theorem wellSpelled_or_firstFault (listed : List String) :
    WellSpelled listed ∨ ∃ fault, FirstFault listed fault := by
  induction listed using List.reverseRecOn with
  | nil => exact .inl ⟨by simp, .nil⟩
  | append_singleton front entry inductionHypothesis =>
      rcases inductionHypothesis with before | ⟨fault, first⟩
      · rcases offends_or_assigns front entry with ⟨fault, offends⟩ | fits
        · exact .inr ⟨fault, .found before offends⟩
        · exact .inl (wellSpelled_concat_iff.2 ⟨before, fits⟩)
      · obtain @⟨earlier, later, other, _, before, offends⟩ := first
        right
        refine ⟨fault, ?_⟩
        rw [List.append_assoc, List.cons_append]
        exact .found before offends

/-- Entries that are well spelled stay so in any order. -/
theorem WellSpelled.perm {others : List String} (wellSpelled : WellSpelled listed)
    (order : listed.Perm others) : WellSpelled others := by
  refine ⟨fun entry member => wellSpelled.each entry (order.mem_iff.2 member), ?_⟩
  refine (order.pairwise_iff ?_).1 wellSpelled.once
  intro entry other apart word value told assigns again
  exact apart word told value again assigns

theorem Tells.perm {others : List String} (tells : Tells listed options)
    (order : listed.Perm others) : Tells others options :=
  tells_iff.2 fun key value => by simp only [tells_iff.1 tells key value, order.mem_iff]

/-! ### White space and commas -/

/-- The entries that the pieces between commas are. -/
def entriesOf (pieces : List String) : List String :=
  (pieces.map Text.trim).filter fun entry => !entry.isEmpty

theorem entriesOf_append (front back : List String) :
    entriesOf (front ++ back) = entriesOf front ++ entriesOf back := by
  rw [entriesOf, List.map_append, List.filter_append, entriesOf, entriesOf]

/-- A piece with white space put around it, or around its first equals sign. -/
inductive Pads : String → String → Prop where
  | around {piece left right : List Char} (blankLeft : Text.OnlyBlanks left)
      (blankRight : Text.OnlyBlanks right) :
      Pads (String.ofList piece) (String.ofList (left ++ piece ++ right))
  | atSign {before after left right : List Char} (first : '=' ∉ before)
      (blankLeft : Text.OnlyBlanks left) (blankRight : Text.OnlyBlanks right) :
      Pads (String.ofList (before ++ '=' :: after))
        (String.ofList (before ++ left ++ '=' :: (right ++ after)))

/-- Pieces between commas that differ in white space at entries, keys and values, and in
commas with nothing but white space between them. -/
inductive Respaced : List String → List String → Prop where
  | pad {front back : List String} {piece padded : String} (pads : Pads piece padded) :
      Respaced (front ++ piece :: back) (front ++ padded :: back)
  | comma {front back : List String} {blanks : List Char} (blank : Text.OnlyBlanks blanks) :
      Respaced (front ++ back) (front ++ String.ofList blanks :: back)
  | refl {pieces : List String} : Respaced pieces pieces
  | symm {pieces others : List String} (back : Respaced others pieces) : Respaced pieces others
  | trans {pieces middle others : List String} (first : Respaced pieces middle)
      (second : Respaced middle others) : Respaced pieces others

theorem foldlM_entriesOf_assigns {piece : String} (assigns : Assigns piece word value) :
    (entriesOf [piece]).foldlM add options = options.add (Text.trim piece) := by
  obtain ⟨before, after, whole, _⟩ := assigns.trim
  have notEmpty : (Text.trim piece).isEmpty = false := by
    rw [Bool.eq_false_iff, ne_eq, String.isEmpty_iff, ← String.toList_inj, whole]
    simp
  simp [entriesOf, notEmpty]

theorem Pads.foldlM_entriesOf {piece padded : String} (pads : Pads piece padded) :
    (entriesOf [piece]).foldlM add options = (entriesOf [padded]).foldlM add options := by
  cases pads with
  | around blankLeft blankRight =>
      simp only [entriesOf, List.map_cons, List.map_nil, Text.trim_padded _ blankLeft blankRight]
  | @atSign before after left right first blankLeft blankRight =>
      have assigns : Assigns (String.ofList (before ++ '=' :: after))
          (Text.trim (String.ofList before)) (Text.trim (String.ofList after)) :=
        ⟨before, after, String.toList_ofList, first, rfl, rfl⟩
      have firstToo : '=' ∉ before ++ left := by
        intro member
        rcases List.mem_append.1 member with inBefore | inBlanks
        · exact first inBefore
        · exact absurd (blankLeft '=' inBlanks) (by decide)
      have wordToo := Text.trim_padded before Text.onlyBlanks_nil blankLeft
      have valueToo := Text.trim_padded after blankRight Text.onlyBlanks_nil
      rw [List.append_nil] at valueToo
      have assignsToo : Assigns (String.ofList (before ++ left ++ '=' :: (right ++ after)))
          (Text.trim (String.ofList before)) (Text.trim (String.ofList after)) :=
        ⟨_, _, String.toList_ofList, firstToo, wordToo, valueToo⟩
      rw [foldlM_entriesOf_assigns assigns, foldlM_entriesOf_assigns assignsToo]
      -- an entry with an equals sign counts for no more than what it assigns
      simp only [add, assignment?_eq_some_iff.2 assigns.trim,
        assignment?_eq_some_iff.2 assignsToo.trim]

theorem Respaced.foldlM_entriesOf {pieces others : List String}
    (respaced : Respaced pieces others) (options : PluginOptions) :
    (entriesOf others).foldlM add options = (entriesOf pieces).foldlM add options := by
  induction respaced generalizing options with
  | @pad front back piece padded pads =>
      rw [← List.singleton_append, ← @List.singleton_append _ piece back]
      simp only [entriesOf_append, List.foldlM_append, pads.foldlM_entriesOf]
  | @comma front back blanks blank =>
      have nothing : entriesOf [String.ofList blanks] = [] := by
        have blankToo := Text.trim_padded [] blank Text.onlyBlanks_nil
        rw [List.append_nil, List.append_nil] at blankToo
        simp only [entriesOf, List.map_cons, List.map_nil, blankToo]
        decide
      rw [← List.singleton_append]
      simp only [entriesOf_append, nothing, List.nil_append]
  | refl => rfl
  | symm _ inductionHypothesis => exact (inductionHypothesis options).symm
  | trans _ _ first second => exact (second options).trans (first options)

/-! ### Parameters -/

/-- What reading a parameter comes to. -/
structure FollowsRules (parameter : String) : Prop where
  /-- Options are made exactly of well-spelled entries. -/
  accepted : (∃ options, ofParameter parameter = .ok options) ↔ WellSpelled (entries parameter)
  told : ∀ options, ofParameter parameter = .ok options → Tells (entries parameter) options
  refused : ∀ error, ofParameter parameter = .error error ↔
    ∃ fault, FirstFault (entries parameter) fault ∧ error = .invalidArgument fault
  respaced : ∀ other, Respaced (Text.split ',' parameter) (Text.split ',' other) →
    ofParameter other = ofParameter parameter
  reordered : ∀ other, (entries parameter).Perm (entries other) → ∀ options,
    ofParameter parameter = .ok options → ofParameter other = .ok options
  readBack : ∀ options : PluginOptions,
    (∀ key value, options.get? key = some value → PlainValue value) →
      options.Spells parameter → ofParameter parameter = .ok options

theorem ofParameter_of_wellSpelled {parameter : String}
    (wellSpelled : WellSpelled (entries parameter)) :
    ∃ options, ofParameter parameter = .ok options ∧
      Tells (entries parameter) options := by
  obtain ⟨options, reads, tells⟩ := exists_tells wellSpelled
  exact ⟨options, by rw [ofParameter, reads], tells⟩

theorem ofParameter_of_firstFault {parameter : String} {fault : ArgumentFault}
    (first : FirstFault (entries parameter) fault) :
    ofParameter parameter = .error (.invalidArgument fault) := by
  generalize read : entries parameter = listed at first
  obtain @⟨earlier, later, entry, _, before, offends⟩ := first
  rw [ofParameter, read, foldlM_add_of_offends before offends]

/-- Every parameter is read by the same rules. -/
theorem ofParameter_followsRules (parameter : String) : FollowsRules parameter := by
  have accepted : (∃ options, ofParameter parameter = .ok options) ↔
      WellSpelled (entries parameter) := by
    constructor
    · rintro ⟨options, reads⟩
      rcases wellSpelled_or_firstFault (entries parameter) with fits | ⟨fault, first⟩
      · exact fits
      · cases reads.symm.trans (ofParameter_of_firstFault first)
    · intro fits
      obtain ⟨options, reads, _⟩ := ofParameter_of_wellSpelled fits
      exact ⟨options, reads⟩
  have told : ∀ options, ofParameter parameter = .ok options →
      Tells (entries parameter) options := by
    intro options reads
    obtain ⟨others, again, tells⟩ := ofParameter_of_wellSpelled (accepted.1 ⟨options, reads⟩)
    cases reads.symm.trans again
    exact tells
  refine ⟨accepted, told, ?_, ?_, ?_, ?_⟩
  · intro error
    constructor
    · intro fails
      rcases wellSpelled_or_firstFault (entries parameter) with fits | ⟨fault, first⟩
      · obtain ⟨options, reads⟩ := accepted.2 fits
        cases fails.symm.trans reads
      · cases fails.symm.trans (ofParameter_of_firstFault first)
        exact ⟨fault, first, rfl⟩
    · rintro ⟨fault, first, rfl⟩
      exact ofParameter_of_firstFault first
  · intro other respaced
    have same : (entries other).foldlM add empty = (entries parameter).foldlM add empty :=
      respaced.foldlM_entriesOf empty
    rw [ofParameter, ofParameter, same]
  · intro other order options reads
    obtain ⟨others, again, tells⟩ :=
      ofParameter_of_wellSpelled ((accepted.1 ⟨options, reads⟩).perm order)
    rw [again, tells.unique ((told options reads).perm order)]
  · intro options plain spells
    exact ofParameter_of_spells plain spells

/-- The first entry that offends decides, and a blank value is noticed before an unknown
word. -/
example : ofParameter "output = a.ts,, flavor= ,output=b.ts" =
    .error (.invalidArgument (.optionBlank "flavor")) := by
  decide +kernel

end PluginOptions

end RpcTools
