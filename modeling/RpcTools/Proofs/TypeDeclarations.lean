/-
Module: RpcTools.Proofs.TypeDeclarations
Purpose: Where types are declared: a full name spells the way to its type through the
  messages of one file, and no other file of a pool declares a type under it.
Main exports: Descriptor.Within, Descriptor.File.Declares, Pool.DeclaredBy,
  Pool.exists_declaredBy
-/
import Mathlib.Data.List.Induction
import RpcTools.Proofs.ExportedNames
import RpcTools.Proofs.PoolResolution

namespace RpcTools

open Descriptor (qualified)

namespace Descriptor

/-! ### Messages inside messages -/

/-- A message stands among some messages or inside one of them.  The names are those of the
messages around it, from the outermost to its own. -/
inductive Within : List Message → List String → Message → Prop where
  | here {messages : List Message} {message : Message} (member : message ∈ messages) :
      Within messages [message.name] message
  | inside {messages : List Message} {outer message : Message} {names : List String}
      (member : outer ∈ messages) (within : Within outer.nested names message) :
      Within messages (outer.name :: names) message

/-- The full name of what stands in a package at the end of a way of names. -/
def fullNameOf (package : String) (names : List String) : String :=
  names.foldl qualified package

theorem messageWithin_eq (scope : String) (message : Message) :
    messageWithin scope message =
      (qualified scope message.name, message) ::
        messagesWithin (qualified scope message.name) message.nested := by
  cases message
  rfl

theorem messagesWithin_eq (scope : String) (messages : List Message) :
    messagesWithin scope messages = messages.flatMap (messageWithin scope) := by
  induction messages with
  | nil => rfl
  | cons message rest inductionHypothesis =>
      rw [messagesWithin, inductionHypothesis, List.flatMap_cons]

theorem within_of_mem_messagesWithin {scope fullName : String} {messages : List Message}
    {message : Message} (member : (fullName, message) ∈ messagesWithin scope messages) :
    ∃ names, Within messages names message ∧ fullName = fullNameOf scope names := by
  rw [messagesWithin_eq] at member
  obtain ⟨outer, inMessages, member⟩ := List.mem_flatMap.1 member
  rw [messageWithin_eq] at member
  rcases List.mem_cons.1 member with here | inside
  · cases here
    exact ⟨_, .here inMessages, rfl⟩
  · obtain ⟨names, within, named⟩ := within_of_mem_messagesWithin inside
    exact ⟨outer.name :: names, .inside inMessages within, named⟩
termination_by sizeOf messages
decreasing_by
  have smaller := List.sizeOf_lt_of_mem inMessages
  cases outer
  simp only [Message.mk.sizeOf_spec] at smaller ⊢
  omega

theorem mem_messagesWithin_of_within {scope : String} {messages : List Message}
    {names : List String} {message : Message} (within : Within messages names message) :
    (fullNameOf scope names, message) ∈ messagesWithin scope messages := by
  induction within generalizing scope with
  | here member =>
      rw [messagesWithin_eq, List.mem_flatMap]
      refine ⟨_, member, ?_⟩
      rw [messageWithin_eq]
      exact List.mem_cons_self
  | @inside messages outer message names member within inductionHypothesis =>
      rw [messagesWithin_eq, List.mem_flatMap]
      refine ⟨outer, member, ?_⟩
      rw [messageWithin_eq]
      exact List.mem_cons_of_mem _ inductionHypothesis

/-- The messages of a file are those on the ways through it. -/
theorem File.mem_allMessages_iff {file : File} {fullName : String} {message : Message} :
    (fullName, message) ∈ file.allMessages ↔
      ∃ names, Within file.messages names message ∧
        fullName = fullNameOf file.package names := by
  constructor
  · exact within_of_mem_messagesWithin
  · rintro ⟨names, within, rfl⟩
    exact mem_messagesWithin_of_within within

/-! ### Types of a file -/

/-- A file declares a type at the end of a way of names: a message, or an enum at the top of
the file or in a message. -/
inductive File.Declares (file : File) : List String → Declared → Prop where
  | message {names : List String} {message : Message}
      (within : Within file.messages names message) :
      Declares file names (.message message)
  | enumeration {enumeration : Enumeration} (member : enumeration ∈ file.enumerations) :
      Declares file [enumeration.name] (.enumeration enumeration)
  | innerEnumeration {names : List String} {message : Message} {enumeration : Enumeration}
      (within : Within file.messages names message)
      (member : enumeration ∈ message.enumerations) :
      Declares file (names ++ [enumeration.name]) (.enumeration enumeration)

theorem File.Declares.isType {file : File} {names : List String} {declared : Declared}
    (declares : file.Declares names declared) : declared.isType = true := by
  cases declares <;> rfl

theorem fullNameOf_append (package name : String) (names : List String) :
    fullNameOf package (names ++ [name]) = qualified (fullNameOf package names) name := by
  simp [fullNameOf]

theorem File.mem_allEnumerations_iff {file : File} {scope : String}
    {enumeration : Enumeration} :
    (scope, enumeration) ∈ file.allEnumerations ↔
      (scope = file.package ∧ enumeration ∈ file.enumerations) ∨
        ∃ message, (scope, message) ∈ file.allMessages ∧
          enumeration ∈ message.enumerations := by
  rw [allEnumerations, List.mem_append]
  simp only [List.mem_map, List.mem_flatMap, Prod.mk.injEq, Prod.exists]
  constructor
  · rintro (⟨_, member, rfl, rfl⟩ | ⟨_, message, inFile, _, member, rfl, rfl⟩)
    · exact .inl ⟨rfl, member⟩
    · exact .inr ⟨message, inFile, member⟩
  · rintro (⟨rfl, member⟩ | ⟨message, inFile, member⟩)
    · exact .inl ⟨enumeration, member, rfl, rfl⟩
    · exact .inr ⟨scope, message, inFile, enumeration, member, rfl, rfl⟩

theorem File.mem_declaredNames_message_iff {file : File} {fullName : String}
    {message : Message} :
    (fullName, Declared.message message) ∈ file.declaredNames ↔
      (fullName, message) ∈ file.allMessages := by
  simp [declaredNames, memberNames, enumerationNames, serviceNames]

theorem File.mem_declaredNames_enumeration_iff {file : File} {fullName : String}
    {enumeration : Enumeration} :
    (fullName, Declared.enumeration enumeration) ∈ file.declaredNames ↔
      ∃ scope, (scope, enumeration) ∈ file.allEnumerations ∧
        fullName = qualified scope enumeration.name := by
  simp [declaredNames, memberNames, enumerationNames, serviceNames]

/-- The types among what a file declares are those on the ways through it. -/
theorem File.mem_declaredNames_iff {file : File} {fullName : String} {declared : Declared}
    (isType : declared.isType = true) :
    (fullName, declared) ∈ file.declaredNames ↔
      ∃ names, file.Declares names declared ∧ fullName = fullNameOf file.package names := by
  cases declared with
  | message message =>
      rw [mem_declaredNames_message_iff, mem_allMessages_iff]
      constructor
      · rintro ⟨names, within, named⟩
        exact ⟨names, .message within, named⟩
      · rintro ⟨names, ⟨within⟩, named⟩
        exact ⟨names, within, named⟩
  | enumeration enumeration =>
      rw [mem_declaredNames_enumeration_iff]
      constructor
      · rintro ⟨scope, member, rfl⟩
        rcases mem_allEnumerations_iff.1 member with ⟨rfl, inFile⟩ | ⟨message, inFile, inner⟩
        · exact ⟨_, .enumeration inFile, rfl⟩
        · obtain ⟨names, within, rfl⟩ := mem_allMessages_iff.1 inFile
          exact ⟨_, .innerEnumeration within inner, (fullNameOf_append _ _ _).symm⟩
      · rintro ⟨names, declares, rfl⟩
        cases declares with
        | enumeration member =>
            exact ⟨_, mem_allEnumerations_iff.2 (.inl ⟨rfl, member⟩), rfl⟩
        | @innerEnumeration names message _ within member =>
            exact ⟨_, mem_allEnumerations_iff.2
              (.inr ⟨message, mem_allMessages_iff.2 ⟨names, within, rfl⟩, member⟩),
              fullNameOf_append _ _ _⟩
  | field | oneof | enumValue | service | method | extension => cases isType

/-! ### Full names of names without dots -/

/-- What stands before a dot is what stands before one of the dots. -/
theorem mem_partsBeforeDots {before characters : List Char}
    (below : before ++ ['.'] <+: characters) : before ∈ partsBeforeDots characters := by
  induction characters generalizing before with
  | nil => simp at below
  | cons character rest inductionHypothesis =>
      rw [partsBeforeDots, List.mem_append]
      cases before with
      | nil =>
          left
          obtain ⟨rfl, _⟩ := List.cons_prefix_cons.1 below
          rw [if_pos rfl]
          exact List.mem_singleton_self _
      | cons first before =>
          right
          obtain ⟨rfl, inRest⟩ := List.cons_prefix_cons.1 below
          exact List.mem_map_of_mem (inductionHypothesis inRest)

theorem mem_packagePath {fullName package : String}
    (below : fullName.toList ++ ['.'] <+: package.toList) : fullName ∈ packagePath package := by
  have parts := List.mem_map_of_mem (f := String.ofList) (mem_partsBeforeDots below)
  rw [String.ofList_toList] at parts
  rw [packagePath]
  split
  · next empty =>
      rw [String.isEmpty_iff.1 empty] at below
      simp at below
  · exact List.mem_append_left _ parts

theorem self_mem_packagePath {package : String} (named : package.isEmpty = false) :
    package ∈ packagePath package := by
  rw [packagePath, named, if_neg Bool.false_ne_true]
  exact List.mem_append_right _ (List.mem_singleton_self _)

/-- Where a name without dots comes last, what stands before a dot is the scope or part of
the scope. -/
theorem below_scope {before scope name : List Char} (plain : '.' ∉ name)
    (below : before ++ ['.'] <+: scope ++ '.' :: name) :
    before = scope ∨ before ++ ['.'] <+: scope := by
  obtain ⟨rest, whole⟩ := below
  rw [List.append_assoc, List.singleton_append] at whole
  rcases List.append_eq_append_iff.1 whole with
    ⟨between, inScope, tail⟩ | ⟨between, inBefore, tail⟩
  · cases between with
    | nil => exact .inl (by simpa using inScope.symm)
    | cons first between =>
        obtain ⟨rfl, _⟩ := List.cons.inj tail
        exact .inr ⟨between, by simp [inScope]⟩
  · cases between with
    | nil => exact .inl (by simpa using inBefore)
    | cons first between =>
        obtain ⟨rfl, inName⟩ := List.cons.inj tail
        exact absurd (by simp [inName]) plain

/-- A full name of names without dots goes on below the packages of its file and below the
messages that its way leads through, and below nothing else. -/
theorem below_fullNameOf {package fullName : String} {names : List String}
    (plain : ∀ name ∈ names, '.' ∉ name.toList)
    (below : fullName.toList ++ ['.'] <+: (fullNameOf package names).toList) :
    fullName ∈ packagePath package ∨
      ∃ before name after, names = before ++ name :: after ∧ before ≠ [] ∧
        fullName = fullNameOf package before := by
  induction names using List.reverseRecOn with
  | nil => exact .inl (mem_packagePath below)
  | append_singleton names name inductionHypothesis =>
      have plainName := plain name (by simp)
      rw [fullNameOf_append, toList_qualified] at below
      split at below
      · obtain ⟨rest, whole⟩ := below
        rw [← whole] at plainName
        simp at plainName
      · next isBelow =>
          rcases below_scope plainName below with same | inside
          · have same := String.toList_inj.1 same
            subst same
            cases names with
            | nil =>
                exact .inl (self_mem_packagePath (by simpa [fullNameOf] using isBelow))
            | cons first names =>
                exact .inr ⟨first :: names, name, [], rfl, List.cons_ne_nil _ _, rfl⟩
          · rcases inductionHypothesis (fun other member => plain other (by simp [member]))
              inside with inPackage | ⟨before, next, after, rfl, nonempty, named⟩
            · exact .inl inPackage
            · exact .inr ⟨before, next, after ++ [name], by simp, nonempty, named⟩

/-- Around whatever stands at the end of a way there are the messages that it leads
through. -/
theorem Within.of_append {messages : List Message} {message : Message}
    {before after : List String} {name : String} (nonempty : before ≠ [])
    (within : Within messages (before ++ name :: after) message) :
    ∃ outer, Within messages before outer := by
  induction before generalizing messages with
  | nil => exact absurd rfl nonempty
  | cons first before inductionHypothesis =>
      cases before with
      | nil =>
          rw [List.singleton_append] at within
          cases within with
          | inside member => exact ⟨_, .here member⟩
      | cons second before =>
          simp only [List.cons_append] at within inductionHypothesis
          cases within with
          | inside member within =>
              obtain ⟨outer, inner⟩ := inductionHypothesis (List.cons_ne_nil _ _) within
              exact ⟨outer, .inside member inner⟩

theorem File.Declares.exists_outer {file : File} {declared : Declared}
    {before after : List String} {name : String} (nonempty : before ≠ [])
    (declares : file.Declares (before ++ name :: after) declared) :
    ∃ outer, Within file.messages before outer := by
  generalize whole : before ++ name :: after = names at declares
  cases declares with
  | message within =>
      subst whole
      exact within.of_append nonempty
  | enumeration member =>
      cases before with
      | nil => exact absurd rfl nonempty
      | cons first before => simp at whole
  | @innerEnumeration names message enumeration within member =>
      rcases List.eq_nil_or_concat after with rfl | ⟨others, last, rfl⟩
      · obtain ⟨rfl, _⟩ := List.append_inj' whole rfl
        exact ⟨message, within⟩
      · rw [List.concat_eq_append, ← List.cons_append, ← List.append_assoc] at whole
        obtain ⟨rfl, _⟩ := List.append_inj' whole rfl
        exact within.of_append nonempty

end Descriptor

/-! ### Types of a pool -/

/-- A declaration is that of a type which a file of the pool declares at the end of a way of
names, and no other file of the pool declares a type under its full name. -/
structure Pool.DeclaredBy (pool : Pool) (declaration : Declaration) (file : Descriptor.File)
    (names : List String) : Prop where
  member : file ∈ pool.files
  path : declaration.path = file.path
  package : declaration.package = file.package
  declares : file.Declares names declaration.declared
  fullName : declaration.fullName = Descriptor.fullNameOf file.package names
  alone : ∀ other ∈ pool.files, ∀ way declared, other.Declares way declared →
    Descriptor.fullNameOf other.package way = declaration.fullName → other = file

namespace Pool

variable {pool : Pool}

theorem nodup_fullNames (pool : Pool) :
    ((Names.ofFiles pool.files).declarations.map (·.fullName)).Nodup := by
  have consistent := pool.consistent
  simp only [Descriptor.inconsistencies, Descriptor.nameFaults, List.append_eq_nil_iff,
    violation_eq_nil_iff] at consistent
  have distinct := consistent.1.2
  rw [Bool.or_eq_false_iff] at distinct
  simpa using distinct.1

/-- What a pool declares is not named like one of its packages. -/
theorem fullName_not_mem_packages {declaration : Declaration}
    (declared : declaration ∈ (Names.ofFiles pool.files).declarations) :
    declaration.fullName ∉ (Names.ofFiles pool.files).packages := by
  have consistent := pool.consistent
  simp only [Descriptor.inconsistencies, Descriptor.nameFaults, List.append_eq_nil_iff,
    violation_eq_nil_iff] at consistent
  have apart := (Bool.or_eq_false_iff.1 consistent.1.2).2
  simp only [List.any_map, List.any_eq_false, Function.comp_apply, List.contains_iff_mem]
    at apart
  exact apart declaration declared

/-- Two files of a pool that declare something under the same full name are the same. -/
theorem file_eq_of_declaredNames {file other : Descriptor.File} {fullName : String}
    {declared otherDeclared : Declared} (member : file ∈ pool.files)
    (otherMember : other ∈ pool.files) (named : (fullName, declared) ∈ file.declaredNames)
    (otherNamed : (fullName, otherDeclared) ∈ other.declaredNames) : other = file := by
  have inNames : (⟨fullName, declared, file.path, file.package⟩ : Declaration) ∈
      (Names.ofFiles pool.files).declarations :=
    List.mem_flatMap.2 ⟨file, member, List.mem_map.2 ⟨_, named, rfl⟩⟩
  have otherInNames : (⟨fullName, otherDeclared, other.path, other.package⟩ : Declaration) ∈
      (Names.ofFiles pool.files).declarations :=
    List.mem_flatMap.2 ⟨other, otherMember, List.mem_map.2 ⟨_, otherNamed, rfl⟩⟩
  have same := List.inj_on_of_nodup_map pool.nodup_fullNames otherInNames inNames rfl
  exact List.inj_on_of_nodup_map pool.nodup_paths otherMember member
    (congrArg Declaration.path same)

/-- Whatever type a pool declares, one of its files declares it. -/
theorem exists_declaredBy {declaration : Declaration}
    (declared : declaration ∈ (Names.ofFiles pool.files).declarations)
    (isType : declaration.declared.isType = true) :
    ∃ file names, pool.DeclaredBy declaration file names := by
  obtain ⟨file, member, inFile⟩ := List.mem_flatMap.1 declared
  obtain ⟨⟨fullName, type⟩, named, rfl⟩ := List.mem_map.1 inFile
  obtain ⟨names, declares, rfl⟩ := (Descriptor.File.mem_declaredNames_iff isType).1 named
  refine ⟨file, names, member, rfl, rfl, declares, rfl, ?_⟩
  intro other otherMember way otherType otherDeclares same
  have otherNamed :=
    (Descriptor.File.mem_declaredNames_iff otherDeclares.isType).2 ⟨way, otherDeclares, rfl⟩
  rw [same] at otherNamed
  exact file_eq_of_declaredNames member otherMember named otherNamed

end Pool

end RpcTools
