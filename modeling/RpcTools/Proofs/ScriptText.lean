/-
Module: RpcTools.Proofs.ScriptText
Purpose: The lexical rules of scripts, as far as the head of a module needs them: comments
  to the end of a line, texts between double quotes with their escapes, and other code.
Main exports: Script.endsLine, Script.literalFrom, Script.literalFrom_eq_iff, Script.Reads,
  Script.Spot, Script.Spot.StaysIn, Script.reads_spots
-/
import Mathlib.Data.List.TakeWhile
import RpcTools.Toml.Quoted

namespace RpcTools.Script

/-- Whether a character ends a line, and with it a comment. -/
def endsLine (character : Char) : Bool :=
  character = '\n' || character = '\r' || character = '\u2028' || character = '\u2029'

/-! ### Texts between double quotes -/

/-- The units of a code point: itself, or a pair of halves if it has more than 16 bits. -/
def unitsOfCode (code : Nat) : List Nat :=
  if code < 0x10000 then [code]
  else [0xD800 + (code - 0x10000) / 0x400, 0xDC00 + (code - 0x10000) % 0x400]

/-- The units of characters.  A text of a script is a list of units. -/
def unitsOf (characters : List Char) : List Nat :=
  characters.flatMap fun character => unitsOfCode character.toNat

/-- Where the reader of a text stands. -/
inductive Stand where
  /-- Between characters; a line may just have been joined to the next one at a carriage
  return, so that a line feed still belongs to the break. -/
  | plain (joined : Bool)
  /-- After a backslash. -/
  | escaped
  /-- After a backslash and a letter `u`. -/
  | unicode
  /-- Before the last digits of an escape. -/
  | digits (left value : Nat)
  /-- Between braces, after some digits or none. -/
  | braced (value : Nat) (started : Bool)
deriving Repr, DecidableEq

/-- What a character after a backslash stands for, where it starts nothing longer. -/
def escapedUnits (character : Char) : List Nat :=
  if character = 'b' then [0x08]
  else if character = 't' then [0x09]
  else if character = 'n' then [0x0A]
  else if character = 'v' then [0x0B]
  else if character = 'f' then [0x0C]
  else if character = 'r' then [0x0D]
  else unitsOfCode character.toNat

/-- Puts units in front of those that are read later. -/
def emitted (units : List Nat) (later : Option (List Nat × List Char)) :
    Option (List Nat × List Char) :=
  later.map fun (others, rest) => (units ++ others, rest)

/-- Reads a text to the quote that closes it: what it denotes, and what comes after the
quote.  A line may end inside only after a backslash, and there it counts for nothing. -/
def literalFrom : Stand → List Char → Option (List Nat × List Char)
  | _, [] => none
  | .plain joined, character :: rest =>
      if character = '"' then some ([], rest)
      else if character = '\\' then literalFrom .escaped rest
      else if joined && character = '\n' then literalFrom (.plain false) rest
      else if character = '\n' || character = '\r' then none
      else emitted (unitsOfCode character.toNat) (literalFrom (.plain false) rest)
  | .escaped, character :: rest =>
      if character = 'x' then literalFrom (.digits 2 0) rest
      else if character = 'u' then literalFrom .unicode rest
      else if character = '0' && !rest.head?.any Char.isDigit then
        emitted [0] (literalFrom (.plain false) rest)
      else if character.isDigit then none
      else if endsLine character then literalFrom (.plain (character = '\r')) rest
      else emitted (escapedUnits character) (literalFrom (.plain false) rest)
  | .unicode, character :: rest =>
      if character = '\x7b' then literalFrom (.braced 0 false) rest
      else
        match Toml.hexValue? character with
        | some digit => literalFrom (.digits 3 digit) rest
        | none => none
  | .digits left value, character :: rest =>
      match Toml.hexValue? character with
      | some digit =>
          if left ≤ 1 then emitted [value * 16 + digit] (literalFrom (.plain false) rest)
          else literalFrom (.digits (left - 1) (value * 16 + digit)) rest
      | none => none
  | .braced value started, character :: rest =>
      if character = '\x7d' then
        if started then emitted (unitsOfCode value) (literalFrom (.plain false) rest) else none
      else
        match Toml.hexValue? character with
        | some digit =>
            if value * 16 + digit ≤ 0x10FFFF then
              literalFrom (.braced (value * 16 + digit) true) rest
            else none
        | none => none

/-- A text in which every character stands for itself. -/
def Literal (characters : List Char) : Prop :=
  ∀ character ∈ characters,
    character ≠ '"' ∧ character ≠ '\\' ∧ character ≠ '\n' ∧ character ≠ '\r'

/-- How many more units than there are from a stand on can be denoted: what came before the
stand in the escape has not been spent. -/
def Stand.unspent : Stand → Nat
  | .plain _ => 0
  | .escaped => 1
  | .unicode | .digits _ _ | .braced _ _ => 2

theorem emitted_eq_some {units : List Nat} {later : Option (List Nat × List Char)}
    {denoted : List Nat} {rest : List Char}
    (reads : emitted units later = some (denoted, rest)) :
    ∃ others, later = some (others, rest) ∧ denoted = units ++ others := by
  cases later with
  | none => cases reads
  | some found =>
      obtain ⟨others, final⟩ := found
      cases reads
      exact ⟨others, rfl, rfl⟩

theorem unitsOf_cons (character : Char) (characters : List Char) :
    unitsOf (character :: characters) =
      unitsOfCode character.toNat ++ unitsOf characters := by
  rw [unitsOf, List.flatMap_cons, unitsOf]

theorem length_unitsOfCode_pos (code : Nat) : 0 < (unitsOfCode code).length := by
  rw [unitsOfCode]
  split <;> simp

theorem length_unitsOfCode_le (code : Nat) : (unitsOfCode code).length ≤ 2 := by
  rw [unitsOfCode]
  split <;> simp

theorem length_escapedUnits_le (character : Char) :
    (escapedUnits character).length ≤ (unitsOfCode character.toNat).length := by
  have positive : 1 ≤ (unitsOfCode character.toNat).length :=
    length_unitsOfCode_pos character.toNat
  unfold escapedUnits
  split_ifs <;> first | exact positive | exact Nat.le_refl _

/-- What a text spends on what it denotes: from a stand between characters every character
stands for itself, or something is lost to an escape. -/
structure Spends (stand : Stand) (text taken : List Char) (denoted : List Nat)
    (rest : List Char) : Prop where
  closed : text = taken ++ '"' :: rest
  spent : (∃ joined, stand = .plain joined ∧ Literal taken ∧ denoted = unitsOf taken) ∨
    denoted.length < (unitsOf taken).length + stand.unspent

namespace Spends

variable {stand : Stand} {text taken rest : List Char} {denoted : List Nat}

/-- At most everything is denoted. -/
theorem length_le (spends : Spends stand text taken denoted rest) :
    denoted.length ≤ (unitsOf taken).length + stand.unspent := by
  rcases spends.spent with ⟨joined, rfl, literal, rfl⟩ | fewer
  · exact Nat.le_add_right _ _
  · exact Nat.le_of_lt fewer

variable {character : Char}

/-- A character that goes on with an escape denotes nothing yet. -/
theorem pass {next : Stand} (spends : Spends next text taken denoted rest)
    (within : 0 < next.unspent)
    (more : next.unspent ≤ (unitsOfCode character.toNat).length + stand.unspent) :
    Spends stand (character :: text) (character :: taken) denoted rest := by
  refine ⟨by rw [spends.closed, List.cons_append], .inr ?_⟩
  rcases spends.spent with ⟨joined, rfl, _⟩ | fewer
  · cases within
  · rw [unitsOf_cons, List.length_append]
    omega

/-- A character that ends an escape: something is lost by then. -/
theorem emit {joined : Bool} {units : List Nat}
    (spends : Spends (.plain joined) text taken denoted rest)
    (fewer : units.length < (unitsOfCode character.toNat).length + stand.unspent) :
    Spends stand (character :: text) (character :: taken) (units ++ denoted) rest := by
  refine ⟨by rw [spends.closed, List.cons_append], .inr ?_⟩
  have most := spends.length_le
  rw [Stand.unspent, Nat.add_zero] at most
  rw [unitsOf_cons, List.length_append, List.length_append]
  omega

/-- A character that stands for itself. -/
theorem self {joined : Bool} (spends : Spends (.plain false) text taken denoted rest)
    (itself : character ≠ '"' ∧ character ≠ '\\' ∧ character ≠ '\n' ∧ character ≠ '\r') :
    Spends (.plain joined) (character :: text) (character :: taken)
      (unitsOfCode character.toNat ++ denoted) rest := by
  refine ⟨by rw [spends.closed, List.cons_append], ?_⟩
  rw [unitsOf_cons]
  rcases spends.spent with ⟨_, _, literal, rfl⟩ | fewer
  · exact .inl ⟨joined, rfl, List.forall_mem_cons.2 ⟨itself, literal⟩, rfl⟩
  · right
    rw [List.length_append, List.length_append]
    rw [Stand.unspent] at fewer ⊢
    omega

end Spends

section Step

-- The equations are derived here once, not by each of the proofs below that rewrite with them.
attribute [local simp] literalFrom

variable {stand : Stand} {character : Char} {text rest : List Char} {denoted : List Nat}
  (later : ∀ {next denoted}, literalFrom next text = some (denoted, rest) →
    ∃ taken, Spends next text taken denoted rest)

include later

theorem exists_spends_of_pass {next : Stand}
    (reads : literalFrom next text = some (denoted, rest)) (within : 0 < next.unspent)
    (more : next.unspent ≤ (unitsOfCode character.toNat).length + stand.unspent) :
    ∃ taken, Spends stand (character :: text) taken denoted rest := by
  obtain ⟨taken, spends⟩ := later reads
  exact ⟨_, spends.pass within more⟩

theorem exists_spends_of_emit {units : List Nat}
    (reads : emitted units (literalFrom (.plain false) text) = some (denoted, rest))
    (fewer : units.length < (unitsOfCode character.toNat).length + stand.unspent) :
    ∃ taken, Spends stand (character :: text) taken denoted rest := by
  obtain ⟨others, afterwards, rfl⟩ := emitted_eq_some reads
  obtain ⟨taken, spends⟩ := later afterwards
  exact ⟨_, spends.emit fewer⟩

theorem exists_spends_of_join {joined : Bool}
    (reads : literalFrom (.plain joined) text = some (denoted, rest)) :
    ∃ taken, Spends stand (character :: text) taken denoted rest := by
  obtain ⟨taken, spends⟩ := later reads
  have positive := length_unitsOfCode_pos character.toNat
  have fewer : ([] : List Nat).length <
      (unitsOfCode character.toNat).length + stand.unspent := Nat.lt_add_right _ positive
  exact ⟨_, spends.emit fewer⟩

theorem exists_spends_plain {joined : Bool}
    (reads : literalFrom (.plain joined) (character :: text) = some (denoted, rest)) :
    ∃ taken, Spends (.plain joined) (character :: text) taken denoted rest := by
  rw [literalFrom] at reads
  split_ifs at reads with closes escapes joins breaks
  · cases reads
    refine ⟨[], by rw [closes, List.nil_append], .inl ⟨joined, rfl, ?_, rfl⟩⟩
    exact List.forall_mem_nil _
  · have positive := length_unitsOfCode_pos character.toNat
    exact exists_spends_of_pass later reads Nat.zero_lt_one positive
  · exact exists_spends_of_join later reads
  · obtain ⟨others, afterwards, rfl⟩ := emitted_eq_some reads
    obtain ⟨taken, spends⟩ := later afterwards
    exact ⟨_, spends.self (by simpa [closes, escapes] using breaks)⟩

theorem exists_spends_escaped
    (reads : literalFrom .escaped (character :: text) = some (denoted, rest)) :
    ∃ taken, Spends .escaped (character :: text) taken denoted rest := by
  have positive := length_unitsOfCode_pos character.toNat
  rw [literalFrom] at reads
  split_ifs at reads with hexadecimal unicode zero digit breaks
  · exact exists_spends_of_pass later reads Nat.zero_lt_two (Nat.succ_le_succ positive)
  · exact exists_spends_of_pass later reads Nat.zero_lt_two (Nat.succ_le_succ positive)
  · exact exists_spends_of_emit later reads (Nat.succ_lt_succ positive)
  · exact exists_spends_of_join later reads
  · exact exists_spends_of_emit later reads
      (Nat.lt_succ_of_le (length_escapedUnits_le character))

theorem exists_spends_unicode
    (reads : literalFrom .unicode (character :: text) = some (denoted, rest)) :
    ∃ taken, Spends .unicode (character :: text) taken denoted rest := by
  rw [literalFrom] at reads
  split_ifs at reads with opens
  · exact exists_spends_of_pass later reads Nat.zero_lt_two (Nat.le_add_left _ _)
  · split at reads
    · exact exists_spends_of_pass later reads Nat.zero_lt_two (Nat.le_add_left _ _)
    · cases reads

theorem exists_spends_digits {left value : Nat}
    (reads : literalFrom (.digits left value) (character :: text) = some (denoted, rest)) :
    ∃ taken, Spends (.digits left value) (character :: text) taken denoted rest := by
  rw [literalFrom] at reads
  split at reads
  · split_ifs at reads with last
    · exact exists_spends_of_emit later reads (Nat.lt_add_left _ Nat.one_lt_two)
    · exact exists_spends_of_pass later reads Nat.zero_lt_two (Nat.le_add_left _ _)
  · cases reads

theorem exists_spends_braced {value : Nat} {started : Bool}
    (reads : literalFrom (.braced value started) (character :: text) = some (denoted, rest)) :
    ∃ taken, Spends (.braced value started) (character :: text) taken denoted rest := by
  rw [literalFrom] at reads
  split_ifs at reads with closes complete
  · have positive := length_unitsOfCode_pos character.toNat
    have few := length_unitsOfCode_le value
    apply exists_spends_of_emit later reads
    rw [Stand.unspent]
    omega
  · split at reads
    · split_ifs at reads with valid
      exact exists_spends_of_pass later reads Nat.zero_lt_two (Nat.le_add_left _ _)
    · cases reads

end Step

/-- Whatever is read as a text ends at a quote and is spent on what it denotes. -/
theorem exists_spends {stand : Stand} {text rest : List Char} {denoted : List Nat}
    (reads : literalFrom stand text = some (denoted, rest)) :
    ∃ taken, Spends stand text taken denoted rest := by
  induction text generalizing stand denoted with
  | nil => cases stand <;> cases reads
  | cons character text inductionHypothesis =>
      cases stand with
      | plain joined => exact exists_spends_plain inductionHypothesis reads
      | escaped => exact exists_spends_escaped inductionHypothesis reads
      | unicode => exact exists_spends_unicode inductionHypothesis reads
      | digits left value => exact exists_spends_digits inductionHypothesis reads
      | braced value started => exact exists_spends_braced inductionHypothesis reads

theorem literalFrom_of_literal {value rest : List Char} (literal : Literal value) :
    literalFrom (.plain false) (value ++ '"' :: rest) = some (unitsOf value, rest) := by
  induction value with
  | nil => rfl
  | cons character value inductionHypothesis =>
      obtain ⟨itself, others⟩ := List.forall_mem_cons.1 literal
      obtain ⟨noQuote, noBackslash, noLineFeed, noReturn⟩ := itself
      rw [List.cons_append, literalFrom, inductionHypothesis others, unitsOf_cons]
      simp [noQuote, noBackslash, noLineFeed, noReturn, emitted]

/-- A value between two quotes is closed by the second one and denotes itself exactly if
every character of it stands for itself. -/
theorem literalFrom_eq_iff {value rest : List Char} :
    literalFrom (.plain false) (value ++ '"' :: rest) = some (unitsOf value, rest) ↔
      Literal value := by
  constructor
  · intro reads
    obtain ⟨taken, spends⟩ := exists_spends reads
    obtain rfl : value = taken := List.append_cancel_right spends.closed
    rcases spends.spent with ⟨_, _, literal, _⟩ | fewer
    · exact literal
    · exact absurd fewer (Nat.lt_irrefl _)
  · exact literalFrom_of_literal

/-- Escapes denote one unit each, or a pair, and a joined line none. -/
example :
    literalFrom (.plain false) "a\\n\\x41\\\r\n\\u\x7b1F600\x7d\\\"b\";".toList =
      some ([0x61, 0x0A, 0x41, 0xD83D, 0xDE00, 0x22, 0x62], [';']) := by
  decide +kernel

/-! ### Tokens -/

/-- A piece of a script as it is read.  Code is told apart no further. -/
inductive Token where
  | comment (text : List Char)
  | literal (units : List Nat)
  | code (character : Char)
deriving Repr, DecidableEq

/-- Whether a character is code wherever it starts a token.  A slash, a backslash and the
other two quotes are left out: what they start depends on what is around them. -/
def isCode (character : Char) : Bool :=
  character ≠ '/' && character ≠ '\\' && character ≠ '"' && character ≠ '\x27' &&
    character ≠ '\x60'

/-- Whether a comment goes on with a character. -/
def goesOn (character : Char) : Bool :=
  !endsLine character

/-- The token at the start, and what comes after it; none where more would have to be known
about scripts. -/
def nextToken? : List Char → Option (Token × List Char)
  | [] => none
  | '/' :: '/' :: rest => some (.comment (rest.takeWhile goesOn), rest.dropWhile goesOn)
  | character :: rest =>
      if character = '"' then
        (literalFrom (.plain false) rest).map fun (units, rest) => (.literal units, rest)
      else if isCode character then some (.code character, rest)
      else none

/-- Tokens are read one after the other, up to what is left. -/
inductive Reads : List Char → List Token → List Char → Prop where
  | done {text : List Char} : Reads text [] text
  | next {text rest left : List Char} {token : Token} {tokens : List Token}
      (first : nextToken? text = some (token, rest)) (others : Reads rest tokens left) :
      Reads text (token :: tokens) left

theorem Reads.append {text middle left : List Char} {tokens others : List Token}
    (reads : Reads text tokens middle) (goes : Reads middle others left) :
    Reads text (tokens ++ others) left := by
  induction reads with
  | done => exact goes
  | next first _ inductionHypothesis => exact .next first (inductionHypothesis goes)

theorem reads_singleton_iff {text left : List Char} {token : Token} :
    Reads text [token] left ↔ nextToken? text = some (token, left) := by
  constructor
  · intro reads
    cases reads with
    | next first others =>
        cases others
        exact first
  · intro first
    exact .next first .done

/-! ### Spots -/

/-- A spot of a script that is put together, by what it is meant to be. -/
inductive Spot where
  | code (text : String)
  /-- A comment, up to the end of the line. -/
  | comment (text : String)
  /-- A value between double quotes. -/
  | literal (value : String)
deriving Repr, DecidableEq

namespace Spot

/-- How a spot is written. -/
def source : Spot → String
  | .code text => text
  | .comment text => "//" ++ text
  | .literal value => "\"" ++ value ++ "\""

/-- What a spot is meant to be read as. -/
def tokens : Spot → List Token
  | .code text => text.toList.map .code
  | .comment text => [.comment text.toList]
  | .literal value => [.literal (unitsOf value.toList)]

/-- The spot is read as what it is meant to be, and no further than it was written. -/
def StaysIn (spot : Spot) (after : List Char) : Prop :=
  Reads (spot.source.toList ++ after) spot.tokens after

theorem staysIn_code {text : String} {after : List Char}
    (plain : ∀ character ∈ text.toList, isCode character = true) :
    (Spot.code text).StaysIn after := by
  rw [StaysIn, source, tokens]
  generalize text.toList = characters at plain ⊢
  induction characters with
  | nil => exact .done
  | cons character rest inductionHypothesis =>
      obtain ⟨here, others⟩ := List.forall_mem_cons.1 plain
      refine .next ?_ (inductionHypothesis others)
      have parts := here
      simp only [isCode, Bool.and_eq_true, decide_eq_true_eq] at parts
      rw [List.cons_append, nextToken?]
      · rw [if_neg parts.1.1.2, if_pos here]
      · intro _ slash
        exact absurd slash parts.1.1.1.1

/-- A comment stays in its line exactly if nothing in it ends the line. -/
theorem staysIn_comment_iff {text : String} {next : Char} {rest : List Char}
    (ends : endsLine next = true) :
    (Spot.comment text).StaysIn (next :: rest) ↔
      ∀ character ∈ text.toList, endsLine character = false := by
  have written : (Spot.comment text).source.toList ++ next :: rest =
      '/' :: '/' :: (text.toList ++ next :: rest) := by
    rw [source, String.toList_append]
    rfl
  have stops : goesOn next = false := by rw [goesOn, ends]; rfl
  rw [StaysIn, written, tokens, reads_singleton_iff, nextToken?, Option.some.injEq,
    Prod.mk.injEq, Token.comment.injEq]
  constructor
  · intro same character member
    rw [← same.1] at member
    have goes := List.mem_takeWhile_imp member
    rwa [goesOn, Bool.not_eq_true'] at goes
  · intro stays
    have goes : ∀ character ∈ text.toList, goesOn character = true := by
      intro character member
      rw [goesOn, stays character member]
      rfl
    rw [List.takeWhile_append_of_pos goes, List.dropWhile_append_of_pos goes,
      List.takeWhile_cons_of_neg (by simp [stops]), List.dropWhile_cons_of_neg (by simp [stops]),
      List.append_nil]
    exact ⟨rfl, rfl⟩

/-- A value stays between its quotes exactly if every character stands for itself. -/
theorem staysIn_literal_iff {value : String} {after : List Char} :
    (Spot.literal value).StaysIn after ↔ Literal value.toList := by
  have written : (Spot.literal value).source.toList ++ after =
      '"' :: (value.toList ++ '"' :: after) := by
    simp [source]
  rw [StaysIn, written, tokens, reads_singleton_iff, nextToken?]
  · rw [if_pos rfl, ← literalFrom_eq_iff]
    cases literalFrom (.plain false) (value.toList ++ '"' :: after) <;> simp [Prod.ext_iff]
  · intro _ slash
    cases slash

end Spot

/-- The text of spots, one after the other. -/
def textOf (spots : List Spot) : String :=
  String.join (spots.map Spot.source)

theorem toList_textOf_cons (spot : Spot) (spots : List Spot) :
    (textOf (spot :: spots)).toList = spot.source.toList ++ (textOf spots).toList := by
  rw [textOf, List.map_cons, String.join_cons, String.toList_append]
  rfl

theorem toList_textOf_append (spots others : List Spot) :
    (textOf (spots ++ others)).toList = (textOf spots).toList ++ (textOf others).toList := by
  rw [textOf, List.map_append, String.join_append, String.toList_append]
  rfl

/-- Where every spot stays in its place whatever comes after it, all are read as what they
are meant to be. -/
theorem reads_spots {spots : List Spot} {rest : List Char}
    (stay : ∀ spot ∈ spots, ∀ after, spot.StaysIn after) :
    Reads ((textOf spots).toList ++ rest) (spots.flatMap Spot.tokens) rest := by
  induction spots with
  | nil => exact .done
  | cons spot spots inductionHypothesis =>
      obtain ⟨here, others⟩ := List.forall_mem_cons.1 stay
      rw [toList_textOf_cons, List.append_assoc, List.flatMap_cons]
      exact Reads.append (here _) (inductionHypothesis others)

end RpcTools.Script
