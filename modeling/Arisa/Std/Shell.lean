import Mathlib.Data.List.TakeWhile

/-!
# Reading a shell command

The tokens that a POSIX shell recognizes in a command text, and the simple command that
they begin with. A text that needs more than quotes and operators (an expansion, a
pattern, a comment, a here-document, a continued line) is not read.
-/

namespace Arisa.Std.Shell

/-- A character of a word; the shell gives a quoted one no meaning of its own. -/
structure Letter where
  char : Char
  quoted : Bool
deriving DecidableEq

def bare (text : List Char) : List Letter := text.map (⟨·, false⟩)

def literal (text : List Char) : List Letter := text.map (⟨·, true⟩)

/-- The word after quote removal. -/
def plain (letters : List Letter) : List Char := letters.map Letter.char

/-- Quote removal leaves the characters of an unquoted word. -/
@[simp] theorem plain_bare (text : List Char) : plain (bare text) = text := by
  simp [plain, bare, Function.comp_def]

/-- Quote removal leaves the characters of a quoted word. -/
@[simp] theorem plain_literal (text : List Char) : plain (literal text) = text := by
  simp [plain, literal, Function.comp_def]

/-- Quote removal goes part by part. -/
@[simp] theorem plain_append (left right : List Letter) :
    plain (left ++ right) = plain left ++ plain right :=
  List.map_append

inductive Token
  | word (letters : List Letter)
  | ioNumber (digits : List Char)
  | operator (text : List Char)
deriving DecidableEq

/-! ### Token recognition -/

/-- What a character is to the shell outside of quotes. -/
inductive Kind
  | blank
  | operator
  | quote
  | escape
  | ordinary

def isOrdinary (char : Char) : Bool :=
  char.isAlphanum || "_-.:/=,+@%".toList.contains char

def kind (char : Char) : Option Kind :=
  if char = ' ' ∨ char = '\t' then some .blank
  else if "|&;<>()\n".toList.contains char then some .operator
  else if char = '\'' then some .quote
  else if char = '\\' then some .escape
  else if isOrdinary char then some .ordinary
  else none

def operators : List (List Char) :=
  ["|", "||", "&", "&&", ";", ";;", "<", "<<", ">", ">>", "<&", ">&", "<>", ">|", "(", ")",
    "\n"].map String.toList

/-- Where the reader stands: between two tokens, in a word, in one of its quoted parts,
after a backslash, or in an operator. -/
inductive Reading
  | between
  | word (letters : List Letter)
  | quoted (letters : List Letter)
  | escaped (letters : List Letter)
  | operator (text : List Char)
deriving DecidableEq

/-- Digits in front of a redirection are no word. -/
def tokenOf (letters : List Letter) (next : Option Char) : Token :=
  if (next = some '<' ∨ next = some '>') ∧ letters ≠ [] ∧
      letters.all fun letter => letter.char.isDigit && !letter.quoted then
    .ioNumber (plain letters)
  else .word letters

/-- The token that ends in front of `next`, or at the end of the text. -/
def Reading.delimit (next : Option Char) : Reading → Option (List Token)
  | .between => some []
  | .word letters => some [tokenOf letters next]
  | .operator text => if text = "<<".toList then none else some [.operator text]
  | .quoted _ => none
  | .escaped _ => none

/-- A word goes on with the character, or begins with it. -/
def Reading.join (char : Char) (next : List Letter → Reading) :
    Reading → Option (List Token × Reading)
  | .word letters => some ([], next letters)
  | reading => (reading.delimit (some char)).map (·, next [])

/-- The longest operator counts. -/
def Reading.operate (char : Char) : Reading → Option (List Token × Reading)
  | .operator text =>
      if text ++ [char] ∈ operators then some ([], .operator (text ++ [char]))
      else ((Reading.operator text).delimit (some char)).map (·, .operator [char])
  | reading => (reading.delimit (some char)).map (·, .operator [char])

def Reading.unquoted (reading : Reading) (char : Char) : Option (List Token × Reading) :=
  match kind char with
  | some .blank => (reading.delimit (some char)).map (·, .between)
  | some .operator => reading.operate char
  | some .quote => reading.join char .quoted
  | some .escape => reading.join char .escaped
  | some .ordinary => reading.join char fun letters => .word (letters ++ [⟨char, false⟩])
  | none => none

/-- One character: the tokens that it ends, and where the reader stands after it. -/
def step (reading : Reading) (char : Char) : Option (List Token × Reading) :=
  match reading with
  | .quoted letters =>
      some ([], if char = '\'' then .word letters else .quoted (letters ++ [⟨char, true⟩]))
  | .escaped letters =>
      if char = '\n' then none else some ([], .word (letters ++ [⟨char, true⟩]))
  | reading => reading.unquoted char

def read (reading : Reading) : List Char → Option (List Token × Reading)
  | [] => some ([], reading)
  | char :: rest =>
      (step reading char).bind fun (tokens, next) =>
        (read next rest).map fun (later, last) => (tokens ++ later, last)

/-- The tokens of a whole text. -/
def lex (input : List Char) : Option (List Token) :=
  (read .between input).bind fun (tokens, last) => (last.delimit none).map (tokens ++ ·)

/-! ### How readings compose -/

/-- From `first`, the text gives `tokens` and leaves the reader at `last`. -/
def Reads (first : Reading) (text : List Char) (tokens : List Token) (last : Reading) : Prop :=
  read first text = some (tokens, last)

instance (first last : Reading) (text : List Char) (tokens : List Token) :
    Decidable (Reads first text tokens last) :=
  inferInstanceAs (Decidable (_ = _))

/-- An empty text leaves the reader where it is. -/
theorem Reads.nil (reading : Reading) : Reads reading [] [] reading :=
  rfl

/-- A text is read character by character. -/
theorem Reads.cons {first next last : Reading} {char : Char} {rest : List Char}
    {tokens later : List Token} (now : step first char = some (tokens, next))
    (then_ : Reads next rest later last) : Reads first (char :: rest) (tokens ++ later) last := by
  rw [Reads, read, now, Option.bind_some]
  exact Option.map_eq_some_iff.mpr ⟨(later, last), then_, rfl⟩

/-- A text can be read in parts. -/
theorem Reads.append {first next last : Reading} {left right : List Char}
    {tokens later : List Token} (now : Reads first left tokens next)
    (then_ : Reads next right later last) :
    Reads first (left ++ right) (tokens ++ later) last := by
  induction left generalizing first tokens with
  | nil =>
      cases now
      exact then_
  | cons char rest ih =>
      obtain ⟨⟨head, middle⟩, stepped, remains⟩ := Option.bind_eq_some_iff.mp now
      obtain ⟨⟨tail, stop⟩, readRest, same⟩ := Option.map_eq_some_iff.mp remains
      cases same
      rw [List.append_assoc]
      exact Reads.cons stepped (ih readRest)

/-- The tokens of a text are those read on the way and what its end delimits. -/
theorem lex_of_reads {text : List Char} {tokens final : List Token} {last : Reading}
    (reads : Reads .between text tokens last) (ends : last.delimit none = some final) :
    lex text = some (tokens ++ final) := by
  rw [lex, show read .between text = some (tokens, last) from reads, Option.bind_some]
  exact Option.map_eq_some_iff.mpr ⟨final, ends, rfl⟩

/-! ### Words and quotes -/

/-- An ordinary character is no operator, quote or blank. -/
theorem kind_of_isOrdinary {char : Char} (ordinary : isOrdinary char = true) :
    kind char = some .ordinary := by
  have other : ∀ special ∈ " \t|&;<>()\n'\\".toList, char ≠ special := by
    intro special listed same
    have refused : (" \t|&;<>()\n'\\".toList.all fun special => !isOrdinary special) = true := by
      decide
    have special := List.all_eq_true.mp refused special listed
    rw [← same, ordinary] at special
    cases special
  simp only [kind, ordinary, if_true]
  simp at other
  simp [other]

/-- Between tokens a character has its unquoted meaning. -/
theorem step_between (char : Char) : step .between char = Reading.between.unquoted char :=
  rfl

/-- In a word, too, a character has its unquoted meaning. -/
theorem step_word (letters : List Letter) (char : Char) :
    step (.word letters) char = (Reading.word letters).unquoted char :=
  rfl

/-- Ordinary characters go on with the word that is being read. -/
theorem reads_ordinary {text : List Char} (ordinary : ∀ char ∈ text, isOrdinary char = true)
    (letters : List Letter) :
    Reads (.word letters) text [] (.word (letters ++ bare text)) := by
  induction text generalizing letters with
  | nil => simpa [bare] using Reads.nil (.word letters)
  | cons char rest ih =>
      have now : step (.word letters) char = some ([], .word (letters ++ [⟨char, false⟩])) := by
        rw [step_word, Reading.unquoted, kind_of_isOrdinary (ordinary char List.mem_cons_self)]
        rfl
      have later := ih (fun char member => ordinary char (List.mem_cons_of_mem _ member))
        (letters ++ [⟨char, false⟩])
      rw [List.append_assoc] at later
      exact Reads.cons now later

/-- A text of ordinary characters is one unquoted word. -/
theorem reads_word {text : List Char} (filled : text ≠ [])
    (ordinary : ∀ char ∈ text, isOrdinary char = true) :
    Reads .between text [] (.word (bare text)) := by
  cases text with
  | nil => exact absurd rfl filled
  | cons char rest =>
      obtain ⟨first, others⟩ := List.forall_mem_cons.mp ordinary
      have now : step .between char = some ([], .word (bare [char])) := by
        rw [step_between, Reading.unquoted, kind_of_isOrdinary first]
        rfl
      exact Reads.cons now (reads_ordinary others (bare [char]))

/-- The end of the text ends a word. -/
theorem delimit_word (letters : List Letter) :
    (Reading.word letters).delimit none = some [.word letters] :=
  rfl

/-- A blank ends the word. -/
theorem reads_blank (letters : List Letter) :
    Reads (.word letters) [' '] [.word letters] .between :=
  rfl

/-- A text without a quote goes whole into the quoted part that is being read. -/
theorem reads_quoted {text : List Char} (inside : '\'' ∉ text) (letters : List Letter) :
    Reads (.quoted letters) text [] (.quoted (letters ++ literal text)) := by
  induction text generalizing letters with
  | nil => simpa [literal] using Reads.nil (.quoted letters)
  | cons char rest ih =>
      obtain ⟨here, later⟩ := not_or.mp (mt List.mem_cons.mpr inside)
      have now : step (.quoted letters) char =
          some ([], .quoted (letters ++ [⟨char, true⟩])) := by
        rw [step, if_neg fun same => here same.symm]
      have rest := ih later (letters ++ [⟨char, true⟩])
      rw [List.append_assoc] at rest
      exact Reads.cons now rest

/-- `${text//char/replacement}`. -/
def replaceAll (char : Char) (replacement : List Char) (text : List Char) : List Char :=
  text.flatMap fun other => if other = char then replacement else [other]

/-- Between two quotes, a text in which each quote is replaced by `'\''` is read as it was. -/
theorem reads_replaced (text : List Char) (letters : List Letter) :
    Reads (.quoted letters) (replaceAll '\'' "'\\''".toList text) []
      (.quoted (letters ++ literal text)) := by
  induction text generalizing letters with
  | nil => simpa [replaceAll, literal] using Reads.nil (.quoted letters)
  | cons char rest ih =>
      have now : Reads (.quoted letters) (if char = '\'' then "'\\''".toList else [char]) []
          (.quoted (letters ++ [⟨char, true⟩])) := by
        by_cases quote : char = '\''
        · rw [if_pos quote, quote]
          rfl
        · rw [if_neg quote]
          exact reads_quoted (by simpa using Ne.symm quote) letters
      have later := ih (letters ++ [⟨char, true⟩])
      rw [List.append_assoc] at later
      exact now.append later

/-! ### Simple commands -/

structure Redirection where
  descriptor : Option (List Char)
  operator : List Char
  target : List Char
deriving DecidableEq

structure SimpleCommand where
  assignments : List (String × List Char) := []
  words : List (List Char) := []
  redirections : List Redirection := []
deriving DecidableEq

def isRedirection (text : List Char) : Bool :=
  (["<", ">", ">>", "<&", ">&", "<>", ">|"].map String.toList).contains text

/-- Words that begin a compound command, or go on with one. -/
def isReserved (letters : List Letter) : Bool :=
  ["case", "do", "done", "elif", "else", "esac", "fi", "for", "function", "if", "in", "select",
    "then", "time", "until", "while"].any fun reserved => letters = bare reserved.toList

/-- `[A-Za-z_][A-Za-z0-9_]*`. -/
def isName : List Char → Bool
  | [] => false
  | char :: rest =>
      (char.isAlpha || char == '_') && rest.all fun char => char.isAlphanum || char == '_'

/-- The name and the value of a word `name=value`; neither the name nor the `=` is quoted. -/
def assignment (letters : List Letter) : Option (String × List Char) :=
  let name := letters.takeWhile (· ≠ ⟨'=', false⟩)
  match letters.drop name.length with
  | _ :: value =>
      if name.all (fun letter => !letter.quoted) ∧ isName (plain name) then
        some (String.ofList (plain name), plain value)
      else none
  | [] => none

def SimpleCommand.addWord (command : SimpleCommand) (letters : List Letter) : SimpleCommand :=
  if command.words = [] then
    match assignment letters with
    | some entry => { command with assignments := command.assignments ++ [entry] }
    | none => { command with words := [plain letters] }
  else { command with words := command.words ++ [plain letters] }

def SimpleCommand.redirect (command : SimpleCommand) (descriptor : Option (List Char))
    (operator : List Char) (target : List Letter) : SimpleCommand :=
  { command with
    redirections := command.redirections ++ [⟨descriptor, operator, plain target⟩] }

/-- The simple command at the beginning, and the tokens from the operator that ends it. -/
def simpleCommand (command : SimpleCommand) :
    List Token → Option (SimpleCommand × List Token)
  | [] => some (command, [])
  | .word letters :: rest =>
      if command = {} ∧ isReserved letters then none
      else simpleCommand (command.addWord letters) rest
  | .ioNumber digits :: .operator text :: .word target :: rest =>
      if isRedirection text then
        simpleCommand (command.redirect (some digits) text target) rest
      else none
  | .operator text :: .word target :: rest =>
      if isRedirection text then simpleCommand (command.redirect none text target) rest
      else some (command, .operator text :: .word target :: rest)
  | .operator text :: rest =>
      if isRedirection text then none else some (command, .operator text :: rest)
  | .ioNumber _ :: _ => none

/-- The simple command at the beginning of a text. -/
def parse (text : List Char) : Option (SimpleCommand × List Token) :=
  (lex text).bind (simpleCommand {})

/-- A word without `=` assigns nothing. -/
theorem assignment_of_not_mem {text : List Char} (without : '=' ∉ text) :
    assignment (bare text) = none := by
  have all : (bare text).takeWhile (· ≠ ⟨'=', false⟩) = bare text := by
    rw [List.takeWhile_eq_self_iff]
    intro letter member
    obtain ⟨char, listed, rfl⟩ := List.mem_map.mp member
    have other : char ≠ '=' := fun same => without (same ▸ listed)
    simp [other]
  simp only [assignment, all, List.drop_length]

/-- The variables that the command sets; the last assignment to a name counts. -/
def SimpleCommand.environment (command : SimpleCommand) (name : String) : Option (List Char) :=
  command.assignments.reverse.lookup name

/-- Where no name is assigned twice, the first assignment is the last. -/
theorem environment_of_nodup (command : SimpleCommand)
    (distinct : (command.assignments.map Prod.fst).Nodup) (name : String) :
    command.environment name = command.assignments.lookup name := by
  have reversed (entries : List (String × List Char)) (distinct : (entries.map Prod.fst).Nodup) :
      entries.reverse.lookup name = entries.lookup name := by
    induction entries with
    | nil => rfl
    | cons entry rest ih =>
        obtain ⟨key, value⟩ := entry
        obtain ⟨new, others⟩ := List.nodup_cons.mp distinct
        rw [List.reverse_cons, List.lookup_append, ih others]
        by_cases same : name = key
        · have absent : rest.lookup name = none := by
            rw [List.lookup_eq_none_iff]
            intro other listed
            have differs : name ≠ other.1 := fun equal =>
              new (List.mem_map.mpr ⟨other, listed, equal.symm.trans same⟩)
            simpa using differs
          rw [absent, Option.none_or, same, List.lookup_cons_self, List.lookup_cons_self]
        · have differs : (name == key) = false := by simpa using same
          rw [List.lookup_cons, List.lookup_cons, differs, List.lookup_nil, Option.or_none]
  exact reversed command.assignments distinct

/-! ### Words after the name of a command -/

/-- After the first word, another one is a word of the command whatever it says. -/
theorem simpleCommand_word {command : SimpleCommand} (named : command.words ≠ [])
    (letters : List Letter) (rest : List Token) :
    simpleCommand command (.word letters :: rest) =
      simpleCommand { command with words := command.words ++ [plain letters] } rest := by
  have started : command ≠ {} := fun empty => named (empty ▸ rfl)
  rw [simpleCommand, if_neg fun both => started both.1, SimpleCommand.addWord, if_neg named]

/-- The first word that is no assignment names the command, and the others are arguments. -/
theorem simpleCommand_words (name : List Char) (free : isReserved (bare name) = false)
    (first : assignment (bare name) = none) (assignments : List (String × List Char))
    (arguments : List (List Letter)) (rest : List Token) :
    simpleCommand { assignments := assignments }
        (((bare name) :: arguments).map .word ++ rest) =
      simpleCommand { assignments := assignments, words := name :: arguments.map plain } rest := by
  have arguments_read (done : List (List Char)) (named : done ≠ []) :
      simpleCommand { assignments := assignments, words := done } (arguments.map .word ++ rest) =
        simpleCommand { assignments := assignments, words := done ++ arguments.map plain }
          rest := by
    induction arguments generalizing done with
    | nil => rw [List.map_nil, List.map_nil, List.nil_append, List.append_nil]
    | cons letters later ih =>
        rw [List.map_cons, List.cons_append, simpleCommand_word named,
          ih _ (by simp), List.append_assoc, List.map_cons, List.singleton_append]
  rw [List.map_cons, List.cons_append, simpleCommand, if_neg (by simp [free]),
    SimpleCommand.addWord, if_pos rfl, first, plain_bare]
  exact arguments_read [name] (by simp)

/-- Words without an assignment at their head are the command's name and its arguments. -/
theorem parse_words {text name : List Char} {arguments : List (List Letter)} {rest : List Token}
    (tokens : lex text = some ((bare name :: arguments).map .word ++ rest))
    (free : isReserved (bare name) = false) (first : assignment (bare name) = none) :
    parse text = simpleCommand { words := name :: arguments.map plain } rest := by
  rw [parse, tokens, Option.bind_some]
  exact simpleCommand_words name free first [] arguments rest

/-! ### Assignments -/

/-- `name=value`. -/
def assignmentText (entry : String × List Char) : List Char :=
  entry.1.toList ++ '=' :: entry.2

/-- The name is one that can be assigned to. -/
def Assignable (name : String) : Prop :=
  isName name.toList = true ∧ '=' ∉ name.toList

instance (name : String) : Decidable (Assignable name) :=
  inferInstanceAs (Decidable (_ ∧ _))

/-- A name, an `=` and a value, all unquoted, are read as they were written. -/
theorem assignment_bare {entry : String × List Char} (assignable : Assignable entry.1) :
    assignment (bare (assignmentText entry)) = some entry := by
  have name : (bare (assignmentText entry)).takeWhile (· ≠ ⟨'=', false⟩) =
      bare entry.1.toList := by
    rw [assignmentText, bare, List.map_append, List.takeWhile_append_of_pos]
    · simp [bare]
    · intro letter member
      obtain ⟨char, listed, rfl⟩ := List.mem_map.mp member
      have other : char ≠ '=' := fun same => assignable.2 (same ▸ listed)
      simp [other]
  have value : (bare (assignmentText entry)).drop (bare entry.1.toList).length =
      ⟨'=', false⟩ :: bare entry.2 := by
    simp [assignmentText, bare]
  have unquoted : (bare entry.1.toList).all (fun letter => !letter.quoted) = true := by
    simp [bare]
  simp only [assignment, name, value, unquoted, plain_bare, assignable.1, and_self, if_true,
    String.ofList_toList]

/-- No reserved word has an `=` in it. -/
theorem isReserved_assignment (entry : String × List Char) :
    isReserved (bare (assignmentText entry)) = false := by
  have equals : (⟨'=', false⟩ : Letter) ∈ bare (assignmentText entry) := by
    simp [bare, assignmentText]
  rw [isReserved, List.any_eq_false]
  intro reserved listed same
  have without : ∀ reserved ∈ ["case", "do", "done", "elif", "else", "esac", "fi", "for",
      "function", "if", "in", "select", "then", "time", "until", "while"],
      (⟨'=', false⟩ : Letter) ∉ bare reserved.toList := by decide
  exact without reserved listed (of_decide_eq_true same ▸ equals)

/-- Assignments with ordinary values, each with a blank after it, are read one by one. -/
theorem reads_assignments {entries : List (String × List Char)}
    (ordinary : ∀ entry ∈ entries, ∀ char ∈ assignmentText entry, isOrdinary char = true) :
    Reads .between (entries.flatMap fun entry => assignmentText entry ++ [' '])
      (entries.map fun entry => .word (bare (assignmentText entry))) .between := by
  induction entries with
  | nil => exact Reads.nil .between
  | cons entry rest ih =>
      obtain ⟨first, others⟩ := List.forall_mem_cons.mp ordinary
      have filled : assignmentText entry ≠ [] := by simp [assignmentText]
      have now := (reads_word filled first).append (reads_blank _)
      exact now.append (ih others)

/-- Assignments in front of a command are collected in order. -/
theorem simpleCommand_assignments {entries : List (String × List Char)}
    (assignable : ∀ entry ∈ entries, Assignable entry.1) (done : List (String × List Char))
    (rest : List Token) :
    simpleCommand { assignments := done }
        (entries.map (fun entry => .word (bare (assignmentText entry))) ++ rest) =
      simpleCommand { assignments := done ++ entries } rest := by
  induction entries generalizing done with
  | nil => rw [List.map_nil, List.nil_append, List.append_nil]
  | cons entry later ih =>
      obtain ⟨first, others⟩ := List.forall_mem_cons.mp assignable
      have added : SimpleCommand.addWord { assignments := done } (bare (assignmentText entry)) =
          { assignments := done ++ [entry] } := by
        simp only [SimpleCommand.addWord, assignment_bare first, if_true]
      rw [List.map_cons, List.cons_append, simpleCommand, isReserved_assignment, added,
        if_neg (by simp), ih others, List.append_assoc, List.singleton_append]

end Arisa.Std.Shell
