import Mathlib.Logic.Basic

/-!
Reading generated source text back: declarations, shifts and calls of methods.
-/

namespace GeneratedText

inductive Token where
  | word (letters : List Char)
  | symbol (char : Char)
  deriving DecidableEq, Repr

def isWordChar (char : Char) : Bool := char.isAlphanum || char = '_'

def isBlank (char : Char) : Bool := char = ' ' || char = '\t' || char = '\n'

def flush (letters : List Char) (rest : List Token) : List Token :=
  if letters = [] then rest else .word letters :: rest

def lexFrom : List Char → List Char → List Token
  | letters, [] => flush letters []
  | letters, char :: rest =>
      if isWordChar char then lexFrom (letters ++ [char]) rest
      else if isBlank char then flush letters (lexFrom [] rest)
      else flush letters (.symbol char :: lexFrom [] rest)

def lex (text : List Char) : List Token := lexFrom [] text

structure IsWord (letters : List Char) : Prop where
  nonempty : letters ≠ []
  made : letters.all isWordChar = true

theorem lexFrom_letters {letters : List Char} (made : letters.all isWordChar = true)
    (start rest : List Char) :
    lexFrom start (letters ++ rest) = lexFrom (start ++ letters) rest := by
  induction letters generalizing start with
  | nil => simp
  | cons char letters ih =>
    rw [List.all_cons, Bool.and_eq_true] at made
    simp only [List.cons_append, lexFrom, made.1, if_true]
    rw [ih made.2, List.append_assoc, List.singleton_append]

theorem lexFrom_ended {letters : List Char} (nonempty : letters ≠ []) {char : Char}
    (other : isWordChar char = false) (rest : List Char) :
    lexFrom letters (char :: rest) = .word letters :: lexFrom [] (char :: rest) := by
  by_cases blank : isBlank char = true
  · simp [lexFrom, other, blank, flush, nonempty]
  · simp [lexFrom, other, blank, flush, nonempty]

theorem lexFrom_word {letters : List Char} (word : IsWord letters) {char : Char}
    (other : isWordChar char = false) (rest : List Char) :
    lexFrom [] (letters ++ char :: rest) = .word letters :: lexFrom [] (char :: rest) := by
  rw [lexFrom_letters word.made, List.nil_append, lexFrom_ended word.nonempty other]

inductive Statement where
  | declare (type name : List Char)
  | shiftLeft (receiver argument : List Char)
  | shiftRight (receiver argument : List Char)
  | call (receiver method : List Char) (arguments : List (List Char))
  deriving DecidableEq, Repr

def parseStatement : List Token → Option Statement
  | [.word type, .word name] => some (.declare type name)
  | [.word receiver, .symbol '<', .symbol '<', .word argument] =>
      some (.shiftLeft receiver argument)
  | [.word receiver, .symbol '>', .symbol '>', .word argument] =>
      some (.shiftRight receiver argument)
  | [.word receiver, .symbol '.', .word method, .symbol '(', .word argument, .symbol ')'] =>
      some (.call receiver method [argument])
  | [.word receiver, .symbol '.', .word method, .symbol '(', .word first, .symbol ',',
      .word second, .symbol ')'] => some (.call receiver method [first, second])
  | _ => none

def parseFrom : List Token → List Token → Option (List Statement)
  | [], [] => some []
  | _ :: _, [] => none
  | begun, token :: rest =>
      if token = .symbol ';' then
        (parseStatement begun).bind fun statement => (parseFrom [] rest).map (statement :: ·)
      else parseFrom (begun ++ [token]) rest

def parse (text : List Char) : Option (List Statement) := parseFrom [] (lex text)

theorem parseFrom_statement {tokens : List Token} (complete : .symbol ';' ∉ tokens)
    (begun rest : List Token) :
    parseFrom begun (tokens ++ .symbol ';' :: rest) =
      (parseStatement (begun ++ tokens)).bind fun statement =>
        (parseFrom [] rest).map (statement :: ·) := by
  induction tokens generalizing begun with
  | nil => simp [parseFrom]
  | cons token tokens ih =>
    obtain ⟨other, others⟩ := not_or.mp (mt List.mem_cons.mpr complete)
    simp only [List.cons_append, parseFrom, Ne.symm other, if_false]
    rw [ih others, List.append_assoc, List.singleton_append]

def Renders (line : List Char) (statement : Statement) : Prop :=
  ∃ tokens, .symbol ';' ∉ tokens ∧ parseStatement tokens = some statement ∧
    ∀ rest, lexFrom [] (line ++ rest) = tokens ++ .symbol ';' :: lexFrom [] rest

theorem Renders.parse_append {line : List Char} {statement : Statement}
    (renders : Renders line statement) (rest : List Char) :
    parse (line ++ rest) = (parse rest).map (statement :: ·) := by
  obtain ⟨tokens, complete, parsed, lexed⟩ := renders
  rw [parse, lex, lexed, parseFrom_statement complete, List.nil_append, parsed]
  rfl

theorem parse_flatMap {Item : Type} {line : Item → List Char} {statement : Item → Statement}
    {items : List Item} (rendered : ∀ item ∈ items, Renders (line item) (statement item)) :
    parse (items.flatMap line) = some (items.map statement) := by
  induction items with
  | nil => rfl
  | cons item items ih =>
    rw [List.forall_mem_cons] at rendered
    rw [List.flatMap_cons, rendered.1.parse_append, ih rendered.2]
    rfl

theorem executes_of_foldlM {State Item : Type} {exec : State → Item → Option State}
    {reachable : State → Prop} (kept : ∀ state item next, reachable state →
      exec state item = some next → reachable next)
    {items : List Item} {state last : State} (ran : items.foldlM exec state = some last)
    (reached : reachable state) :
    ∀ item ∈ items, ∃ before after, reachable before ∧ exec before item = some after := by
  induction items generalizing state with
  | nil => simp
  | cons first rest ih =>
    rw [List.foldlM_cons] at ran
    obtain ⟨next, executed, later⟩ := Option.bind_eq_some_iff.mp ran
    rw [List.forall_mem_cons]
    exact ⟨⟨state, next, reached, executed⟩, ih later (kept state first next reached executed)⟩

end GeneratedText
