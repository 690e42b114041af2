import SqlToolkit.Dialect
/-!
The lexemes of a statement, as any reader of SQL takes it apart: words, signs, quoted texts with the
doubled quotes in them undone, punctuation and brackets. A text that is put together of two is read
as the two one behind the other, as long as no lexeme runs over the seam.
-/

namespace SqlToolkit

/-- What a text is made of, apart from blanks and brackets. -/
inductive Atom where
  | word (letters : List Char)
  | sign (characters : List Char)
  | quoted (quote : Char) (content : List Char)
  | mark (c : Char)
  deriving DecidableEq, Repr

inductive Lexeme where
  | opening
  | closing
  | atom (atom : Atom)
  deriving DecidableEq, Repr

/-- Where a text is being read. What is read of an atom so far is kept backwards. -/
inductive Mode where
  | between
  | word (read : List Char)
  | sign (read : List Char)
  | quoted (quote : Char) (read : List Char)
  /-- Behind a quote that closes the text, unless another one follows. -/
  | closing (quote : Char) (read : List Char)
  deriving DecidableEq, Repr

namespace Mode

def isOpen : Mode → Bool
  | quoted _ _ => true
  | _ => false

/-- The atom that ends here. -/
def flush : Mode → List Lexeme
  | between => []
  | word read => [.atom (.word read.reverse)]
  | sign read => [.atom (.sign read.reverse)]
  | quoted _ _ => []
  | closing quote read => [.atom (.quoted quote read.reverse)]

end Mode

/-! Characters -/

/-- Blanks, brackets and punctuation, which end what stands before them. -/
def isBreak (c : Char) : Bool :=
  c = ' ' || c = '(' || c = ')' || c = ',' || c = '.' || c = ':'

/-- What words are made of; markers and parameters are words as well. -/
def isLetter (c : Char) : Bool :=
  c.isAlphanum || c = '_' || c = '?' || c = '%' || c = '$'

namespace Vendor

def isQuote (vendor : Vendor) (c : Char) : Bool :=
  c = '\x27' || c = '\x22' || c = vendor.quote

def isSign (vendor : Vendor) (c : Char) : Bool :=
  !isBreak c && !isLetter c && !vendor.isQuote c

variable {vendor : Vendor} {c : Char}

theorem isQuote_eq_false_of_break (breaks : isBreak c = true) : vendor.isQuote c = false := by
  simp only [isBreak, Bool.or_eq_true, decide_eq_true_eq] at breaks
  rcases breaks with ((((rfl | rfl) | rfl) | rfl) | rfl) | rfl <;> cases vendor <;> decide

theorem isLetter_eq_false_of_break (breaks : isBreak c = true) : isLetter c = false := by
  simp only [isBreak, Bool.or_eq_true, decide_eq_true_eq] at breaks
  rcases breaks with ((((rfl | rfl) | rfl) | rfl) | rfl) | rfl <;> decide

theorem isQuote_eq_false_of_letter (letter : isLetter c = true) : vendor.isQuote c = false := by
  have unlike : isLetter '\x27' = false ∧ isLetter '\x22' = false ∧
      isLetter vendor.quote = false := by
    cases vendor <;> decide
  cases quotes : vendor.isQuote c with
  | false => rfl
  | true =>
      simp only [isQuote, Bool.or_eq_true, decide_eq_true_eq] at quotes
      rcases quotes with (rfl | rfl) | rfl <;> simp [unlike] at letter

/-! Reading -/

/-- A character at which an atom or a bracket begins. -/
def start (vendor : Vendor) (c : Char) : List Lexeme × Mode :=
  if c = ' ' then ([], .between)
  else if c = '(' then ([.opening], .between)
  else if c = ')' then ([.closing], .between)
  else if isBreak c then ([.atom (.mark c)], .between)
  else if vendor.isQuote c then ([], .quoted c [])
  else if isLetter c then ([], .word [c])
  else ([], .sign [c])

theorem start_of_unbroken (unbroken : isBreak c = false) :
    vendor.start c =
      if vendor.isQuote c then ([], .quoted c [])
      else if isLetter c then ([], .word [c])
      else ([], .sign [c]) := by
  have others := unbroken
  simp only [isBreak, Bool.or_eq_false_iff, decide_eq_false_iff_not] at others
  simp [start, unbroken, others]

/-- A character that belongs to the atom that is being read. -/
def extend (vendor : Vendor) : Mode → Char → Option Mode
  | .between, _ => none
  | .word read, c => if isLetter c then some (.word (c :: read)) else none
  | .sign read, c => if vendor.isSign c then some (.sign (c :: read)) else none
  | .quoted quote read, c =>
      if vendor.isQuote c ∧ c = quote then some (.closing quote read)
      else some (.quoted quote (c :: read))
  | .closing quote read, c =>
      if vendor.isQuote c ∧ c = quote then some (.quoted quote (c :: read)) else none

def lex (vendor : Vendor) (mode : Mode) : List Char → List Lexeme
  | [] => mode.flush
  | c :: rest =>
      match vendor.extend mode c with
      | some next => vendor.lex next rest
      | none => mode.flush ++ (vendor.start c).1 ++ vendor.lex (vendor.start c).2 rest

/-- Where a text is being read behind its last character. -/
def behind (vendor : Vendor) (mode : Mode) : List Char → Mode
  | [] => mode
  | c :: rest => vendor.behind ((vendor.extend mode c).getD (vendor.start c).2) rest

theorem behind_append (mode : Mode) (left right : List Char) :
    vendor.behind mode (left ++ right) = vendor.behind (vendor.behind mode left) right := by
  induction left generalizing mode with
  | nil => rfl
  | cons c left ih => exact ih _

/-- A text may be read in two parts if its second part begins a new atom. -/
theorem lex_append {mode : Mode} {left right : List Char}
    (ends : ∀ c ∈ right.head?, vendor.extend (vendor.behind mode left) c = none) :
    vendor.lex mode (left ++ right) = vendor.lex mode left ++ vendor.lex .between right := by
  induction left generalizing mode with
  | nil =>
      cases right with
      | nil => simp [lex, Mode.flush]
      | cons c right =>
          have fresh : vendor.extend mode c = none := ends c rfl
          have blank : vendor.extend .between c = none := rfl
          have none : Mode.between.flush = [] := rfl
          simp only [List.nil_append, lex, fresh, blank, none, List.append_assoc]
  | cons c left ih =>
      rw [List.cons_append, lex, lex]
      rw [behind] at ends
      cases same : vendor.extend mode c with
      | some next =>
          rw [same] at ends
          exact ih ends
      | none =>
          rw [same] at ends
          have later := ih ends
          simp only [Option.getD_none] at later
          simp only [later, List.append_assoc]

theorem extend_break {mode : Mode} (closed : mode.isOpen = false) (breaks : isBreak c = true) :
    vendor.extend mode c = none := by
  have unquoted : vendor.isQuote c = false := isQuote_eq_false_of_break breaks
  cases mode with
  | between => rfl
  | word read => simp [extend, isLetter_eq_false_of_break breaks]
  | sign read => simp [extend, isSign, breaks]
  | quoted quote read => cases closed
  | closing quote read => simp [extend, unquoted]

/-- Nothing is being read behind a blank, a bracket or punctuation that is not quoted. -/
theorem behind_break {mode : Mode} {left : List Char} (breaks : isBreak c = true)
    (closed : (vendor.behind mode (left ++ [c])).isOpen = false) :
    vendor.behind mode (left ++ [c]) = .between := by
  have unquoted : vendor.isQuote c = false := isQuote_eq_false_of_break breaks
  have begun : (vendor.start c).2 = .between := by
    simp only [start, breaks, if_true]
    split
    · rfl
    · split
      · rfl
      · split <;> rfl
  rw [behind_append] at closed ⊢
  simp only [behind] at closed ⊢
  cases mode' : vendor.behind mode left with
  | quoted quote read =>
      rw [mode'] at closed
      simp [extend, unquoted, Mode.isOpen] at closed
  | _ => rw [extend_break rfl breaks, Option.getD_none, begun]

end Vendor

/-! Texts and their lexemes -/

/-- A word with a question mark is the marker alone, and no word is a numbered parameter. -/
def Lexeme.isPlain : Lexeme → Bool
  | atom (.word letters) => letters = ['?'] || (!letters.contains '?' && !letters.contains '$')
  | _ => true

/-- The quotes of a text are closed, and it is made of these lexemes. -/
structure Vendor.Lexes (vendor : Vendor) (text : String) (lexemes : List Lexeme) : Prop where
  closed : (vendor.behind .between text.toList).isOpen = false
  lexed : vendor.lex .between text.toList = lexemes
  plain : lexemes.all Lexeme.isPlain = true

instance (vendor : Vendor) (text : String) (lexemes : List Lexeme) :
    Decidable (vendor.Lexes text lexemes) :=
  decidable_of_iff ((vendor.behind .between text.toList).isOpen = false ∧
      vendor.lex .between text.toList = lexemes ∧ lexemes.all Lexeme.isPlain = true)
    ⟨fun ⟨closed, lexed, plain⟩ => ⟨closed, lexed, plain⟩,
      fun lexes => ⟨lexes.closed, lexes.lexed, lexes.plain⟩⟩

/-- The text is empty or begins with a blank, a bracket or punctuation. -/
def startsBroken (text : String) : Bool :=
  text.toList.head?.all isBreak

def endsBroken (text : String) : Bool :=
  text.toList.getLast?.all isBreak

theorem endsBroken_append {middle : String} (nonempty : middle ≠ "") (left : String) :
    endsBroken (left ++ middle) = endsBroken middle := by
  have characters : middle.toList ≠ [] := by simpa using nonempty
  rw [endsBroken, endsBroken, String.toList_append, List.getLast?_append,
    List.getLast?_eq_some_getLast characters]
  rfl

/-- Where one text is put behind the other stands a blank, a bracket or punctuation. -/
def Parted (left right : String) : Prop :=
  endsBroken left = true ∨ startsBroken right = true

namespace Vendor.Lexes

variable {vendor : Vendor} {left right : String} {first second : List Lexeme}

/-- Two texts where the second one begins something new. -/
theorem append_of_fresh (lexes : vendor.Lexes left first) (next : vendor.Lexes right second)
    (fresh : ∀ c ∈ right.toList.head?,
      vendor.extend (vendor.behind .between left.toList) c = none) :
    vendor.Lexes (left ++ right) (first ++ second) := by
  constructor
  · rw [String.toList_append, behind_append]
    cases chars : right.toList with
    | nil => exact lexes.closed
    | cons c rest =>
        have closed := next.closed
        rw [chars] at closed fresh
        rw [behind, fresh c rfl, Option.getD_none]
        exact closed
  · rw [String.toList_append, lex_append fresh, lexes.lexed, next.lexed]
  · rw [List.all_append, lexes.plain, next.plain]
    rfl

theorem append (lexes : vendor.Lexes left first) (next : vendor.Lexes right second)
    (parted : Parted left right) : vendor.Lexes (left ++ right) (first ++ second) := by
  refine lexes.append_of_fresh next fun c begins => ?_
  rcases parted with breaks | breaks
  · rcases List.eq_nil_or_concat left.toList with empty | ⟨front, last, ends⟩
    · rw [empty]
      rfl
    · rw [List.concat_eq_append] at ends
      have closed := lexes.closed
      rw [endsBroken, ends, List.getLast?_concat, Option.all_some] at breaks
      rw [ends] at closed ⊢
      rw [behind_break breaks closed]
      rfl
  · rw [startsBroken, Option.mem_def.mp begins, Option.all_some] at breaks
    exact extend_break lexes.closed breaks

end Vendor.Lexes

end SqlToolkit
