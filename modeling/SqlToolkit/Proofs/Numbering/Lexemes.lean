import SqlToolkit.Dialect.NumberedMarkers
import SqlToolkit.Proofs.Markers.Spelling
import SqlToolkit.Proofs.Reading.Trees
/-!
Numbering the markers of a statement changes nothing else. In the text, a question mark outside of
quotes becomes a number behind a dollar sign; of the lexemes, each marker becomes one parameter, and
all others stay what they are.
-/

namespace SqlToolkit

/-- PostgreSQL with question marks for its markers. -/
abbrev counted (tablePrefix : String) : Dialect :=
  ⟨.postgres, tablePrefix, .question⟩

/-! The text -/

namespace Pattern

/-- The text of a pattern whose slots are written one after the other, counted from `next` on. -/
def writtenFrom (slot : Nat → List Char) (next : Nat) : Pattern → List Char
  | [] => []
  | .char c :: rest => c :: writtenFrom slot next rest
  | .slot _ :: rest => slot next ++ writtenFrom slot (next + 1) rest

def written (slot : Nat → String) (pattern : Pattern) : String :=
  String.ofList (pattern.writtenFrom (fun place => (slot place).toList) 1)

end Pattern

/-- A numbered parameter. -/
def parameterText (place : Nat) : String :=
  "$" ++ toString place

theorem toList_parameterText (place : Nat) :
    (parameterText place).toList = '$' :: Nat.toDigits 10 place := by
  simp [parameterText]

section Text

variable {tablePrefix : String}

theorem quoteAfter_counted (quote : OpenQuote) (c : Char) :
    (counted tablePrefix).quoteAfter quote c = quote.after c := by
  cases quote with
  | some opened => rfl
  | none =>
      have quotes : (counted tablePrefix).isQuote c = true ↔ c = '\x27' ∨ c = '\x22' := by
        simp only [Dialect.isQuote, Bool.or_eq_true, decide_eq_true_eq]
        exact or_iff_left_of_imp .inr
      simp only [Dialect.quoteAfter, OpenQuote.after, quotes]

/-- The marker of two characters has no meaning here. -/
theorem pieces_counted (quote : OpenQuote) (c : Char) (rest : List Char) :
    (counted tablePrefix).pieces quote (c :: rest) =
      if quote = none ∧ c = '?' then .slot () :: (counted tablePrefix).pieces none rest
      else .char c :: (counted tablePrefix).pieces (quote.after c) rest := by
  rw [← @quoteAfter_counted tablePrefix]
  by_cases percent : c = '%' ∧ rest.head? = some 's'
  · obtain ⟨rfl, starts⟩ := percent
    cases rest with
    | nil => simp at starts
    | cons next rest =>
        obtain rfl : next = 's' := by simpa using starts
        rw [Dialect.pieces, if_neg (by simp), if_neg (by simp),
          Dialect.pieces_cons (.inr (by decide))]
        rfl
  · rw [Dialect.pieces.eq_3 _ _ _ _ (by
      rintro after rfl rfl
      exact percent ⟨rfl, rfl⟩)]
    simp

theorem written_pieces (quote : OpenQuote) (next : Nat) (text : List Char) :
    ((counted tablePrefix).pieces quote text).writtenFrom (fun _ => ['?']) next = text ∧
      ((counted tablePrefix).pieces quote text).writtenFrom
        (fun place => '$' :: Nat.toDigits 10 place) next = numberMarkersFrom quote next text := by
  induction text generalizing quote next with
  | nil => exact ⟨rfl, rfl⟩
  | cons c rest ih =>
      rw [pieces_counted, numberMarkersFrom]
      split
      · rename_i marker
        obtain ⟨rfl, rfl⟩ := marker
        exact ⟨congrArg _ (ih none (next + 1)).1, congrArg _ (ih none (next + 1)).2⟩
      · exact ⟨congrArg _ (ih _ next).1, congrArg _ (ih _ next).2⟩

/-- The text and the numbered one are the same but for what stands in the places of the markers. -/
theorem numberMarkers_exact (text : String) :
    let pattern := (counted tablePrefix).pieces none text.toList
    pattern.written (fun _ => "?") = text ∧ pattern.written parameterText = numberMarkers text := by
  intro pattern
  have written := @written_pieces tablePrefix none 1 text.toList
  have marker : "?".toList = ['?'] := rfl
  simp only [Pattern.written, toList_parameterText, marker]
  exact ⟨(congrArg String.ofList written.1).trans String.ofList_toList,
    congrArg String.ofList written.2⟩

end Text

/-! The lexemes -/

/-- The lexemes with their markers numbered from `next` on. -/
def numberLexemes (next : Nat) : List Lexeme → List Lexeme
  | [] => []
  | lexeme :: rest =>
      if lexeme = .atom (.word ['?']) then
        .atom (.word (parameterText next).toList) :: numberLexemes (next + 1) rest
      else lexeme :: numberLexemes next rest

def isMarker (lexeme : Lexeme) : Bool :=
  lexeme = .atom (.word ['?'])

theorem numberLexemes_append (next : Nat) (left right : List Lexeme) :
    numberLexemes next (left ++ right) =
      numberLexemes next left ++ numberLexemes (next + left.countP isMarker) right := by
  induction left generalizing next with
  | nil => rfl
  | cons lexeme left ih =>
      by_cases marker : lexeme = .atom (.word ['?'])
      · have shifted : next + 1 + left.countP isMarker =
            next + (lexeme :: left).countP isMarker := by
          rw [List.countP_cons_of_pos (by simp [isMarker, marker])]
          omega
        rw [List.cons_append, numberLexemes, numberLexemes, if_pos marker, if_pos marker, ih,
          shifted]
        rfl
      · rw [List.cons_append, numberLexemes, numberLexemes, if_neg marker, if_neg marker, ih,
          List.countP_cons_of_neg (by simp [isMarker, marker])]
        rfl

theorem numberLexemes_of_none {lexemes : List Lexeme} (next : Nat)
    (none : lexemes.countP isMarker = 0) : numberLexemes next lexemes = lexemes := by
  induction lexemes with
  | nil => rfl
  | cons lexeme rest ih =>
      rw [List.countP_eq_zero] at none
      have other : lexeme ≠ .atom (.word ['?']) := by simpa [isMarker] using none lexeme (by simp)
      rw [numberLexemes, if_neg other,
        ih (List.countP_eq_zero.mpr fun lexeme member => none lexeme (by simp [member]))]

/-! Both readers side by side -/

namespace Mode

/-- The quote that is open. -/
def quote : Mode → OpenQuote
  | quoted opened _ => some opened
  | _ => none

/-- Quotes are opened by quotes, and a word that is being read holds no question mark. -/
def Sound : Mode → Prop
  | word read => read ≠ [] ∧ '?' ∉ read
  | quoted opened _ => Vendor.postgres.isQuote opened = true
  | _ => True

theorem countP_flush {mode : Mode} (sound : mode.Sound) : mode.flush.countP isMarker = 0 := by
  cases mode with
  | word read =>
      have other : read.reverse ≠ ['?'] := by
        intro same
        exact sound.2 (by rw [← List.mem_reverse, same]; simp)
      simp [flush, isMarker, other]
  | _ => simp [flush, isMarker]

end Mode

theorem OpenQuote.after_none {c : Char} (plain : Vendor.postgres.isQuote c = false) :
    OpenQuote.after none c = none := by
  simp only [Vendor.isQuote, Bool.or_eq_false_iff, decide_eq_false_iff_not] at plain
  simp [OpenQuote.after, plain.1.1, plain.1.2]

theorem OpenQuote.after_quote {c : Char} (quotes : Vendor.postgres.isQuote c = true) :
    OpenQuote.after none c = some c := by
  simp only [Vendor.isQuote, Bool.or_eq_true, decide_eq_true_eq] at quotes
  have either : c = '\x27' ∨ c = '\x22' := or_iff_left_of_imp .inr |>.mp quotes
  rw [OpenQuote.after, if_pos either]

namespace Vendor

theorem countP_start (vendor : Vendor) (c : Char) : (vendor.start c).1.countP isMarker = 0 := by
  unfold start
  repeat' split
  all_goals rfl

/-- What is read next is sound, and the open quote goes along with it. -/
theorem extend_sound {mode next : Mode} {c : Char} (sound : mode.Sound)
    (other : mode.quote ≠ none ∨ c ≠ '?')
    (taken : Vendor.postgres.extend mode c = some next) :
    next.Sound ∧ next.quote = mode.quote.after c := by
  cases mode with
  | between => cases taken
  | word read =>
      simp only [extend, Option.ite_none_right_eq_some, Option.some.injEq] at taken
      obtain ⟨letter, rfl⟩ := taken
      have unlike : c ≠ '?' := other.resolve_left (by simp [Mode.quote])
      exact ⟨⟨by simp, by simp [sound.2, Ne.symm unlike]⟩,
        (OpenQuote.after_none (isQuote_eq_false_of_letter letter)).symm⟩
  | sign read =>
      simp only [extend, Option.ite_none_right_eq_some, Option.some.injEq] at taken
      obtain ⟨sign, rfl⟩ := taken
      simp only [isSign, Bool.and_eq_true, Bool.not_eq_true'] at sign
      exact ⟨trivial, (OpenQuote.after_none sign.2).symm⟩
  | quoted opened read =>
      have quotes : Vendor.postgres.isQuote opened = true := sound
      by_cases same : c = opened
      · subst same
        simp only [extend, quotes, and_self, if_true, Option.some.injEq] at taken
        subst taken
        exact ⟨trivial, (if_pos rfl).symm⟩
      · simp only [extend, same, and_false, if_false, Option.some.injEq] at taken
        subst taken
        exact ⟨sound, (if_neg same).symm⟩
  | closing opened read =>
      simp only [extend, Option.ite_none_right_eq_some, Option.some.injEq] at taken
      obtain ⟨⟨quotes, rfl⟩, rfl⟩ := taken
      exact ⟨quotes, (OpenQuote.after_quote quotes).symm⟩

theorem quote_of_fresh {mode : Mode} {c : Char} (fresh : Vendor.postgres.extend mode c = none) :
    mode.quote = none := by
  cases mode with
  | quoted opened read =>
      rw [extend] at fresh
      split at fresh <;> cases fresh
  | _ => rfl

theorem start_sound {c : Char} (other : c ≠ '?') :
    (Vendor.postgres.start c).2.Sound ∧
      (Vendor.postgres.start c).2.quote = OpenQuote.after none c := by
  cases breaks : isBreak c with
  | true =>
      rw [OpenQuote.after_none (isQuote_eq_false_of_break breaks)]
      unfold start
      rw [breaks]
      repeat' split
      all_goals first | exact ⟨trivial, rfl⟩ | contradiction
  | false =>
      rw [start_of_unbroken breaks]
      cases quotes : Vendor.postgres.isQuote c with
      | true => exact ⟨quotes, (OpenQuote.after_quote quotes).symm⟩
      | false =>
          rw [OpenQuote.after_none quotes]
          split
          · contradiction
          · split
            · exact ⟨⟨by simp, by simpa using Ne.symm other⟩, rfl⟩
            · exact ⟨trivial, rfl⟩

/-- A word with a question mark is plain only if it is the marker. -/
theorem not_plain_word {vendor : Vendor} {read : List Char} (question : '?' ∈ read)
    (long : read ≠ ['?']) (text : List Char) :
    (vendor.lex (.word read) text).all Lexeme.isPlain = false := by
  induction text generalizing read with
  | nil =>
      have other : read.reverse ≠ ['?'] := by simpa [List.reverse_eq_iff] using long
      simp [lex, Mode.flush, Lexeme.isPlain, question, other]
  | cons c rest ih =>
      rw [lex, extend]
      split
      · rename_i taken
        split at taken
        · cases taken
          refine ih (by simp [question]) ?_
          rintro ⟨⟩
          cases question
        · cases taken
      · have other : read.reverse ≠ ['?'] := by simpa [List.reverse_eq_iff] using long
        simp [Mode.flush, Lexeme.isPlain, question, other]

theorem behind_letters {vendor : Vendor} (read : List Char) {letters : List Char}
    (all : letters.all isLetter = true) :
    vendor.behind (.word read) letters = .word (letters.reverse ++ read) := by
  induction letters generalizing read with
  | nil => rfl
  | cons c letters ih =>
      simp only [List.all_cons, Bool.and_eq_true] at all
      rw [behind, extend, if_pos all.1, Option.getD_some, ih _ all.2]
      simp

/-! A marker is a lexeme of its own, and so is the parameter in its place -/

section Markers

variable {mode : Mode} {rest : List Char}

theorem apart_of_marker (sound : mode.Sound)
    (plain : (Vendor.postgres.lex mode ('?' :: rest)).all Lexeme.isPlain = true) :
    ∀ read, mode ≠ .word read := by
  rintro read rfl
  have joined : (Vendor.postgres.lex (.word ('?' :: read)) rest).all Lexeme.isPlain = false :=
    not_plain_word (by simp) (by simp [sound.1]) rest
  rw [lex, extend, if_pos (by decide), joined] at plain
  cases plain

theorem start_letter {c : Char} (letter : isLetter c = true) :
    Vendor.postgres.start c = ([], .word [c]) := by
  have unbroken : isBreak c = false := by
    by_contra breaks
    rw [isLetter_eq_false_of_break (by simpa using breaks)] at letter
    cases letter
  rw [start_of_unbroken unbroken, isQuote_eq_false_of_letter letter, letter]
  rfl

theorem extend_letter {c : Char} (letter : isLetter c = true) (closed : mode.quote = none)
    (apart : ∀ read, mode ≠ .word read) : Vendor.postgres.extend mode c = none := by
  cases mode with
  | between => rfl
  | word read => exact absurd rfl (apart read)
  | sign read => simp [extend, isSign, letter]
  | quoted opened read => cases closed
  | closing opened read => simp [extend, isQuote_eq_false_of_letter letter]

theorem ends_behind_marker (sound : mode.Sound) (closed : mode.quote = none)
    (plain : (Vendor.postgres.lex mode ('?' :: rest)).all Lexeme.isPlain = true) :
    ∀ c ∈ rest.head?, isLetter c = false := by
  rintro c begins
  cases rest with
  | nil => cases begins
  | cons first rest =>
      cases begins
      cases letter : isLetter c with
      | false => rfl
      | true =>
          have longer : (Vendor.postgres.lex (.word [c, '?']) rest).all Lexeme.isPlain = false :=
            not_plain_word (by simp) (by simp) rest
          have question : isLetter '?' = true := by decide
          rw [lex, extend_letter question closed (apart_of_marker sound plain),
            start_letter question, List.all_append, Bool.and_eq_true, lex, extend,
            if_pos letter, longer] at plain
          cases plain.2

/-- A word is read where it begins behind something else, and something else follows it. -/
theorem read_word {first : Char} {letters : List Char} (closed : mode.quote = none)
    (apart : ∀ read, mode ≠ .word read) (all : (first :: letters).all isLetter = true)
    (ends : ∀ c ∈ rest.head?, isLetter c = false) :
    Vendor.postgres.lex mode (first :: letters ++ rest) =
        mode.flush ++ .atom (.word (first :: letters)) :: Vendor.postgres.lex .between rest ∧
      (Vendor.postgres.behind mode (first :: letters ++ rest)).isOpen =
        (Vendor.postgres.behind .between rest).isOpen := by
  simp only [List.all_cons, Bool.and_eq_true] at all
  have behind' := @behind_letters .postgres [first] letters all.2
  have fresh : ∀ c ∈ rest.head?,
      Vendor.postgres.extend (Vendor.postgres.behind (.word [first]) letters) c = none := by
    intro c begins
    rw [behind', extend, if_neg (by simp [ends c begins])]
  rw [List.cons_append, lex, behind, extend_letter all.1 closed apart, start_letter all.1]
  constructor
  · dsimp only
    rw [lex_append fresh, (lex_letters [first] all.2).1]
    simp
  · rw [Option.getD_none, behind_append, behind']
    cases rest with
    | nil => rfl
    | cons c rest =>
        rw [behind, extend, if_neg (by simp [ends c rfl])]
        rfl

end Markers

theorem all_isLetter_parameter (place : Nat) :
    ('$' :: Nat.toDigits 10 place).all isLetter = true := by
  refine List.all_eq_true.mpr (List.forall_mem_cons.mpr ⟨by decide, fun c member => ?_⟩)
  have digit : c.isDigit = true := Nat.isDigit_of_mem_toDigits (by decide) (by decide) member
  simp [isLetter, Char.isAlphanum, digit]

/-- Numbering leaves the first character of a text unless it is a marker. -/
theorem head?_numberMarkersFrom {quote : OpenQuote} {next : Nat} {text : List Char}
    (ends : ∀ c ∈ text.head?, isLetter c = false) :
    ∀ c ∈ (numberMarkersFrom quote next text).head?, isLetter c = false := by
  cases text with
  | nil => exact ends
  | cons first rest =>
      have letter := ends first rfl
      have other : first ≠ '?' := by
        rintro rfl
        cases letter
      rw [numberMarkersFrom, if_neg fun marker => other marker.2]
      exact ends

/-- The lexemes of the numbered text are the numbered lexemes of the text, and no quote opens or
closes by the numbers. -/
theorem lex_numberMarkersFrom {mode : Mode} (sound : mode.Sound) (next : Nat) (text : List Char)
    (plain : (Vendor.postgres.lex mode text).all Lexeme.isPlain = true) :
    (Vendor.postgres.behind mode text).isOpen =
        (Vendor.postgres.behind mode (numberMarkersFrom mode.quote next text)).isOpen ∧
      numberLexemes next (Vendor.postgres.lex mode text) =
        Vendor.postgres.lex mode (numberMarkersFrom mode.quote next text) := by
  induction text generalizing mode next with
  | nil => exact ⟨rfl, numberLexemes_of_none next (Mode.countP_flush sound)⟩
  | cons c rest ih =>
      rw [numberMarkersFrom]
      split
      case isTrue marker =>
        obtain ⟨closed, rfl⟩ := marker
        have apart := apart_of_marker sound plain
        have ends := ends_behind_marker sound closed plain
        have marker := read_word closed apart (show ['?'].all isLetter = true by decide) ends
        have parameter := read_word closed apart (all_isLetter_parameter next)
          (@head?_numberMarkersFrom none (next + 1) rest ends)
        rw [List.singleton_append] at marker
        rw [marker.1, List.all_append, List.all_cons, Bool.and_eq_true, Bool.and_eq_true] at plain
        obtain ⟨same, later⟩ := @ih .between trivial (next + 1) plain.2.2
        rw [marker.1, marker.2, parameter.1, parameter.2]
        refine ⟨same, ?_⟩
        rw [numberLexemes_append, numberLexemes_of_none _ (Mode.countP_flush sound),
          Mode.countP_flush sound, numberLexemes, if_pos rfl, toList_parameterText]
        exact congrArg (mode.flush ++ .atom (.word ('$' :: Nat.toDigits 10 next)) :: ·) later
      case isFalse other =>
        have unlike : mode.quote ≠ none ∨ c ≠ '?' := by
          by_contra both
          exact other (by simpa using both)
        rw [lex, behind, behind]
        cases taken : Vendor.postgres.extend mode c with
        | some after =>
            obtain ⟨kept, same⟩ := extend_sound sound unlike taken
            rw [lex, taken] at plain
            rw [← same, lex, taken]
            exact ih kept next plain
        | none =>
            have closed := quote_of_fresh taken
            obtain ⟨kept, same⟩ := start_sound (unlike.resolve_left (by simp [closed]))
            rw [lex, taken] at plain
            simp only [List.all_append, Bool.and_eq_true] at plain
            have rest := ih kept next plain.2
            rw [closed, ← same, lex, taken]
            refine ⟨rest.1, ?_⟩
            dsimp only
            rw [numberLexemes_append, numberLexemes_append,
              numberLexemes_of_none _ (Mode.countP_flush sound),
              numberLexemes_of_none _ (countP_start _ c), List.countP_append,
              Mode.countP_flush sound, countP_start, ← rest.2]
            rfl

/-- The numbered text of a statement closes its quotes, and its lexemes are numbered. -/
theorem Lexes.numberMarkers {text : String} {lexemes : List Lexeme}
    (lexes : Vendor.postgres.Lexes text lexemes) :
    (Vendor.postgres.behind .between (SqlToolkit.numberMarkers text).toList).isOpen = false ∧
      Vendor.postgres.lex .between (SqlToolkit.numberMarkers text).toList =
        numberLexemes 1 lexemes := by
  have plain : (Vendor.postgres.lex .between text.toList).all Lexeme.isPlain = true := by
    rw [lexes.lexed]
    exact lexes.plain
  have numbered := @lex_numberMarkersFrom .between trivial 1 text.toList plain
  rw [SqlToolkit.numberMarkers, String.toList_ofList, ← lexes.lexed, ← lexes.closed]
  exact ⟨numbered.1.symm, numbered.2.symm⟩

end Vendor

end SqlToolkit
