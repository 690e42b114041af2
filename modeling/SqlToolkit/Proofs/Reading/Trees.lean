import Mathlib.Data.List.Forall2
import SqlToolkit.Proofs.Reading.Lexing
/-!
Lexemes with their brackets matched. A text reads as a list of trees if it is made of the lexemes of
these trees; matching the brackets of the text gives the trees back.
-/

namespace SqlToolkit

inductive Tree where
  | leaf (atom : Atom)
  | parens (inner : List Tree)

mutual

def Tree.flat : Tree → List Lexeme
  | .leaf atom => [.atom atom]
  | .parens inner => .opening :: flatAll inner ++ [.closing]

def flatAll : List Tree → List Lexeme
  | [] => []
  | first :: rest => first.flat ++ flatAll rest

end

@[simp] theorem flatAll_append (left right : List Tree) :
    flatAll (left ++ right) = flatAll left ++ flatAll right := by
  induction left with
  | nil => rfl
  | cons first left ih => simp [flatAll, ih]

/-! Matching brackets -/

/-- Takes one lexeme to the trees that are read in each of the brackets that are open, the innermost
first and each backwards. -/
def nestStep : Lexeme → List (List Tree) → Option (List (List Tree))
  | .atom atom, trees :: outer => some ((.leaf atom :: trees) :: outer)
  | .opening, open' => some ([] :: open')
  | .closing, inner :: trees :: outer => some ((.parens inner.reverse :: trees) :: outer)
  | _, _ => none

def nestFrom (open' : List (List Tree)) : List Lexeme → Option (List (List Tree))
  | [] => some open'
  | lexeme :: rest => (nestStep lexeme open').bind fun next => nestFrom next rest

/-- The trees of a list of lexemes, if every bracket has its counterpart. -/
def nest (lexemes : List Lexeme) : Option (List Tree) :=
  match nestFrom [[]] lexemes with
  | some [trees] => some trees.reverse
  | _ => none

theorem nestFrom_append (open' : List (List Tree)) (left right : List Lexeme) :
    nestFrom open' (left ++ right) =
      (nestFrom open' left).bind fun next => nestFrom next right := by
  induction left generalizing open' with
  | nil => rfl
  | cons lexeme left ih =>
      simp only [List.cons_append, nestFrom, Option.bind_assoc]
      cases nestStep lexeme open' with
      | none => rfl
      | some next => exact ih next

mutual

theorem nestFrom_flat : ∀ (tree : Tree) (trees : List Tree) (outer : List (List Tree)),
    nestFrom (trees :: outer) tree.flat = some ((tree :: trees) :: outer)
  | .leaf atom, trees, outer => rfl
  | .parens inner, trees, outer => by
      have within := nestFrom_flatAll inner [] (trees :: outer)
      rw [Tree.flat, List.cons_append, nestFrom, nestStep, Option.bind_some, nestFrom_append,
        within]
      simp [nestFrom, nestStep]

theorem nestFrom_flatAll : ∀ (inner trees : List Tree) (outer : List (List Tree)),
    nestFrom (trees :: outer) (flatAll inner) = some ((inner.reverse ++ trees) :: outer)
  | [], trees, outer => rfl
  | first :: rest, trees, outer => by
      rw [flatAll, nestFrom_append, nestFrom_flat first, Option.bind_some,
        nestFrom_flatAll rest (first :: trees)]
      simp

end

theorem nest_flatAll (trees : List Tree) : nest (flatAll trees) = some trees := by
  rw [nest, nestFrom_flatAll]
  simp

namespace Vendor

/-- The text is made of the lexemes of these trees. -/
abbrev Reads (vendor : Vendor) (text : String) (trees : List Tree) : Prop :=
  vendor.Lexes text (flatAll trees)

/-- The trees of a text, if its quotes and brackets are closed. -/
def parse (vendor : Vendor) (text : String) : Option (List Tree) :=
  if (vendor.behind .between text.toList).isOpen then none
  else nest (vendor.lex .between text.toList)

variable {vendor : Vendor}

theorem Reads.parse {text : String} {trees : List Tree} (reads : vendor.Reads text trees) :
    vendor.parse text = some trees := by
  rw [Vendor.parse, reads.closed, reads.lexed]
  exact nest_flatAll trees

/-! Single words and quoted texts -/

theorem lex_letters (read : List Char) {letters : List Char} (all : letters.all isLetter = true) :
    vendor.lex (.word read) letters = [.atom (.word (read.reverse ++ letters))] ∧
      (vendor.behind (.word read) letters).isOpen = false := by
  induction letters generalizing read with
  | nil => simp [lex, Mode.flush, behind, Mode.isOpen]
  | cons c letters ih =>
      simp only [List.all_cons, Bool.and_eq_true] at all
      have next := ih (c :: read) all.2
      simpa [lex, behind, extend, all.1] using next

/-- A text of letters is one word. -/
theorem lexes_word {text : String} (nonempty : text ≠ "")
    (letters : text.toList.all isLetter = true)
    (plain : (Lexeme.atom (.word text.toList)).isPlain = true) :
    vendor.Lexes text [.atom (.word text.toList)] := by
  cases chars : text.toList with
  | nil => exact absurd (String.toList_eq_nil_iff.mp chars) nonempty
  | cons c rest =>
      rw [chars, List.all_cons, Bool.and_eq_true] at letters
      have unbroken : isBreak c = false := by
        by_contra breaks
        rw [isLetter_eq_false_of_break (by simpa using breaks)] at letters
        exact absurd letters.1 (by simp)
      have begun : vendor.start c = ([], .word [c]) := by
        rw [start_of_unbroken unbroken, isQuote_eq_false_of_letter letters.1, letters.1]
        rfl
      have read := @lex_letters vendor [c] rest letters.2
      constructor
      · rw [chars]
        simpa [behind, extend, begun] using read.2
      · rw [chars]
        simpa [lex, extend, begun, Mode.flush] using read.1
      · rw [← chars]
        simpa using plain

theorem lex_signs (read : List Char) {signs : List Char} (all : signs.all vendor.isSign = true) :
    vendor.lex (.sign read) signs = [.atom (.sign (read.reverse ++ signs))] ∧
      (vendor.behind (.sign read) signs).isOpen = false := by
  induction signs generalizing read with
  | nil => simp [lex, Mode.flush, behind, Mode.isOpen]
  | cons c signs ih =>
      simp only [List.all_cons, Bool.and_eq_true] at all
      have next := ih (c :: read) all.2
      simpa [lex, behind, extend, all.1] using next

/-- A text of signs is one sign. -/
theorem lexes_sign {text : String} (nonempty : text ≠ "")
    (signs : text.toList.all vendor.isSign = true) :
    vendor.Lexes text [.atom (.sign text.toList)] := by
  cases chars : text.toList with
  | nil => exact absurd (String.toList_eq_nil_iff.mp chars) nonempty
  | cons c rest =>
      rw [chars, List.all_cons, Bool.and_eq_true] at signs
      have first := signs.1
      simp only [isSign, Bool.and_eq_true, Bool.not_eq_true'] at first
      have begun : vendor.start c = ([], .sign [c]) := by
        rw [start_of_unbroken first.1.1, first.2, first.1.2]
        rfl
      have read := @lex_signs vendor [c] rest signs.2
      constructor
      · rw [chars]
        simpa [behind, extend, begun] using read.2
      · rw [chars]
        simpa [lex, extend, begun, Mode.flush] using read.1
      · rfl

/-- A doubled quote is read as one, and the text goes on. -/
theorem lex_doubled {quote : Char} (quotes : vendor.isQuote quote = true)
    (read text rest : List Char) :
    vendor.lex (.quoted quote read) (Text.doubled quote text ++ rest) =
        vendor.lex (.quoted quote (text.reverse ++ read)) rest ∧
      vendor.behind (.quoted quote read) (Text.doubled quote text) =
        .quoted quote (text.reverse ++ read) := by
  induction text generalizing read with
  | nil => exact ⟨rfl, rfl⟩
  | cons c text ih =>
      have next := ih (c :: read)
      by_cases same : c = quote
      · subst same
        simpa [Text.doubled, lex, behind, extend, quotes] using next
      · simpa [Text.doubled, lex, behind, extend, same] using next

theorem lexes_enclosed {quote : Char} (quotes : vendor.isQuote quote = true) (text : String) :
    vendor.Lexes (Text.enclosed quote text) [.atom (.quoted quote text.toList)] := by
  have unbroken : isBreak quote = false := by
    cases breaks : isBreak quote with
    | false => rfl
    | true => rw [isQuote_eq_false_of_break breaks] at quotes; cases quotes
  have begun : vendor.start quote = ([], .quoted quote []) := by
    rw [start_of_unbroken unbroken, quotes]
    rfl
  have read := @lex_doubled vendor quote quotes [] text.toList [quote]
  constructor
  · simp only [Text.enclosed, String.toList_ofList, List.cons_append, behind, behind_append]
    simp [extend, begun, read.2, quotes, Mode.isOpen]
  · simp only [Text.enclosed, String.toList_ofList, List.cons_append, lex]
    simp [extend, begun, read.1, quotes, lex, Mode.flush]
  · rfl

theorem isQuote_quote : vendor.isQuote vendor.quote = true := by
  simp [isQuote]

/-! Texts put together -/

/-- A text that parts whatever stands before it from what stands behind it. -/
structure Seam (vendor : Vendor) (text : String) (lexemes : List Lexeme) : Prop where
  lexes : vendor.Lexes text lexemes
  starts : startsBroken text = true
  ends : endsBroken text = true
  nonempty : text ≠ ""

instance (vendor : Vendor) (text : String) (lexemes : List Lexeme) :
    Decidable (vendor.Seam text lexemes) :=
  decidable_of_iff (vendor.Lexes text lexemes ∧ startsBroken text = true ∧
      endsBroken text = true ∧ text ≠ "")
    ⟨fun ⟨lexes, starts, ends, nonempty⟩ => ⟨lexes, starts, ends, nonempty⟩,
      fun seam => ⟨seam.lexes, seam.starts, seam.ends, seam.nonempty⟩⟩

theorem intercalate_nil {α : Type} (each : List (List α)) : [].intercalate each = each.flatten := by
  induction each with
  | nil => rfl
  | cons first rest ih =>
      cases rest with
      | nil => simp
      | cons next others =>
          rw [List.intercalate_cons_cons, ih]
          simp

namespace Lexes

variable {left middle right : String} {first between second : List Lexeme}

theorem empty : vendor.Lexes "" [] := by
  cases vendor <;> decide

theorem of_empty {lexemes : List Lexeme} (lexes : vendor.Lexes "" lexemes) : lexemes = [] :=
  lexes.lexed.symm

theorem join (lexes : vendor.Lexes left first) (seam : vendor.Seam middle between)
    (next : vendor.Lexes right second) :
    vendor.Lexes (left ++ middle ++ right) (first ++ between ++ second) := by
  have front := lexes.append seam.lexes (.inr seam.starts)
  refine front.append next (.inl ?_)
  rw [endsBroken_append seam.nonempty]
  exact seam.ends

theorem close (lexes : vendor.Lexes left first) (next : vendor.Lexes middle between)
    (starts : startsBroken middle = true) :
    vendor.Lexes (left ++ middle) (first ++ between) :=
  lexes.append next (.inr starts)

theorem prepend (front : vendor.Lexes left first)
    (ends : endsBroken left = true) (lexes : vendor.Lexes right second) :
    vendor.Lexes (left ++ right) (first ++ second) :=
  front.append lexes (.inl ends)

theorem intercalate {separator : String} {texts : List String} {each : List (List Lexeme)}
    (seam : vendor.Seam separator between) (lexes : List.Forall₂ vendor.Lexes texts each) :
    vendor.Lexes (separator.intercalate texts) (between.intercalate each) := by
  induction lexes with
  | nil => exact empty
  | @cons text lexemes texts each head tail ih =>
      cases tail with
      | nil => simpa using head
      | cons next others =>
          rw [String.intercalate_cons_cons, List.intercalate_cons_cons]
          exact head.join seam ih

theorem blank : vendor.Seam " " [] := by
  cases vendor <;> decide

/-- The blanks between the parts of a text leave no lexemes, and neither do empty parts. -/
theorem joinParts {texts : List String} {each : List (List Lexeme)}
    (lexes : List.Forall₂ vendor.Lexes texts each) :
    vendor.Lexes (SqlToolkit.joinParts texts) each.flatten := by
  have written : ∃ some, List.Forall₂ vendor.Lexes (texts.filter (· ≠ "")) some ∧
      some.flatten = each.flatten := by
    induction lexes with
    | nil => exact ⟨[], .nil, rfl⟩
    | @cons text lexemes texts each head tail ih =>
        obtain ⟨some, others, same⟩ := ih
        by_cases none : text = ""
        · subst none
          exact ⟨some, by simpa using others, by simpa [head.of_empty] using same⟩
        · refine ⟨lexemes :: some, ?_, by simp [same]⟩
          rw [List.filter_cons_of_pos (by simpa using none)]
          exact .cons head others
  obtain ⟨some, each, same⟩ := written
  rw [← same, ← intercalate_nil]
  exact intercalate blank each

end Lexes

end Vendor

end SqlToolkit
