import Mathlib.Data.List.Forall2
import SqlToolkit.Proofs.Markers.Basic
/-!
Texts that spell filled ones: every marker of the text stands where the filled text has a value. The
relation goes through concatenation, as long as no marker comes into being at the seam.
-/

namespace SqlToolkit

variable {dialect : Dialect}

namespace Pattern

theorem fill_pattern (filled : Filled) : filled.pattern.fill filled.values = some filled := by
  induction filled with
  | nil => rfl
  | cons piece rest ih =>
      cases piece with
      | char c =>
          change (Pattern.fill (Filled.pattern rest) (Filled.values rest)).map (.char c :: ·) = _
          rw [ih]
          rfl
      | slot value =>
          change
            (Pattern.fill (Filled.pattern rest) (Filled.values rest)).map (.slot value :: ·) = _
          rw [ih]
          rfl

theorem slots_pattern (filled : Filled) : filled.pattern.slots = filled.values.length := by
  induction filled with
  | nil => rfl
  | cons piece rest ih =>
      cases piece with
      | char c => exact ih
      | slot value => exact congrArg Nat.succ ih

theorem of_fill {pattern : Pattern} {values : List Value} {filled : Filled}
    (put : pattern.fill values = some filled) :
    filled.pattern = pattern ∧ filled.values = values := by
  induction pattern generalizing values filled with
  | nil =>
      cases values with
      | nil =>
          cases put
          exact ⟨rfl, rfl⟩
      | cons value values => simp [fill] at put
  | cons piece rest ih =>
      cases piece with
      | char c =>
          simp only [fill, Option.map_eq_some_iff] at put
          obtain ⟨tail, filledTail, rfl⟩ := put
          obtain ⟨same, taken⟩ := ih filledTail
          exact ⟨congrArg (Piece.char c :: ·) same, taken⟩
      | slot content =>
          cases values with
          | nil => simp [fill] at put
          | cons value values =>
              simp only [fill, Option.map_eq_some_iff] at put
              obtain ⟨tail, filledTail, rfl⟩ := put
              obtain ⟨same, taken⟩ := ih filledTail
              exact ⟨congrArg (Piece.slot () :: ·) same, congrArg (value :: ·) taken⟩

/-- Filling succeeds with exactly one result, and only for as many values as there are slots. -/
theorem fill_eq_some_iff {pattern : Pattern} {values : List Value} {filled : Filled} :
    pattern.fill values = some filled ↔ filled.pattern = pattern ∧ filled.values = values := by
  constructor
  · exact of_fill
  · rintro ⟨rfl, rfl⟩
    exact fill_pattern filled

theorem fill_exists {pattern : Pattern} {values : List Value}
    (supplied : pattern.slots = values.length) : ∃ filled, pattern.fill values = some filled := by
  induction pattern generalizing values with
  | nil =>
      have none : values = [] := List.length_eq_zero_iff.mp supplied.symm
      subst values
      exact ⟨[], rfl⟩
  | cons piece rest ih =>
      cases piece with
      | char c =>
          obtain ⟨tail, put⟩ := @ih values supplied
          exact ⟨.char c :: tail, by simp [fill, put]⟩
      | slot content =>
          cases values with
          | nil => simp [slots, Piece.content?] at supplied
          | cons value values =>
              obtain ⟨tail, put⟩ := @ih values (by
                simpa [slots, Piece.content?] using supplied)
              exact ⟨.slot value :: tail, by simp [fill, put]⟩

end Pattern

namespace Filled

@[simp] theorem pattern_append (left right : Filled) :
    (left ++ right : Filled).pattern = left.pattern ++ right.pattern :=
  List.map_append

@[simp] theorem values_append (left right : Filled) :
    (left ++ right : Filled).values = left.values ++ right.values :=
  List.filterMap_append

@[simp] theorem ofText_append (left right : String) :
    ofText (left ++ right) = ofText left ++ ofText right := by
  simp [ofText]

@[simp] theorem values_ofText (text : String) : (ofText text).values = [] := by
  simp [values, ofText, Piece.content?]

theorem pattern_ofText (text : String) : (ofText text).pattern = text.toList.map .char := by
  simp [pattern, ofText, Piece.blank]

theorem values_marked (front : String) (value : Value) (rest : Filled) :
    (ofText front ++ .slot value :: rest : Filled).values = value :: rest.values := by
  rw [values_append, values_ofText]
  rfl

end Filled

namespace Dialect

/-! Reading texts piece by piece -/

/-- A character that neither quotes nor belongs to a marker, whatever the vendor. -/
def isInert (c : Char) : Bool :=
  c ≠ '\x27' && c ≠ '\x22' && c ≠ '\x60' && c ≠ '?' && c ≠ '%'

def Inert (text : String) : Prop :=
  text.toList.all isInert = true

instance (text : String) : Decidable (Inert text) :=
  inferInstanceAs (Decidable (_ = true))

/-- No marker comes into being where one text is put behind the other. -/
def Apart (left right : String) : Prop :=
  left.toList.getLast? ≠ some '%' ∨ right.toList.head? ≠ some 's'

theorem isQuote_eq_false {c : Char} (inert : isInert c = true) : dialect.isQuote c = false := by
  cases vendor : dialect.vendor <;> simp_all [isInert, isQuote, Vendor.quote]

@[simp] theorem isQuote_percent : dialect.isQuote '%' = false := by
  cases vendor : dialect.vendor <;> simp [isQuote, Vendor.quote, vendor]

@[simp] theorem isQuote_s : dialect.isQuote 's' = false := by
  cases vendor : dialect.vendor <;> simp [isQuote, Vendor.quote, vendor]

@[simp] theorem isQuote_question : dialect.isQuote '?' = false := by
  cases vendor : dialect.vendor <;> simp [isQuote, Vendor.quote, vendor]

@[simp] theorem isQuote_quote : dialect.isQuote dialect.vendor.quote = true := by
  simp [isQuote]

theorem pieces_cons {quote : OpenQuote} {c : Char} {rest : List Char}
    (plain : quote ≠ none ∨ c ≠ '%' ∧ c ≠ '?') :
    dialect.pieces quote (c :: rest) =
      .char c :: dialect.pieces (dialect.quoteAfter quote c) rest := by
  by_cases percent : c = '%' ∧ rest.head? = some 's'
  · obtain ⟨rfl, starts⟩ := percent
    cases rest with
    | nil => simp at starts
    | cons next rest =>
        obtain rfl : next = 's' := by simpa using starts
        have opened : quote ≠ none := by simpa using plain
        have inner : dialect.pieces (dialect.quoteAfter quote '%') ('s' :: rest) =
            .char 's' ::
              dialect.pieces (dialect.quoteAfter (dialect.quoteAfter quote '%') 's') rest := by
          rw [pieces.eq_3 _ _ _ _ (by intro _ impossible; simp at impossible)]
          simp
        rw [inner, pieces]
        simp [opened, quoteBehind]
  · rw [pieces.eq_3 _ _ _ _ (by
      rintro after rfl rfl
      exact percent ⟨rfl, rfl⟩)]
    have quiet : ¬(quote = none ∧ dialect.marker = .question ∧ c = '?') := by
      rintro ⟨outside, -, same⟩
      rcases plain with opened | ⟨-, other⟩
      · exact opened outside
      · exact other same
    rw [if_neg quiet]

theorem ends_behind (front : List Char) {rest right : List Char}
    (apart : (front ++ rest).getLast? ≠ some '%' ∨ right.head? ≠ some 's') :
    rest.getLast? ≠ some '%' ∨ right.head? ≠ some 's' := by
  refine apart.imp_left fun unlike same => unlike ?_
  rw [List.getLast?_append, same]
  rfl

theorem pieces_append {left right : List Char} {quote : OpenQuote}
    (apart : left.getLast? ≠ some '%' ∨ right.head? ≠ some 's') :
    dialect.pieces quote (left ++ right) =
      dialect.pieces quote left ++ dialect.pieces (dialect.quoteBehind quote left) right := by
  induction quote, left using pieces.induct dialect with
  | case1 quote => rfl
  | case2 quote rest outside ih =>
      obtain ⟨rfl, percent⟩ := outside
      have behind :
          dialect.quoteBehind none ('%' :: 's' :: rest) = dialect.quoteBehind none rest := by
        simp [quoteBehind, quoteAfter]
      have tail := ih (ends_behind ['%', 's'] apart)
      simp only [List.cons_append, pieces, percent, and_self, if_true, behind, tail]
  | case3 quote rest inside ih =>
      have tail := ih (ends_behind ['%', 's'] apart)
      simp only [List.cons_append, pieces, if_neg inside, tail]
      rfl
  | case4 quote c rest lone question ih =>
      obtain ⟨rfl, marker, rfl⟩ := question
      have behind : dialect.quoteBehind none ('?' :: rest) = dialect.quoteBehind none rest := by
        simp [quoteBehind, quoteAfter]
      have tail := ih (ends_behind ['?'] apart)
      rw [List.cons_append, pieces.eq_3 _ _ _ _ (by simp), pieces.eq_3 _ _ _ _ (by simp), behind,
        tail]
      simp [marker]
  | case5 quote c rest lone quiet ih =>
      have tail := ih (ends_behind [c] apart)
      -- The only marker of two characters must not begin in front of the seam and end behind it.
      have loneAppend : ∀ after, c = '%' → rest ++ right = 's' :: after → False := by
        rintro after rfl same
        cases rest with
        | nil =>
            have starts : right.head? = some 's' := by simp_all
            simp [starts] at apart
        | cons next rest =>
            simp only [List.cons_append, List.cons.injEq] at same
            obtain ⟨rfl, -⟩ := same
            exact lone rest rfl rfl
      rw [List.cons_append, pieces.eq_3 _ _ _ _ loneAppend, pieces.eq_3 _ _ _ _ lone, if_neg quiet,
        if_neg quiet, tail]
      rfl

theorem quoteBehind_append (quote : OpenQuote) (left right : List Char) :
    dialect.quoteBehind quote (left ++ right) =
      dialect.quoteBehind (dialect.quoteBehind quote left) right :=
  List.foldl_append

theorem pieces_inert {text : List Char} (inert : text.all isInert = true) :
    dialect.pieces none text = text.map .char ∧ dialect.quoteBehind none text = none := by
  induction text with
  | nil => exact ⟨rfl, rfl⟩
  | cons c rest ih =>
      simp only [List.all_cons, Bool.and_eq_true] at inert
      obtain ⟨first, others⟩ := inert
      have outside : dialect.quoteAfter none c = none := by
        simp [quoteAfter, isQuote_eq_false first]
      have plain : c ≠ '%' ∧ c ≠ '?' := by
        simp only [isInert, Bool.and_eq_true, decide_eq_true_eq] at first
        exact ⟨first.2, first.1.2⟩
      obtain ⟨read, closed⟩ := ih others
      refine ⟨?_, ?_⟩
      · rw [pieces_cons (.inr plain), outside, read]
        rfl
      · change dialect.quoteBehind (dialect.quoteAfter none c) rest = none
        rw [outside, closed]

/-- A text that is read without finding a marker is read as it is. -/
theorem pieces_slotless {text : List Char} {quote : OpenQuote}
    (slotless : (dialect.pieces quote text).slots = 0) :
    dialect.pieces quote text = text.map .char := by
  induction quote, text using pieces.induct dialect with
  | case1 quote => rfl
  | case2 quote rest outside ih =>
      rw [pieces, if_pos outside] at slotless
      simp [Pattern.slots, Piece.content?] at slotless
  | case3 quote rest inside ih =>
      rw [pieces, if_neg inside] at slotless ⊢
      rw [ih (by simpa [Pattern.slots, Piece.content?] using slotless)]
      rfl
  | case4 quote c rest lone question ih =>
      rw [pieces.eq_3 _ _ _ _ lone, if_pos question] at slotless
      simp [Pattern.slots, Piece.content?] at slotless
  | case5 quote c rest lone quiet ih =>
      rw [pieces.eq_3 _ _ _ _ lone, if_neg quiet] at slotless ⊢
      rw [ih (by simpa [Pattern.slots, Piece.content?] using slotless)]
      rfl

theorem pieces_eq_nil_iff {text : List Char} {quote : OpenQuote} :
    dialect.pieces quote text = [] ↔ text = [] := by
  fun_cases pieces dialect quote text <;> simp

/-! Texts that spell filled ones -/

/-- The quotes of a text are closed, and its markers stand where `filled` has its values. -/
structure Spells (dialect : Dialect) (text : String) (filled : Filled) : Prop where
  closed : dialect.quoteBehind none text.toList = none
  pieces : dialect.pieces none text.toList = filled.pattern

/-- A text is supplied with the values that it spells. -/
theorem Spells.supplied {text : String} {filled : Filled} (spelled : dialect.Spells text filled) :
    dialect.Supplied text filled.values :=
  ⟨spelled.closed, by rw [spelled.pieces, Pattern.slots_pattern]⟩

/-- A text that spells itself: it has no markers outside of quotes. -/
abbrev Silent (dialect : Dialect) (text : String) : Prop :=
  dialect.Spells text (Filled.ofText text)

theorem Spells.fill_eq_some_iff {text : String} {filled : Filled} {values : List Value}
    (spelled : dialect.Spells text filled) :
    dialect.fill text values = some filled ↔ values = filled.values := by
  rw [fill, spelled.pieces, Pattern.fill_eq_some_iff]
  constructor
  · rintro ⟨-, taken⟩
    exact taken.symm
  · rintro rfl
    exact ⟨rfl, rfl⟩

theorem Spells.append {left right : String} {filled extra : Filled}
    (first : dialect.Spells left filled) (second : dialect.Spells right extra)
    (apart : Apart left right) : dialect.Spells (left ++ right) (filled ++ extra) where
  closed := by
    rw [String.toList_append, quoteBehind_append, first.closed, second.closed]
  pieces := by
    rw [String.toList_append, pieces_append apart, first.closed, first.pieces, second.pieces,
      Filled.pattern_append]

theorem Silent.append {left right : String} (first : dialect.Silent left)
    (second : dialect.Silent right) (apart : Apart left right) :
    dialect.Silent (left ++ right) := by
  unfold Silent
  rw [Filled.ofText_append]
  exact Spells.append first second apart

theorem Inert.append {left right : String} (first : Inert left) (second : Inert right) :
    Inert (left ++ right) := by
  rw [Inert, String.toList_append, List.all_append, Bool.and_eq_true]
  exact ⟨first, second⟩

theorem Inert.silent {text : String} (inert : Inert text) : dialect.Silent text where
  closed := (pieces_inert inert).2
  pieces := by rw [(pieces_inert inert).1, Filled.pattern_ofText]

theorem silent_empty : dialect.Silent "" :=
  ⟨rfl, rfl⟩

/-- A text without the characters of a marker is silent if its quotes are closed. -/
theorem Silent.of_unmarked {text : String} (closed : dialect.quoteBehind none text.toList = none)
    (unmarked : ∀ c ∈ text.toList, c ≠ '%' ∧ c ≠ '?') : dialect.Silent text where
  closed := closed
  pieces := by
    have chars {quote : OpenQuote} {text : List Char}
        (unmarked : ∀ c ∈ text, c ≠ '%' ∧ c ≠ '?') :
        dialect.pieces quote text = text.map .char := by
      induction text generalizing quote with
      | nil => rfl
      | cons c text ih =>
          obtain ⟨plain, others⟩ := List.forall_mem_cons.mp unmarked
          rw [pieces_cons (.inr plain), ih others]
          rfl
    rw [chars unmarked, Filled.pattern_ofText]

theorem Inert.ends {text : String} (inert : Inert text) : text.toList.getLast? ≠ some '%' := by
  intro last
  have := List.all_eq_true.mp inert '%' (List.mem_of_getLast? last)
  simp [isInert] at this

theorem spells_marker (value : Value) : dialect.Spells dialect.marker.text [.slot value] where
  closed := by
    cases dialect.marker <;> simp [Marker.text, quoteBehind, quoteAfter]
  pieces := by
    cases marker : dialect.marker <;> simp [Marker.text, pieces, marker] <;> rfl

/-- A text, a marker behind it, and what follows the marker. -/
theorem Spells.marked {front back : String} {filled : Filled} (first : dialect.Silent front)
    (ends : front.toList.getLast? ≠ some '%') (rest : dialect.Spells back filled)
    (starts : back.toList.head? ≠ some 's') (value : Value) :
    dialect.Spells (front ++ (dialect.marker.text ++ back))
      (Filled.ofText front ++ .slot value :: filled) :=
  Spells.append first (Spells.append (spells_marker value) rest (.inr starts)) (.inl ends)

end Dialect

end SqlToolkit
