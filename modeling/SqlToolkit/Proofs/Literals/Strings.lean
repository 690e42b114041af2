import SqlToolkit.Proofs.Reading.Lexing
/-!
String literals, as each vendor reads them. All vendors take two quotes inside a literal for one;
MySQL also undoes escapes, which begin with a backslash. A text between quotes, with the quotes in
it doubled, is read back just if no escape changes it.
-/

namespace SqlToolkit

/-- The letters whose escapes stand for control characters. -/
def controlEscapes : List (Char × Char) :=
  [('0', '\x00'), ('b', '\x08'), ('n', '\n'), ('r', '\r'), ('t', '\t'), ('Z', '\x1a')]

/-- What an escape stands for, by the character behind its backslash. Before a wildcard of a pattern
the backslash stays. -/
def escapeValue (c : Char) : List Char :=
  match controlEscapes.lookup c with
  | some control => [control]
  | none => if c = '%' ∨ c = '_' then ['\\', c] else [c]

namespace Vendor

/-- Whether a backslash inside a literal begins an escape. -/
def escapes : Vendor → Bool
  | mysql => true
  | _ => false

/-- What a literal says behind its opening quote, and what stands behind the literal. A quote closes
it unless another one follows. -/
def readString? (vendor : Vendor) : List Char → Option (List Char × List Char)
  | [] => none
  | [c] => if c = '\x27' then some ([], []) else none
  | c :: next :: rest =>
      if vendor.escapes = true ∧ c = '\\' then
        (vendor.readString? rest).map fun read => (escapeValue next ++ read.1, read.2)
      else if c = '\x27' then
        if next = '\x27' then (vendor.readString? rest).map fun read => (c :: read.1, read.2)
        else some ([], next :: rest)
      else (vendor.readString? (next :: rest)).map fun read => (c :: read.1, read.2)

/-- The literal that a text begins with, and what stands behind it. -/
def readLiteral? (vendor : Vendor) : List Char → Option (List Char × List Char)
  | [] => none
  | c :: rest => if c = '\x27' then vendor.readString? rest else none

/-- No escape changes the text: where a backslash begins one, a wildcard stands behind it. -/
def Unescaped (vendor : Vendor) (text : List Char) : Prop :=
  vendor.escapes = true → ∀ before behind, text = before ++ '\\' :: behind →
    behind.head? = some '%' ∨ behind.head? = some '_'

variable {vendor : Vendor} {c : Char} {text behind rest value : List Char}

/-! Texts without escapes -/

theorem Unescaped.nil : vendor.Unescaped [] := by
  intro _ before behind split
  simp at split

theorem unescaped_cons_iff :
    vendor.Unescaped (c :: text) ↔
      (vendor.escapes = true → c = '\\' → text.head? = some '%' ∨ text.head? = some '_') ∧
        vendor.Unescaped text := by
  constructor
  · intro unescaped
    refine ⟨fun escapes slash => ?_, fun escapes before behind split => ?_⟩
    · exact unescaped escapes [] text (by rw [slash]; rfl)
    · exact unescaped escapes (c :: before) behind (by rw [split]; rfl)
  · rintro ⟨first, others⟩ escapes before behind split
    cases before with
    | nil =>
        obtain ⟨rfl, rfl⟩ := List.cons.inj split
        exact first escapes rfl
    | cons d before =>
        obtain ⟨-, split⟩ := List.cons.inj split
        exact others escapes before behind split

/-! Reading -/

/-- A character that neither closes the literal nor begins an escape. -/
theorem readString?_plain (other : c ≠ '\x27') (plain : vendor.escapes = true → c ≠ '\\') :
    vendor.readString? (c :: rest) =
      (vendor.readString? rest).map fun read => (c :: read.1, read.2) := by
  cases rest with
  | nil => simp [readString?, other]
  | cons next rest =>
      have unescaped : ¬ (vendor.escapes = true ∧ c = '\\') := fun both => plain both.1 both.2
      rw [readString?, if_neg unescaped, if_neg other]

theorem readString?_quotes :
    vendor.readString? ('\x27' :: '\x27' :: rest) =
      (vendor.readString? rest).map fun read => ('\x27' :: read.1, read.2) := by
  simp [readString?]

theorem readString?_closing (ends : behind.head? ≠ some '\x27') :
    vendor.readString? ('\x27' :: behind) = some ([], behind) := by
  cases behind with
  | nil => rfl
  | cons next rest =>
      have other : next ≠ '\x27' := by simpa using ends
      simp [readString?, other]

theorem readString?_escape (escapes : vendor.escapes = true) :
    vendor.readString? ('\\' :: c :: rest) =
      (vendor.readString? rest).map fun read => (escapeValue c ++ read.1, read.2) := by
  rw [readString?, if_pos ⟨escapes, rfl⟩]

theorem escapeValue_wildcard (wildcard : c = '%' ∨ c = '_') : escapeValue c = ['\\', c] := by
  rcases wildcard with rfl | rfl <;> rfl

/-- No other escape but that of a backslash stands for a text that begins with a backslash. -/
theorem escapeValue_other (other : c ≠ '\\') (plain : ¬ (c = '%' ∨ c = '_')) :
    ∃ d, escapeValue c = [d] ∧ d ≠ '\\' := by
  unfold escapeValue
  cases found : controlEscapes.lookup c with
  | none => exact ⟨c, if_neg plain, other⟩
  | some control =>
      obtain ⟨front, back, listed, -⟩ := List.lookup_eq_some_iff.mp found
      have controls : ∀ entry ∈ controlEscapes, entry.2 ≠ '\\' := by decide
      exact ⟨control, rfl, controls (c, control) (by simp [listed])⟩

/-- The escape of a wildcard is read as the two characters that it consists of. -/
theorem readString?_wildcard (escapes : vendor.escapes = true) (wildcard : c = '%' ∨ c = '_') :
    vendor.readString? ('\\' :: c :: rest) =
      (vendor.readString? (c :: rest)).map fun read => ('\\' :: read.1, read.2) := by
  have plain : c ≠ '\x27' ∧ c ≠ '\\' := by rcases wildcard with rfl | rfl <;> decide
  rw [readString?_escape escapes, readString?_plain plain.1 fun _ => plain.2,
    escapeValue_wildcard wildcard, Option.map_map]
  rfl

/-- An escape stands for no more than it consists of, where a quote counts twice. -/
theorem weight_escapeValue (c : Char) :
    (escapeValue c).length + (escapeValue c).count '\x27' ≤ 2 := by
  by_cases wildcard : c = '%' ∨ c = '_'
  · rcases wildcard with rfl | rfl <;> decide
  · have single : ∃ d, escapeValue c = [d] := by
      unfold escapeValue
      cases controlEscapes.lookup c with
      | none => exact ⟨c, if_neg wildcard⟩
      | some control => exact ⟨control, rfl⟩
    obtain ⟨d, value⟩ := single
    rw [value, List.count_singleton, List.length_singleton]
    split <;> omega

/-- What is read takes no more room than the literal, and the closing quote comes on top of it. A
quote counts twice. -/
theorem weight_readString? {input : List Char}
    (read : vendor.readString? input = some (value, behind)) :
    value.length + value.count '\x27' + behind.length < input.length := by
  fun_induction vendor.readString? input generalizing value with
  | case1 => cases read
  | case2 =>
      cases read
      simp
  | case3 => cases read
  | case4 c next rest escape ih =>
      obtain ⟨later, found, same⟩ := Option.map_eq_some_iff.mp read
      cases same
      have weight := weight_escapeValue next
      have less := ih found
      simp only [List.length_append, List.count_append, List.length_cons]
      omega
  | case5 rest plain ih =>
      obtain ⟨later, found, same⟩ := Option.map_eq_some_iff.mp read
      cases same
      have less := ih found
      simp only [List.length_cons, List.count_cons_self]
      omega
  | case6 next rest other plain =>
      cases read
      simp
  | case7 c next rest plain other ih =>
      obtain ⟨later, found, same⟩ := Option.map_eq_some_iff.mp read
      cases same
      have less := ih found
      rw [List.count_cons_of_ne other]
      simp only [List.length_cons] at less ⊢
      omega

theorem length_doubled (quote : Char) (text : List Char) :
    (Text.doubled quote text).length = text.length + text.count quote := by
  induction text with
  | nil => rfl
  | cons c text ih =>
      by_cases same : c = quote
      · subst same
        simp only [Text.doubled, if_true, List.length_cons, List.count_cons_self, ih]
        omega
      · rw [Text.doubled, if_neg same, List.length_cons, List.length_cons, ih,
          List.count_cons_of_ne same]
        omega

/-! Reading what was written -/

theorem readString?_doubled (unescaped : vendor.Unescaped text)
    (ends : behind.head? ≠ some '\x27') :
    vendor.readString? (Text.doubled '\x27' text ++ '\x27' :: behind) = some (text, behind) := by
  induction text with
  | nil => exact readString?_closing ends
  | cons c text ih =>
      obtain ⟨first, others⟩ := unescaped_cons_iff.mp unescaped
      have later := ih others
      by_cases quote : c = '\x27'
      · subst quote
        rw [Text.doubled, if_pos rfl, List.cons_append, List.cons_append, readString?_quotes, later]
        rfl
      rw [Text.doubled, if_neg quote, List.cons_append]
      by_cases escape : vendor.escapes = true ∧ c = '\\'
      · obtain ⟨escapes, rfl⟩ := escape
        obtain ⟨wildcard, text, rfl, listed⟩ :
            ∃ wildcard rest, text = wildcard :: rest ∧ (wildcard = '%' ∨ wildcard = '_') := by
          cases text with
          | nil => simpa using first escapes rfl
          | cons next rest => exact ⟨next, rest, rfl, by simpa using first escapes rfl⟩
        have other : wildcard ≠ '\x27' := by rcases listed with rfl | rfl <;> decide
        rw [Text.doubled, if_neg other, List.cons_append] at later ⊢
        rw [readString?_wildcard escapes listed, later]
        rfl
      · rw [readString?_plain quote fun escapes slash => escape ⟨escapes, slash⟩, later]
        rfl

/-- An escape that stands for a text with a backslash in front is that of a wildcard or of the
backslash itself. -/
theorem of_escape (escapes : vendor.escapes = true)
    (read : vendor.readString? ('\\' :: c :: rest) = some ('\\' :: value, behind)) :
    (c = '%' ∨ c = '_') ∨ c = '\\' := by
  refine Decidable.byContradiction fun neither => ?_
  obtain ⟨plain, other⟩ := not_or.mp neither
  obtain ⟨d, single, unlike⟩ := escapeValue_other other plain
  rw [readString?_escape escapes, single] at read
  obtain ⟨later, -, same⟩ := Option.map_eq_some_iff.mp read
  cases same
  exact unlike rfl

/-- A text that is read back has no escapes in it: the value of an escape would tell. -/
theorem unescaped_of_readString?
    (read : vendor.readString? (Text.doubled '\x27' text ++ '\x27' :: behind) =
      some (text, behind)) : vendor.Unescaped text := by
  induction text with
  | nil => exact .nil
  | cons c text ih =>
      rw [unescaped_cons_iff]
      by_cases quote : c = '\x27'
      · subst quote
        rw [Text.doubled, if_pos rfl, List.cons_append, List.cons_append,
          readString?_quotes] at read
        obtain ⟨later, found, same⟩ := Option.map_eq_some_iff.mp read
        cases same
        exact ⟨fun _ slash => absurd slash (by decide), ih found⟩
      rw [Text.doubled, if_neg quote, List.cons_append] at read
      by_cases escape : vendor.escapes = true ∧ c = '\\'
      · obtain ⟨escapes, rfl⟩ := escape
        cases text with
        | nil =>
            rcases of_escape escapes read with (quote | quote) | quote <;> cases quote
        | cons next rest =>
            by_cases closing : next = '\x27'
            · subst closing
              rw [Text.doubled, if_pos rfl] at read
              rcases of_escape escapes read with (quote | quote) | quote <;> cases quote
            rw [Text.doubled, if_neg closing, List.cons_append] at read ih
            rcases of_escape escapes read with wildcard | rfl
            · rw [readString?_wildcard escapes wildcard] at read
              obtain ⟨later, found, same⟩ := Option.map_eq_some_iff.mp read
              obtain rfl : later = (next :: rest, behind) := by simpa [Prod.ext_iff] using same
              exact ⟨fun _ _ => by simpa using wildcard, ih found⟩
            · -- two backslashes are read as one, so that one character is missing at the end
              rw [readString?_escape escapes] at read
              obtain ⟨later, found, same⟩ := Option.map_eq_some_iff.mp read
              have single : escapeValue '\\' = ['\\'] := rfl
              obtain rfl : later = ('\\' :: rest, behind) := by
                simpa [Prod.ext_iff, single] using same
              have weight := weight_readString? found
              rw [List.length_append, length_doubled] at weight
              simp only [List.length_cons, List.count_cons_of_ne closing] at weight
              omega
      · have plain : vendor.escapes = true → c ≠ '\\' :=
          fun escapes slash => escape ⟨escapes, slash⟩
        rw [readString?_plain quote plain] at read
        obtain ⟨later, found, same⟩ := Option.map_eq_some_iff.mp read
        cases same
        exact ⟨fun escapes slash => absurd slash (plain escapes), ih found⟩

/-- What stands behind a literal does not matter, as long as it is no quote. -/
theorem readLiteral?_enclosed_iff {text : String} (ends : behind.head? ≠ some '\x27') :
    vendor.readLiteral? ((Text.enclosed '\x27' text).toList ++ behind) =
      some (text.toList, behind) ↔ vendor.Unescaped text.toList := by
  have opened : vendor.readLiteral? ((Text.enclosed '\x27' text).toList ++ behind) =
      vendor.readString? (Text.doubled '\x27' text.toList ++ '\x27' :: behind) := by
    simp [Text.enclosed, readLiteral?]
  rw [opened]
  exact ⟨unescaped_of_readString?, fun unescaped => readString?_doubled unescaped ends⟩

end Vendor

end SqlToolkit
