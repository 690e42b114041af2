import SqlToolkit.Proofs.Markers.Spelling
import SqlToolkit.Query.Select
/-!
Texts without markers: quoted names, whatever characters they are made of, numbers, operators that a
vendor knows, and what is put together of these.
-/

namespace SqlToolkit

variable {dialect : Dialect}

namespace Dialect

/-- An inert text that makes no marker with what stands before it or behind it. -/
structure Joint (word : String) : Prop where
  inert : Inert word
  nonempty : word ≠ ""
  starts : word.toList.head? ≠ some 's'

instance (word : String) : Decidable (Joint word) :=
  decidable_of_iff (Inert word ∧ word ≠ "" ∧ word.toList.head? ≠ some 's')
    ⟨fun ⟨inert, nonempty, starts⟩ => ⟨inert, nonempty, starts⟩,
      fun joint => ⟨joint.inert, joint.nonempty, joint.starts⟩⟩

theorem Apart.of_word {left word right : String} (ends : word.toList.getLast? ≠ some '%')
    (nonempty : word ≠ "") : Apart (left ++ word) right := by
  have characters : word.toList ≠ [] := by simpa using nonempty
  refine .inl ?_
  rwa [String.toList_append, List.getLast?_append_of_ne_nil _ characters]

theorem Apart.of_joint {left word right : String} (joint : Joint word) :
    Apart (left ++ word) right :=
  .of_word joint.inert.ends joint.nonempty

theorem Spells.prepend {word text : String} {filled : Filled} (inert : Inert word)
    (spelled : dialect.Spells text filled) :
    dialect.Spells (word ++ text) (Filled.ofText word ++ filled) :=
  Spells.append inert.silent spelled (.inl inert.ends)

theorem Spells.close {text word : String} {filled : Filled} (spelled : dialect.Spells text filled)
    (joint : Joint word) : dialect.Spells (text ++ word) (filled ++ Filled.ofText word) :=
  Spells.append spelled joint.inert.silent (.inr joint.starts)

theorem Spells.between {left word right : String} {filled extra : Filled}
    (first : dialect.Spells left filled) (second : dialect.Spells right extra)
    (joint : Joint word) :
    dialect.Spells (left ++ word ++ right) (filled ++ Filled.ofText word ++ extra) :=
  Spells.append (first.close joint) second (.of_joint joint)

theorem Silent.prepend {word text : String} (inert : Inert word) (silent : dialect.Silent text) :
    dialect.Silent (word ++ text) :=
  Silent.append inert.silent silent (.inl inert.ends)

theorem Silent.close {text word : String} (silent : dialect.Silent text) (joint : Joint word) :
    dialect.Silent (text ++ word) :=
  Silent.append silent joint.inert.silent (.inr joint.starts)

theorem Silent.between {left word right : String} (first : dialect.Silent left)
    (second : dialect.Silent right) (joint : Joint word) :
    dialect.Silent (left ++ word ++ right) :=
  Silent.append (first.close joint) second (.of_joint joint)

/-! Quoted names -/

theorem pieces_doubled (text rest : List Char) :
    dialect.pieces (some dialect.vendor.quote) (Text.doubled dialect.vendor.quote text ++ rest) =
      (Text.doubled dialect.vendor.quote text).map .char ++
        dialect.pieces (some dialect.vendor.quote) rest := by
  induction text with
  | nil => rfl
  | cons c text ih =>
      by_cases same : c = dialect.vendor.quote
      · have reopened : dialect.vendor.quote ≠ '%' ∧ dialect.vendor.quote ≠ '?' := by
          cases dialect.vendor <;> decide
        simp only [Text.doubled, if_pos same, List.cons_append, List.map_cons]
        rw [pieces_cons (.inl (by simp)), quoteAfter, if_pos rfl, pieces_cons (.inr reopened)]
        simp only [quoteAfter, isQuote_quote, if_true, ih]
      · simp only [Text.doubled, if_neg same, List.cons_append, List.map_cons]
        rw [pieces_cons (.inl (by simp)), quoteAfter, if_neg same, ih]

theorem quoteBehind_doubled (text : List Char) :
    dialect.quoteBehind (some dialect.vendor.quote) (Text.doubled dialect.vendor.quote text) =
      some dialect.vendor.quote := by
  induction text with
  | nil => rfl
  | cons c text ih =>
      by_cases same : c = dialect.vendor.quote
      · simpa [Text.doubled, same, quoteBehind, quoteAfter] using ih
      · simpa [Text.doubled, same, quoteBehind, quoteAfter] using ih

theorem silent_quoted (name : String) : dialect.Silent (dialect.quoted name) := by
  unfold quoted
  split
  · exact Inert.silent (by decide)
  · have opens : dialect.vendor.quote ≠ '%' ∧ dialect.vendor.quote ≠ '?' := by
      cases dialect.vendor <;> decide
    constructor
    · simp only [Text.enclosed, String.toList_ofList, List.cons_append]
      change dialect.quoteBehind (dialect.quoteAfter none dialect.vendor.quote) _ = none
      rw [quoteAfter, isQuote_quote, if_pos rfl, quoteBehind_append, quoteBehind_doubled]
      simp [quoteBehind, quoteAfter]
    · rw [Filled.pattern_ofText]
      simp only [Text.enclosed, String.toList_ofList, List.cons_append, List.map_cons,
        List.map_append, List.map_nil]
      rw [pieces_cons (.inr opens), quoteAfter, isQuote_quote, if_pos rfl, pieces_doubled,
        pieces_cons (.inl (by simp))]
      rfl

/-! Lists of texts -/

theorem Spells.intercalate {separator : String} {texts : List String} {filled : List Filled}
    (joint : Joint separator) (spelled : List.Forall₂ dialect.Spells texts filled) :
    dialect.Spells (separator.intercalate texts)
      ((Filled.ofText separator).intercalate filled) := by
  induction spelled with
  | nil => exact silent_empty
  | @cons text first texts filled head tail ih =>
      cases tail with
      | nil => simpa using head
      | cons next others =>
          rw [String.intercalate_cons_cons, List.intercalate_cons_cons]
          exact Spells.between head ih joint

theorem Silent.intercalate {separator : String} {texts : List String}
    (joint : Joint separator) (silent : ∀ text ∈ texts, dialect.Silent text) :
    dialect.Silent (separator.intercalate texts) := by
  induction texts with
  | nil => exact silent_empty
  | cons text rest ih =>
      have others := ih fun other member => silent other (by simp [member])
      cases rest with
      | nil => simpa using silent text (by simp)
      | cons next rest =>
          rw [String.intercalate_cons_cons]
          exact (silent text (by simp)).between others joint

/-! Columns and tables -/

theorem silent_columnPath (name : String) : dialect.Silent (dialect.columnPath name) := by
  unfold columnPath
  split
  · exact silent_quoted name
  · exact silent_quoted _
  · refine Silent.intercalate (by decide) fun text member => ?_
    rcases List.mem_cons.mp member with rfl | member
    · exact silent_quoted _
    · obtain ⟨segment, -, rfl⟩ := List.mem_map.mp member
      exact silent_quoted segment

theorem silent_column (name : String) : dialect.Silent (dialect.column name) := by
  unfold column
  split
  · exact (silent_columnPath _).between (silent_quoted _) (by decide)
  · exact silent_columnPath name

theorem silent_tablePath (name : String) : dialect.Silent (dialect.tablePath name) := by
  unfold tablePath
  split
  · exact (silent_quoted _).between (silent_quoted _) (by decide)
  · exact silent_quoted _

theorem silent_table (name : String) : dialect.Silent (dialect.table name) := by
  unfold table
  split
  · exact (silent_tablePath _).between (silent_quoted _) (by decide)
  · exact silent_tablePath name

/-! Numbers and operators -/

theorem inert_toString (n : Nat) : Inert (toString n) := by
  refine List.all_eq_true.mpr fun c member => ?_
  have digit : c.isDigit := by
    have listed : c ∈ Nat.toDigits 10 n := by simpa using member
    exact Nat.isDigit_of_mem_toDigits (by decide) (by decide) listed
  simp only [isInert, Bool.and_eq_true, decide_eq_true_eq]
  refine ⟨⟨⟨⟨?_, ?_⟩, ?_⟩, ?_⟩, ?_⟩ <;> (rintro rfl; simp at digit)

theorem inert_operator {operator : String} (known : dialect.vendor.knowsOperator operator = true) :
    Inert operator := by
  have listed : ∀ vendor : Vendor, ∀ word ∈ vendor.operators, Inert word := by
    intro vendor
    cases vendor <;> decide
  have lowered : Inert (Text.asciiLower operator) :=
    listed dialect.vendor _ (by simpa [Vendor.knowsOperator] using known)
  refine List.all_eq_true.mpr fun c member => ?_
  have small : isInert c.toLower = true :=
    List.all_eq_true.mp lowered _ (by simpa [Text.asciiLower] using ⟨c, member, rfl⟩)
  simp only [isInert, Bool.and_eq_true, decide_eq_true_eq] at small ⊢
  refine ⟨⟨⟨⟨?_, ?_⟩, ?_⟩, ?_⟩, ?_⟩ <;>
    (rintro rfl; exact absurd small (by decide))

end Dialect

end SqlToolkit
