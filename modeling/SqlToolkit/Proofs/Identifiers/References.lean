import SqlToolkit.Dialect
/-!
References as they stand in a statement: identifiers in quotes with dots between them, a star for
itself, and an alias behind AS. Whatever characters the identifiers are made of, a written reference
is read back as it is, and nothing but dots, stars and the AS stands outside of its quotes.
-/

namespace SqlToolkit

structure Reference where
  path : List String
  shown : Option String
  deriving DecidableEq, Repr

namespace Reference

/-! Reading -/

/-- The text up to the quote that closes it, with the doubled quotes in it undone, and what stands
behind it. -/
def readQuoted (quote : Char) : List Char → Option (List Char × List Char)
  | [] => none
  | [c] => if c = quote then some ([], []) else none
  | c :: next :: rest =>
      if c = quote then
        if next = quote then
          (readQuoted quote rest).map fun (content, behind) => (quote :: content, behind)
        else some ([], next :: rest)
      else (readQuoted quote (next :: rest)).map fun (content, behind) => (c :: content, behind)

/-- A star, or a text in quotes. -/
def readIdentifier (quote : Char) : List Char → Option (String × List Char)
  | [] => none
  | c :: rest =>
      if c = '*' then some ("*", rest)
      else if c = quote then
        (readQuoted quote rest).map fun (content, behind) => (String.ofList content, behind)
      else none

section Lengths

variable {quote : Char} {text content behind : List Char} {name : String}

theorem length_readQuoted (read : readQuoted quote text = some (content, behind)) :
    content.length + behind.length < text.length := by
  induction text using readQuoted.induct quote generalizing content with
  | case1 => simp [readQuoted] at read
  | case2 => simp_all [readQuoted]
  | case3 c other => simp [readQuoted, other] at read
  | case4 rest ih =>
      simp only [readQuoted, if_true, Option.map_eq_some_iff] at read
      obtain ⟨⟨inner, after⟩, closed, same⟩ := read
      cases same
      have shorter := ih closed
      simp only [List.length_cons] at shorter ⊢
      omega
  | case5 next rest single =>
      simp only [readQuoted, if_true, if_neg single, Option.some.injEq] at read
      cases read
      simp
  | case6 c next rest other ih =>
      simp only [readQuoted, if_neg other, Option.map_eq_some_iff] at read
      obtain ⟨⟨inner, after⟩, closed, same⟩ := read
      cases same
      have shorter := ih closed
      simp only [List.length_cons] at shorter ⊢
      omega

theorem length_readIdentifier (read : readIdentifier quote text = some (name, behind)) :
    behind.length < text.length ∧ name.length + behind.length ≤ text.length := by
  cases text with
  | nil => simp [readIdentifier] at read
  | cons c rest =>
      rw [readIdentifier] at read
      split at read
      · cases read
        have one : "*".length = 1 := rfl
        simp [one, Nat.add_comm]
      · split at read
        · obtain ⟨⟨content, after⟩, closed, same⟩ := Option.map_eq_some_iff.mp read
          cases same
          have shorter := length_readQuoted closed
          rw [List.length_cons, String.length_ofList]
          omega
        · cases read

end Lengths

/-- Identifiers with dots between them. -/
def readPath (quote : Char) (text : List Char) : Option (List String × List Char) :=
  match _ : readIdentifier quote text with
  | some (name, '.' :: rest) =>
      (readPath quote rest).map fun (path, behind) => (name :: path, behind)
  | some (name, behind) => some ([name], behind)
  | none => none
termination_by text.length
decreasing_by
  have shorter := (length_readIdentifier ‹_›).1
  rw [List.length_cons] at shorter
  omega

theorem readPath_dot {quote : Char} {text rest : List Char} {name : String}
    (read : readIdentifier quote text = some (name, '.' :: rest)) :
    readPath quote text =
      (readPath quote rest).map fun (path, behind) => (name :: path, behind) := by
  rw [readPath]
  split
  · rename_i found
    cases read.symm.trans found
    rfl
  · rename_i whole found
    cases read.symm.trans found
    exact absurd rfl (whole rest)
  · rename_i found
    cases read.symm.trans found

theorem readPath_last {quote : Char} {text behind : List Char} {name : String}
    (read : readIdentifier quote text = some (name, behind)) (whole : behind.head? ≠ some '.') :
    readPath quote text = some ([name], behind) := by
  rw [readPath]
  split
  · rename_i found
    cases read.symm.trans found
    exact absurd rfl whole
  · rename_i found
    cases read.symm.trans found
    rfl
  · rename_i found
    cases read.symm.trans found

/-- The whole of a text as one reference. -/
def read (quote : Char) (text : List Char) : Option Reference :=
  match readPath quote text with
  | some (path, []) => some ⟨path, none⟩
  | some (path, ' ' :: 'A' :: 'S' :: ' ' :: rest) =>
      match readIdentifier quote rest with
      | some (shown, []) => some ⟨path, some shown⟩
      | _ => none
  | _ => none

section Whole

variable {quote : Char} {text rest : List Char} {path : List String} {name : String}

theorem read_plain (found : readPath quote text = some (path, [])) :
    read quote text = some ⟨path, none⟩ := by
  rw [read, found]

theorem read_shown (found : readPath quote text = some (path, " AS ".toList ++ rest))
    (shown : readIdentifier quote rest = some (name, [])) :
    read quote text = some ⟨path, some name⟩ := by
  simp [read, found, shown]

end Whole

/-- The characters outside of quotes. -/
def outside (quote : Char) : (quoted : Bool) → List Char → List Char
  | _, [] => []
  | true, c :: rest => outside quote (c ≠ quote) rest
  | false, c :: rest => if c = quote then outside quote true rest else c :: outside quote false rest

/-- An identifier without its quotes and what stands in them. -/
def bareName (name : String) : List Char :=
  if name = "*" then ['*'] else []

/-- A reference without its quotes and what stands in them. -/
def bare (reference : Reference) : List Char :=
  ['.'].intercalate (reference.path.map bareName) ++
    reference.shown.elim [] fun shown => " AS ".toList ++ bareName shown

end Reference

namespace Dialect

/-! Writing -/

def path (dialect : Dialect) (segments : List String) : String :=
  ".".intercalate (segments.map dialect.quoted)

def reference (dialect : Dialect) (reference : Reference) : String :=
  dialect.path reference.path ++
    reference.shown.elim "" fun shown => " AS " ++ dialect.quoted shown

end Dialect

/-! What is written is read back -/

namespace Reference

section Quotes

variable {quote : Char} {rest : List Char}

theorem readQuoted_cons {c : Char} {text : List Char} (other : c ≠ quote) (more : text ≠ []) :
    readQuoted quote (c :: text) =
      (readQuoted quote text).map fun (content, behind) => (c :: content, behind) := by
  cases text with
  | nil => exact absurd rfl more
  | cons next text => rw [readQuoted, if_neg other]

theorem readQuoted_doubled (text : List Char) (ends : rest.head? ≠ some quote) :
    readQuoted quote (Text.doubled quote text ++ quote :: rest) = some (text, rest) := by
  induction text with
  | nil =>
      cases rest with
      | nil => simp [Text.doubled, readQuoted]
      | cons next rest =>
          have other : next ≠ quote := by simpa using ends
          simp [Text.doubled, readQuoted, other]
  | cons c text ih =>
      by_cases same : c = quote
      · simp [Text.doubled, same, readQuoted, ih]
      · rw [Text.doubled, if_neg same, List.cons_append, readQuoted_cons same (by simp), ih]
        rfl

theorem outside_doubled (text : List Char) :
    outside quote true (Text.doubled quote text ++ quote :: rest) = outside quote false rest := by
  induction text with
  | nil => simp [Text.doubled, outside]
  | cons c text ih =>
      by_cases same : c = quote
      · simpa [Text.doubled, same, outside] using ih
      · simpa [Text.doubled, same, outside] using ih

end Quotes

variable {dialect : Dialect} {rest : List Char}

theorem quote_ne (vendor : Vendor) :
    vendor.quote ≠ '*' ∧ vendor.quote ≠ '.' ∧ vendor.quote ≠ ' ' := by
  cases vendor <;> decide

theorem readIdentifier_quoted (name : String) (ends : rest.head? ≠ some dialect.vendor.quote) :
    readIdentifier dialect.vendor.quote ((dialect.quoted name).toList ++ rest) =
      some (name, rest) := by
  unfold Dialect.quoted
  split
  case isTrue star =>
    rw [star]
    rfl
  case isFalse =>
    have opens := (quote_ne dialect.vendor).1
    simp [Text.enclosed, readIdentifier, opens, readQuoted_doubled _ ends]

theorem outside_quoted (name : String) :
    outside dialect.vendor.quote false ((dialect.quoted name).toList ++ rest) =
      bareName name ++ outside dialect.vendor.quote false rest := by
  unfold Dialect.quoted bareName
  split
  case isTrue =>
    have closed := (quote_ne dialect.vendor).1.symm
    simp [outside, closed]
  case isFalse => simp [Text.enclosed, outside, outside_doubled]

theorem path_cons_cons (first next : String) (segments : List String) :
    (dialect.path (first :: next :: segments)).toList =
      (dialect.quoted first).toList ++ '.' :: (dialect.path (next :: segments)).toList := by
  simp [Dialect.path, String.intercalate_cons_cons]

theorem readPath_path (first : String) (segments : List String)
    (ends : rest.head? ≠ some dialect.vendor.quote) (whole : rest.head? ≠ some '.') :
    readPath dialect.vendor.quote ((dialect.path (first :: segments)).toList ++ rest) =
      some (first :: segments, rest) := by
  induction segments generalizing first with
  | nil =>
      rw [Dialect.path, List.map_singleton, String.intercalate_singleton]
      exact readPath_last (readIdentifier_quoted first ends) whole
  | cons next segments ih =>
      have opens := (quote_ne dialect.vendor).2.1.symm
      rw [path_cons_cons, List.append_assoc, List.cons_append,
        readPath_dot (readIdentifier_quoted first (by simpa using opens)), ih next]
      rfl

theorem outside_path (segments : List String) :
    outside dialect.vendor.quote false ((dialect.path segments).toList ++ rest) =
      ['.'].intercalate (segments.map bareName) ++ outside dialect.vendor.quote false rest := by
  induction segments with
  | nil => rfl
  | cons first segments ih =>
      cases segments with
      | nil =>
          rw [Dialect.path, List.map_singleton, String.intercalate_singleton, outside_quoted,
            List.map_singleton, List.intercalate_singleton]
      | cons next segments =>
          have opens := (quote_ne dialect.vendor).2.1.symm
          rw [path_cons_cons, List.append_assoc, outside_quoted, List.cons_append, outside,
            if_neg opens, ih]
          simp [List.intercalate_cons_cons]

theorem read_reference (reference : Reference) (named : reference.path ≠ []) :
    read dialect.vendor.quote (dialect.reference reference).toList = some reference := by
  obtain ⟨path, shown⟩ := reference
  obtain ⟨first, segments, rfl⟩ := List.exists_cons_of_ne_nil named
  cases shown with
  | none =>
      refine read_plain ?_
      simpa [Dialect.reference] using @readPath_path dialect [] first segments (by simp) (by simp)
  | some shown =>
      have opens := (quote_ne dialect.vendor).2.2.symm
      have display := @readIdentifier_quoted dialect [] shown (by simp)
      rw [List.append_nil] at display
      refine read_shown ?_ display
      simpa [Dialect.reference] using
        @readPath_path dialect (" AS ".toList ++ (dialect.quoted shown).toList) first segments
          (by simpa using opens) (by simp)

theorem outside_as (rest : List Char) :
    outside dialect.vendor.quote false (" AS ".toList ++ rest) =
      " AS ".toList ++ outside dialect.vendor.quote false rest := by
  have opens := (quote_ne dialect.vendor).2.2.symm
  have letters : 'A' ≠ dialect.vendor.quote ∧ 'S' ≠ dialect.vendor.quote := by
    cases dialect.vendor <;> decide
  simp [outside, opens, letters]

theorem outside_reference (reference : Reference) :
    outside dialect.vendor.quote false (dialect.reference reference).toList = reference.bare := by
  obtain ⟨path, shown⟩ := reference
  cases shown with
  | none => simpa [Dialect.reference, bare, outside] using @outside_path dialect [] path
  | some shown =>
      have display := @outside_quoted dialect [] shown
      rw [List.append_nil] at display
      simp only [Dialect.reference, bare, Option.elim_some, String.toList_append]
      rw [outside_path, outside_as, display, outside, List.append_nil]

end Reference

end SqlToolkit
