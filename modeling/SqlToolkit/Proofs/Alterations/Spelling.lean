import SqlToolkit.Proofs.Alterations.Reading
/-!
Names and declarations as they are written are read back.
-/

namespace SqlToolkit.Reading

theorem strip_append (start text : List Char) : strip start (start ++ text) = some text := by
  induction start with
  | nil => rfl
  | cons c rest ih => simp [strip, ih]

theorem foldr_putFirst (first : List Char) (text : List Char) (texts : List (List Char)) :
    first.foldr putFirst (text :: texts) = (first ++ text) :: texts := by
  induction first with
  | nil => rfl
  | cons c rest ih => simp [ih, putFirst]

/-! Names -/

/-- A text behind a quoted name that neither goes on with the name nor with a further one. -/
def Behind (text : List Char) : Prop :=
  text.head? ≠ some '\x22' ∧ text.head? ≠ some ','

instance (text : List Char) : Decidable (Behind text) :=
  inferInstanceAs (Decidable (_ ∧ _))

theorem Behind.append {word : List Char} (behind : Behind word) (filled : word ≠ [])
    (text : List Char) : Behind (word ++ text) := by
  cases word with
  | nil => exact absurd rfl filled
  | cons c rest => exact behind

theorem Behind.join {left right : List Char} (first : Behind left) (second : Behind right) :
    Behind (left ++ right) := by
  cases left with
  | nil => exact second
  | cons c rest => exact first

theorem namesFrom_closed {rest : List Char} (behind : Behind rest) :
    namesFrom ('\x22' :: rest) = some ([[]], rest) := by
  refine namesFrom.eq_4 rest ?_ ?_
  · rintro more rfl
    exact behind.1 rfl
  · rintro more rfl
    exact behind.2 rfl

theorem namesFrom_doubled (name rest : List Char) :
    namesFrom (Text.doubled '\x22' name ++ '\x22' :: rest) =
      (namesFrom ('\x22' :: rest)).map fun (names, rest) => (name.foldr putFirst names, rest) := by
  induction name with
  | nil => simp [Text.doubled]
  | cons c name ih =>
      by_cases quote : c = '\x22'
      · subst quote
        rw [Text.doubled, if_pos rfl, List.cons_append, List.cons_append, namesFrom, ih,
          Option.map_map]
        rfl
      · rw [Text.doubled, if_neg quote, List.cons_append, namesFrom.eq_5, ih, Option.map_map]
        · rfl
        · exact fun _ same _ => quote same
        · exact fun _ same _ => quote same
        · exact quote

/-- A name in quotes, as it is written. -/
def written (name : String) : List Char :=
  '\x22' :: Text.doubled '\x22' name.toList ++ ['\x22']

theorem list_opens (first : String) (more : List String) :
    ∃ tail, [',', ' '].intercalate ((first :: more).map written) = '\x22' :: tail := by
  cases more with
  | nil => exact ⟨_, rfl⟩
  | cons second more => exact ⟨_, rfl⟩

theorem names_written {text : List Char} (behind : Behind text) (first : String)
    (more : List String) :
    names ([',', ' '].intercalate ((first :: more).map written) ++ text) =
      some (first :: more, text) := by
  induction more generalizing first with
  | nil =>
      simp only [List.map_cons, List.map_nil, List.intercalate_singleton, written, List.cons_append,
        List.append_assoc, List.nil_append, names]
      rw [namesFrom_doubled, namesFrom_closed behind]
      simp [foldr_putFirst]
  | cons second more ih =>
      have rest := ih second
      obtain ⟨tail, opens⟩ := list_opens second more
      rw [opens] at rest
      rw [List.map_cons, List.map_cons, List.intercalate_cons_cons, ← List.map_cons, opens]
      simp only [written, List.cons_append, List.append_assoc, List.nil_append, names,
        Option.map_eq_some_iff] at rest ⊢
      obtain ⟨⟨found, remains⟩, read, same⟩ := rest
      obtain ⟨named, rfl⟩ := Prod.mk.inj same
      rw [namesFrom_doubled, namesFrom.eq_3, read]
      simpa [foldr_putFirst] using named

theorem name_written {text : List Char} (behind : Behind text) (only : String) :
    name (written only ++ text) = some (only, text) := by
  have read := names_written behind only []
  rw [List.map_singleton, List.intercalate_singleton] at read
  rw [name, read]

/-! Declarations in brackets -/

theorem Spot.behind_append (spot : Spot) (left right : List Char) :
    spot.behind (left ++ right) = (spot.behind left).bind (·.behind right) := by
  unfold behind
  rw [List.foldlM_append]
  rfl

theorem declarations_append {spot next : Spot} {text : List Char}
    (passes : spot.behind text = some next) (rest : List Char) :
    declarations spot (text ++ rest) = (declarations next rest).map (text.foldr putFirst) := by
  induction text generalizing spot with
  | nil =>
      obtain rfl : spot = next := Option.some.inj passes
      simp
  | cons c text ih =>
      unfold Spot.behind at passes
      rw [List.foldlM_cons] at passes
      obtain ⟨middle, first, later⟩ := Option.bind_eq_some_iff.mp passes
      rw [List.cons_append, declarations, first]
      simp only [ih later, Option.map_map]
      rfl

/-- A text that leaves no quote and no bracket open, and that ends no declaration. -/
def Closed (text : List Char) : Prop :=
  ({} : Spot).behind text = some {}

instance (text : List Char) : Decidable (Closed text) :=
  inferInstanceAs (Decidable (_ = _))

theorem Closed.append {left right : List Char} (first : Closed left) (second : Closed right) :
    Closed (left ++ right) := by
  unfold Closed at *
  rw [Spot.behind_append, first]
  exact second

/-- The parts of a list in brackets; each but the first has a blank in front. -/
theorem declarations_list (first : List Char) (more : List (List Char))
    (closed : ∀ text ∈ first :: more, Closed text) :
    declarations {} ([',', ' '].intercalate (first :: more) ++ [')']) =
      some (first :: more.map (' ' :: ·)) := by
  induction more generalizing first with
  | nil =>
      rw [List.intercalate_singleton, declarations_append (closed first (by simp))]
      simp [declarations, Spot.next, foldr_putFirst]
  | cons second more ih =>
      have rest := ih second fun text member => closed text (List.mem_cons_of_mem first member)
      have blank : declarations {} (' ' :: ([',', ' '].intercalate (second :: more) ++ [')'])) =
          some ((' ' :: second) :: more.map (' ' :: ·)) := by
        rw [declarations]
        simp [Spot.next, rest, putFirst]
      rw [List.intercalate_cons_cons, List.append_assoc, List.append_assoc,
        declarations_append (closed first (by simp)), List.cons_append, declarations]
      simp only [Spot.next]
      simp [blank, foldr_putFirst]

/-! Texts in quotes -/

theorem behind_doubled {quote : Char} (opens : quote = '\x27' ∨ quote = '\x22') (depth : Nat)
    (text : List Char) :
    (Spot.mk (some quote) depth).behind (Text.doubled quote text) = some ⟨some quote, depth⟩ := by
  induction text with
  | nil => rfl
  | cons c text ih =>
      unfold Spot.behind at ih ⊢
      by_cases same : c = quote
      · rw [Text.doubled, if_pos same, List.foldlM_cons]
        simpa [Spot.next, opens] using ih
      · rw [Text.doubled, if_neg same, List.foldlM_cons]
        simpa [Spot.next, same] using ih

theorem behind_enclosed {quote : Char} (opens : quote = '\x27' ∨ quote = '\x22') (depth : Nat)
    (text : List Char) :
    (Spot.mk none depth).behind (quote :: Text.doubled quote text ++ [quote]) =
      some ⟨none, depth⟩ := by
  have first : (Spot.mk none depth).behind [quote] = some ⟨some quote, depth⟩ := by
    simp [Spot.behind, Spot.next, opens]
  have last : (Spot.mk (some quote) depth).behind [quote] = some ⟨none, depth⟩ := by
    simp [Spot.behind, Spot.next]
  rw [← List.singleton_append, List.append_assoc, Spot.behind_append, first, Option.bind_some,
    Spot.behind_append, behind_doubled opens, Option.bind_some, last]

theorem closed_enclosed {quote : Char} (opens : quote = '\x27' ∨ quote = '\x22')
    (text : List Char) : Closed (quote :: Text.doubled quote text ++ [quote]) :=
  behind_enclosed opens 0 text

theorem doubled_of_not_mem {quote : Char} {text : List Char} (missing : quote ∉ text) :
    Text.doubled quote text = text := by
  induction text with
  | nil => rfl
  | cons c text ih =>
      obtain ⟨ne, rest⟩ : quote ≠ c ∧ quote ∉ text := by simpa using missing
      rw [Text.doubled, if_neg (Ne.symm ne), ih rest]

end SqlToolkit.Reading
