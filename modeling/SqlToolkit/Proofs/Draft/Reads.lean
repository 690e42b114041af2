import SqlToolkit.Proofs.Draft.Simulation
import SqlToolkit.Query.Fetch
/-!
The statements that reading sends, on drafts: aggregates, existence, the count of groups and the
windows of pages.
-/

namespace SqlToolkit

/-- A statement in the parentheses that `front` opens, under a name. -/
def Filled.derived (dialect : Dialect) (front : String) (text : Filled) (name : String) : Filled :=
  ofText front ++ text ++ ofText ") AS " ++ ofText (dialect.quoted name)

namespace Draft

variable (dialect : Dialect)

/-- A function of columns in the place of the select list. -/
def aggregated (draft : Draft) (function : String) (columns : List String) : Draft :=
  { draft with columns := [], aggregate := some ⟨function, columns.map .named⟩ }

def unwindowed (draft : Draft) : Draft :=
  { draft with window := {} }

def existence (draft : Draft) : Filled :=
  Filled.derived dialect "SELECT EXISTS(" (draft.select dialect) "exists"

/-- The number of groups, counted around the whole statement. -/
def groupCount (draft : Draft) : Filled :=
  Filled.derived dialect "SELECT COUNT(*) AS aggregate FROM (" (draft.select dialect)
    "aggregate_table"

def count (draft : Draft) : Filled :=
  if draft.groups = [] then (draft.unwindowed.aggregated "count" ["*"]).select dialect
  else draft.unwindowed.groupCount dialect

theorem columnValues_changeWindow (draft : Draft) (f : DraftWindow → DraftWindow) :
    (draft.changeWindow f).columnValues = draft.columnValues := by
  unfold changeWindow
  split <;> rfl

end Draft

namespace Dialect

variable {dialect : Dialect}

theorem Spells.derived {front text name : String} {filled : Filled}
    (spelled : dialect.Spells text filled) (opens : Inert front) :
    dialect.Spells (front ++ text ++ ") AS " ++ dialect.quoted name)
      (Filled.derived dialect front filled name) :=
  Spells.append ((spelled.prepend opens).close (by decide)) (silent_quoted name)
    (.of_joint (by decide))

theorem silent_aggregate {distinct : Bool} {function : String} {columns : List String}
    (silent : dialect.Silent (Text.asciiUpper function)) :
    dialect.Silent (dialect.aggregate distinct ⟨function, columns.map .named⟩) := by
  have names : dialect.Silent (dialect.columnRefs (columns.map .named)) := by
    refine silent_columnRefs fun column member => ?_
    obtain ⟨name, -, rfl⟩ := List.mem_map.mp member
    trivial
  have shownSilent : dialect.Silent (if dialect.columnRefs (columns.map .named) = "" then "*"
      else dialect.columnRefs (columns.map .named)) := by
    split
    · exact Inert.silent (by decide)
    · exact names
  unfold aggregate
  dsimp only
  generalize (if dialect.columnRefs (columns.map .named) = "" then "*"
    else dialect.columnRefs (columns.map .named)) = shown at shownSilent ⊢
  have front : dialect.Silent ("SELECT " ++ Text.asciiUpper function ++ "(") :=
    (silent.prepend (by decide)).close (by decide)
  refine Silent.close (Silent.append front ?_ (.of_joint (by decide))) (by decide)
  split
  · exact shownSilent.prepend (by decide)
  · exact shownSilent

end Dialect

namespace Follows

variable {dialect : Dialect} {exact other kept : Prop} {builder : Builder} {draft : Draft}

theorem weaken (follows : Follows dialect exact kept builder draft) (implied : other → exact) :
    Follows dialect other kept builder draft :=
  { follows with
    projection := ⟨follows.projection.enough, fun holds => follows.projection.same (implied holds)⟩
    filter := ⟨follows.filter.enough, fun holds => follows.filter.same (implied holds)⟩
    union := ⟨follows.union.enough, fun holds => follows.union.same (implied holds)⟩ }

theorem unwindowed (follows : Follows dialect exact kept builder draft) :
    Follows dialect exact kept builder.unwindowed draft.unwindowed :=
  { follows with
    agrees := { follows.agrees with window := ⟨.nil, rfl, rfl⟩ }
    order := rfl }

theorem limited (follows : Follows dialect exact kept builder draft) {count : Nat} :
    Follows dialect exact kept
      (builder.changeWindow fun window => { window with limit := some count })
      (draft.changeWindow fun window => { window with limit := some count }) :=
  follows.changeWindow (fun agrees => { agrees with limit := rfl }) fun _ => rfl

/-- If the values of a statement are all in place, so are those of the select list. -/
theorem projection_of_flatten (follows : Follows dialect exact kept builder draft)
    (same : builder.bindings.flatten = (draft.select dialect).values) :
    builder.bindings.projection = draft.columnValues := by
  rw [follows.values_select, Bindings.flatten_eq] at same
  exact ((follows.projection.append_eq_iff follows.behind).mp same).1

/-- An aggregate is read with all values but those of the select list. -/
theorem aggregated (follows : Follows dialect True kept builder draft) (function : String)
    (columns : List String) (silent : dialect.Silent (Text.asciiUpper function)) :
    dialect.Agrees (builder.aggregate function columns).query (draft.aggregated function columns) ∧
      (builder.aggregate function columns).bindings.flatten =
        ((draft.aggregated function columns).select dialect).values := by
  constructor
  · exact { follows.agrees with
      columns := .nil
      aggregate := rfl
      aggregateSilent := by
        rintro aggregate ⟨⟩
        exact Dialect.silent_aggregate silent }
  · have projection : ((draft.aggregated function columns).projection dialect).values = [] :=
      Filled.values_ofText _
    rw [Draft.values_select (draft.aggregated function columns) follows.placed,
      Draft.values_main, projection, Bindings.flatten_eq]
    have behind := follows.behind.same trivial
    simp only [List.append_assoc, List.nil_append] at behind ⊢
    exact behind

end Follows

end SqlToolkit
