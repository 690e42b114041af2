import SqlToolkit.Proofs.Chains.Calls
/-!
Refusals: why a call is refused, and which refusal a builder keeps. The arguments of a call itself
are looked at before the builder that it is handed; a call that is refused for its own arguments
does nothing else.
-/

namespace SqlToolkit

namespace Vendor

def operatorFault (vendor : Vendor) (operator : String) : Option Fault :=
  if vendor.knowsOperator operator then none else some (.invalidOperator operator)

/-- NULL is looked at before the operator is. -/
def comparisonFault (vendor : Vendor) (operator : String) (operand : Operand) : Option Fault :=
  if operand.isNull then
    if operator = "=" ∨ operator = "!=" ∨ operator = "<>" then none
    else some (.nullComparison operator)
  else vendor.operatorFault operator

/-- No vendor refuses equality. -/
theorem knowsOperator_equal (vendor : Vendor) : vendor.knowsOperator "=" = true := by
  cases vendor <;> decide

end Vendor

def Bucket.nameFault (name : String) : Option Fault :=
  match Bucket.ofName name with
  | .ok _ => none
  | .error fault => some (.restated fault)

theorem Bucket.ofName_of_nameFault {name : String} {fault : Fault}
    (refused : Bucket.nameFault name = some fault) :
    ∃ unknown, Bucket.ofName name = .error unknown ∧ Fault.restated unknown = fault := by
  unfold Bucket.nameFault at refused
  cases named : Bucket.ofName name with
  | ok bucket =>
      rw [named] at refused
      cases refused
  | error unknown =>
      rw [named] at refused
      exact ⟨unknown, rfl, Option.some.inj refused⟩

namespace Builder

namespace Call

/-- What is wrong with the arguments of a call, apart from the builders among them. -/
def ownFault (vendor : Vendor) : Call → Option Fault
  | .join added => joinFault vendor added
  | .whereCompare _ _ operator operand => vendor.comparisonFault operator operand
  | .whereQuery _ _ operator _ => vendor.operatorFault operator
  | .whereColumns _ _ operator _ => vendor.operatorFault operator
  | .whereDate _ _ _ operator _ => vendor.operatorFault operator
  | .having _ _ operator _ => vendor.operatorFault operator
  | .limit count => if count < 0 then some (.negativeLimit count) else none
  | .setBindings _ bucket => Bucket.nameFault bucket
  | .addBinding _ bucket => Bucket.nameFault bucket
  | _ => none

mutual

/-- The fault of the builder that a call is handed, or of the chain that it makes itself. -/
def handedFault (vendor : Vendor) : Call → Option Fault
  | .selectQuery sub _ => sub.fault
  | .whereGroup _ calls => firstFault vendor calls
  | .whereGroupOf _ nested => nested.fault
  | .whereQuery _ _ _ sub => sub.fault
  | .whereInQuery _ _ _ sub => sub.fault
  | .whereExists _ _ sub => sub.fault
  | .applyScope calls => firstFault vendor calls
  | .union _ other => other.fault
  | _ => none

def firstFault (vendor : Vendor) : List Call → Option Fault
  | [] => none
  | first :: rest =>
      ((first.ownFault vendor).or (handedFault vendor first)).or (firstFault vendor rest)

end

/-- Why a call is refused: its own arguments come first. -/
def refusal (vendor : Vendor) (call : Call) : Option Fault :=
  (call.ownFault vendor).or (call.handedFault vendor)

theorem firstFault_eq (vendor : Vendor) (calls : List Call) :
    firstFault vendor calls = calls.findSome? (refusal vendor) := by
  induction calls with
  | nil => rfl
  | cons first rest ih =>
      rw [firstFault, ih, List.findSome?_cons, refusal]
      cases (first.ownFault vendor).or (first.handedFault vendor) <;> rfl

end Call

/-! The fault after a call -/

theorem fault_checked_eq {builder next : Builder} {operator : String} {handed : Option Fault}
    (taken : next.fault = builder.fault.or handed) :
    (builder.checked operator next).fault =
      builder.fault.or ((builder.dialect.vendor.operatorFault operator).or handed) := by
  unfold checked Vendor.operatorFault
  split
  · exact taken
  · rfl

theorem fault_whereCompare_eq (builder : Builder) (connective : Connective) (column : Identifier)
    (operator : String) (operand : Operand) :
    (builder.whereCompare connective column operator operand).fault =
      builder.fault.or (builder.dialect.vendor.comparisonFault operator operand) := by
  unfold whereCompare Vendor.comparisonFault
  by_cases null : operand.isNull = true
  · rw [if_pos null, if_pos null]
    by_cases equal : operator = "="
    · rw [if_pos equal, if_pos (.inl equal)]
      exact Option.or_none.symm
    · rw [if_neg equal]
      by_cases unequal : operator = "!=" ∨ operator = "<>"
      · rw [if_pos unequal, if_pos (.inr unequal)]
        exact Option.or_none.symm
      · rw [if_neg unequal, if_neg (not_or.mpr ⟨equal, unequal⟩)]
        rfl
  · rw [if_neg null, if_neg null]
    have taken : ((builder.bind .filter operand.bindings).addWhere connective
        (.compare column operator operand)).fault = builder.fault.or none := Option.or_none.symm
    have bare : (builder.checked operator _).fault = _ := fault_checked_eq taken
    rwa [Option.or_none] at bare

theorem fault_whereGroupOf_eq (builder nested : Builder) (connective : Connective) :
    (builder.whereGroupOf connective nested).fault = builder.fault.or nested.fault := by
  unfold whereGroupOf
  dsimp only
  split <;> rfl

theorem fault_applyScope_eq (builder : Builder) (scope : Builder → Builder) :
    (builder.applyScope scope).fault = (scope builder).fault := by
  unfold applyScope
  dsimp only
  split <;> rfl

mutual

theorem fault_call (builder : Builder) : ∀ call : Call,
    (builder.call call).fault = builder.fault.or (call.refusal builder.dialect.vendor)
  | .table _ | .select _ | .addSelect _ | .selectRaw _ _ | .distinct | .whereIn _ _ _ _
  | .whereNull _ _ _ | .whereBetween _ _ _ _ _ | .whereRaw _ _ _ | .groupBy _ | .havingRaw _ _ _
  | .orderBy _ _ | .orderByRaw _ _ | .offset _ | .forPage _ _ | .lock _ | .mergeBindings _
  | .mergeWheres _ _ => Option.or_none.symm
  | .selectQuery _ _ | .whereInQuery _ _ _ _ | .whereExists _ _ _ | .union _ _ => rfl
  | .join join => by
      change (builder.join join).fault =
        builder.fault.or ((joinFault builder.dialect.vendor join).or none)
      rw [Option.or_none]
      unfold Builder.join
      cases joinFault builder.dialect.vendor join with
      | none => exact Option.or_none.symm
      | some fault => rfl
  | .whereCompare connective column operator operand =>
      (builder.fault_whereCompare_eq connective column operator operand).trans
        (congrArg builder.fault.or Option.or_none.symm)
  | .whereGroup connective calls => by
      have inner := fault_calls calls
        (builder.fresh.change fun query => { query with table := builder.query.table })
      exact (builder.fault_whereGroupOf_eq _ connective).trans (congrArg builder.fault.or inner)
  | .whereGroupOf connective nested => builder.fault_whereGroupOf_eq nested connective
  | .whereQuery _ _ _ _ => fault_checked_eq rfl
  | .whereColumns _ _ _ _ | .whereDate _ _ _ _ _ | .having _ _ _ _ =>
      fault_checked_eq Option.or_none.symm
  | .applyScope calls => (builder.fault_applyScope_eq _).trans (fault_calls calls builder)
  | .limit count => by
      change (builder.limit count).fault =
        builder.fault.or ((if count < 0 then some (.negativeLimit count) else none).or none)
      rw [Option.or_none]
      unfold limit
      split
      · rfl
      · exact Option.or_none.symm
  | .setBindings values bucket => by
      change (builder.setBindings values bucket).fault =
        builder.fault.or ((Bucket.nameFault bucket).or none)
      rw [Option.or_none]
      unfold setBindings Bucket.nameFault
      cases Bucket.ofName bucket with
      | ok bucket => exact Option.or_none.symm
      | error fault => rfl
  | .addBinding value bucket => by
      change (builder.addBinding value bucket).fault =
        builder.fault.or ((Bucket.nameFault bucket).or none)
      rw [Option.or_none]
      unfold addBinding Bucket.nameFault
      cases Bucket.ofName bucket with
      | ok bucket => exact Option.or_none.symm
      | error fault => rfl

theorem fault_calls : ∀ (calls : List Call) (builder : Builder),
    (builder.calls calls).fault =
      builder.fault.or (Call.firstFault builder.dialect.vendor calls)
  | [], _ => Option.or_none.symm
  | first :: rest, builder => by
      change ((builder.call first).calls rest).fault = _
      rw [fault_calls rest, fault_call builder first, dialect_call, Option.or_assoc]
      rfl

end

/-! A call whose own arguments are refused changes nothing else -/

theorem checked_refused {builder next : Builder} {operator : String} {fault : Fault}
    (refused : builder.dialect.vendor.operatorFault operator = some fault) :
    builder.checked operator next = builder.fail fault := by
  unfold Vendor.operatorFault at refused
  unfold checked
  split at refused
  · cases refused
  · rename_i unknown
    rw [if_neg unknown]
    cases refused
    rfl

theorem whereCompare_refused {builder : Builder} {connective : Connective} {column : Identifier}
    {operator : String} {operand : Operand} {fault : Fault}
    (refused : builder.dialect.vendor.comparisonFault operator operand = some fault) :
    builder.whereCompare connective column operator operand = builder.fail fault := by
  unfold Vendor.comparisonFault at refused
  unfold whereCompare
  by_cases null : operand.isNull = true
  · rw [if_pos null] at refused ⊢
    split at refused
    · cases refused
    · rename_i ordering
      obtain ⟨unequal, others⟩ := not_or.mp ordering
      rw [if_neg unequal, if_neg others]
      cases refused
      rfl
  · rw [if_neg null] at refused ⊢
    exact checked_refused refused

theorem call_refused {builder : Builder} {call : Call} {fault : Fault}
    (refused : call.ownFault builder.dialect.vendor = some fault) :
    builder.call call = builder.fail fault := by
  cases call with
  | join join =>
      change builder.join join = builder.fail fault
      unfold Builder.join
      rw [show joinFault builder.dialect.vendor join = some fault from refused]
  | whereCompare connective column operator operand => exact whereCompare_refused refused
  | whereQuery connective column operator sub => exact checked_refused refused
  | whereColumns connective first operator second => exact checked_refused refused
  | whereDate connective part column operator operand => exact checked_refused refused
  | having connective column operator operand => exact checked_refused refused
  | limit count =>
      change (if count < 0 then some (Fault.negativeLimit count) else none) = some fault at refused
      change builder.limit count = builder.fail fault
      unfold limit
      split at refused
      · rename_i negative
        rw [if_pos negative]
        cases refused
        rfl
      · cases refused
  | setBindings values bucket =>
      obtain ⟨unknown, named, rfl⟩ := Bucket.ofName_of_nameFault refused
      change builder.setBindings values bucket = builder.fail (.restated unknown)
      rw [setBindings, named]
  | addBinding value bucket =>
      obtain ⟨unknown, named, rfl⟩ := Bucket.ofName_of_nameFault refused
      change builder.addBinding value bucket = builder.fail (.restated unknown)
      rw [addBinding, named]
  | _ => cases refused

end Builder

end SqlToolkit
