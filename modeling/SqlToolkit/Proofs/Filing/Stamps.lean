import SqlToolkit.Migration.Creation
/-!
Names of new migration files: a stamp, the name of the migration and an extension. The file is taken
for a migration, and the class name of its identifier is that of the name alone.
-/

namespace SqlToolkit

/-! Segments -/

/-- The identifier of a new migration. -/
def Moment.identifier (moment : Moment) (name : String) : String :=
  moment.stamp ++ "_" ++ name

end SqlToolkit
