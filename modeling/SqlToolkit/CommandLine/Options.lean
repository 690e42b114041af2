/-!
What can be asked for on the command line: a command for migrations, and options that go with each
of them.
-/

namespace SqlToolkit.CommandLine

inductive Command where
  | install
  | run (pretend force : Bool)
  | rollback (pretend force : Bool)
  | reset (pretend force : Bool)
  | refresh (force : Bool)
  | status
  | make (name : String) (table create : Option String)
  deriving DecidableEq, Repr

/-- Whether a command that changes the database was forced; the others do not ask. -/
def Command.forced? : Command → Option Bool
  | run _ force | rollback _ force | reset _ force | refresh force => some force
  | install | status | make .. => none

structure Options where
  config : String
  database : Option String
  path : String
  environment : String
  verbose : Bool
  command : Command
  deriving DecidableEq, Repr

/-- In production a command that changes the database has to be forced. -/
def Options.isAllowed (options : Options) : Bool :=
  options.environment != "production" || options.command.forced? != some false

end SqlToolkit.CommandLine
