/-
  Finding and loading the configuration.

  The path is the one that was asked for, else the one in the environment, else a file in the home
  directory.  Only the last may lack: then the configuration is the empty one.
-/
import RollConditions.Config.Reader
import RollConditions.Environment

namespace RollConditions

/-- Why there is no configuration. -/
inductive ConfigError where
  | homeUnknown
  | notFound (path : String)
  | unreadable (path : String) (error : FileError)
  | unparsable (path : String) (fault : Document.Fault)

/-- The wording of the refusal. -/
def ConfigError.message : ConfigError → String
  | homeUnknown => "Could not find home directory"
  | notFound path => "config file not found: " ++ path
  | unreadable path error => "Failed to read config file: " ++ path ++ ": " ++ error.message
  | unparsable path fault =>
    "Failed to parse config file: " ++ path ++ ": " ++ Document.json5.message fault

namespace Config

/-- A name inside a directory. -/
def joinPath (directory name : String) : String :=
  if directory.endsWith "/" then directory ++ name else directory ++ "/" ++ name

/-- Where the configuration is looked for if no path is given. -/
def defaultPath (environment : Environment) : Except ConfigError String :=
  match environment.home with
  | some home => .ok (joinPath (joinPath home ".rollpred") "config.json")
  | none => .error .homeUnknown

/-- The path that is given, by the caller or by the environment. -/
def givenPath? (environment : Environment) (override : Option String) : Option String :=
  override <|> environment.configVariable

/-- The path of the configuration. -/
def path (environment : Environment) (override : Option String) : Except ConfigError String :=
  match givenPath? environment override with
  | some path => .ok path
  | none => defaultPath environment

/-- The path of the configuration if there is a file; only a path that is not given may lack one. -/
def existingPath (environment : Environment) (override : Option String) :
    Except ConfigError (Option String) := do
  let path ← path environment override
  if environment.disk.has path then return some path
  else if (givenPath? environment override).isSome then throw (.notFound path)
  else return none

/-- The configuration in a file. -/
def loadFrom (disk : Disk) (path : String) : Except ConfigError Config := do
  let text ← (disk.readText path).mapError (ConfigError.unreadable path)
  (parse Document.json5 text).mapError (ConfigError.unparsable path)

/-- The configuration that applies. -/
def load (environment : Environment) (override : Option String) : Except ConfigError Config := do
  match ← existingPath environment override with
  | some path => loadFrom environment.disk path
  | none => return empty

/-- Everything that is wrong with the configuration in a file. -/
def verify (disk : Disk) (path : String) : Except ConfigError (List Problem) := do
  if disk.has path then return (← loadFrom disk path).problems
  else throw (.notFound path)

end Config

end RollConditions
