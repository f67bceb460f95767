namespace GrpcDiscovery

/-!
# The place of the configuration

The configuration lies in the user's directory for configurations. The
environment may name that directory by an absolute path; otherwise it is a fixed
one inside the home directory.
-/

/-- What the environment says about directories. -/
structure Directories where
  configHome : Option String
  home : String
deriving DecidableEq, Repr

/-- A path inside a directory, with one slash between them. -/
def joinPath (directory name : String) : String :=
  if directory.isEmpty ∨ directory.endsWith "/" then
    directory ++ name
  else
    directory ++ "/" ++ name

namespace Directories

/-- The directory for configurations. -/
def configDirectory (directories : Directories) : String :=
  match directories.configHome with
  | some path =>
      if path.startsWith "/" then
        path
      else
        joinPath directories.home ".config"
  | none =>
      joinPath directories.home ".config"

/-- The path of the configuration. -/
def configPath (directories : Directories) : String :=
  joinPath (joinPath directories.configDirectory "quicpulse") "reflection.toml"

end Directories

end GrpcDiscovery
