import Provision.Settings
import Provision.Instant
import Provision.Error

set_option autoImplicit false

namespace Provision

/-- The variables that the program was started with. -/
structure Surroundings where
  home : Path
  dataHome : Option Path
  configHome : Option Path
  serverOverride : Option String
  /-- The token that goes with requests for releases. -/
  token : Option String
  logSpec : Option String
  now : Instant

namespace Surroundings

def appName : Path := "ra-bootstrap"

/-- A directory that is taken only if its path is absolute, or else one below home. -/
def directory (v : Surroundings) (given : Option Path) (fallback : Path) : Path :=
  match given with
  | some p => if p.isAbsolute then p else v.home / fallback
  | none => v.home / fallback

def dataDir (v : Surroundings) : Path := v.directory v.dataHome ".local/share" / appName

/-- The settings file that is read unless another is named. -/
def settingsPath (v : Surroundings) : Path :=
  v.directory v.configHome ".config" / appName / Path.ofString "config.toml"

end Surroundings

namespace Settings

/-- The server that the user names, by a variable or else in the settings. -/
def serverOverride (s : Settings) (v : Surroundings) : Option String :=
  firstFilled v.serverOverride s.serverPath

def storage (s : Settings) (v : Surroundings) : Path :=
  match s.storageDir with
  | some dir => Path.expandHome dir (some v.home)
  | none => v.dataDir

end Settings

/-- Facts that stay the same during one run. -/
structure Site where
  serverPath : Option String
  home : Option Path
  arch : String
  os : String
  storage : Path
  /-- Downloaded binaries do not run here before they are patched. -/
  patches : Bool
  now : Instant

namespace Site

def detect (s : Settings) (v : Surroundings) : Site :=
  ⟨s.serverOverride v, some v.home, "x86_64", "linux", s.storage v, false, v.now⟩

end Site

end Provision
