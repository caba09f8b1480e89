import EntityCatalog.Files.Path
import EntityCatalog.Query
import EntityCatalog.Value.Reads

namespace EntityCatalog

structure StoreSettings where
  path : Path := ⟨"", [".entityctl", "entityctl.db"]⟩
  echo : Bool := false
deriving DecidableEq, Repr

structure Settings where
  projectRoot : Path
  configPath : Option Path
  json : Bool := false
  quiet : Bool := false
  verbose : Bool := false
  logJson : Bool := false
  scope : String := "default"
  store : StoreSettings := {}
  limits : PageLimits := {}
deriving DecidableEq, Repr

structure SettingsProblem where
  place : List String
  misread : Misread
deriving DecidableEq, Repr

inductive SettingsFault where
  | badFile (path : Path) (message : String)
  | tooManyDigits
  | badVariable
  | invalid (problems : List SettingsProblem)
deriving Repr

namespace SettingsFault

def message : SettingsFault → String
  | badFile path message => s!"Invalid TOML in {path.text}: {message}"
  | tooManyDigits => "An integer of a file has more than 4300 digits"
  | badVariable => "A variable of a section holds no JSON"
  | invalid problems => "Invalid settings: " ++ "; ".intercalate (problems.map fun p =>
      ".".intercalate p.place ++ ": " ++ p.misread.message)

end SettingsFault

namespace Settings

def storePath (s : Settings) : Path := s.projectRoot.join s.store.path

end Settings

end EntityCatalog
