import ServiceDispatch.Config.Environment
import ServiceDispatch.Config.Files
import ServiceDispatch.Config.Stored
import ServiceDispatch.Toml.Grammar

/-!
# Loading settings

Settings come from three layers: the standard ones, a file and the environment, each laid over the
one before. The file is the one that is asked for or the first of those in the usual places that
exists. Whatever was loaded is checked before it is used.
-/

namespace ServiceDispatch

/-- Why settings cannot be loaded. -/
inductive LoadFault where
  /-- The data are no settings, or the file is malformed. -/
  | undecodable
  /-- The settings are refused. -/
  | invalid (failure : Failure)

/-- Where settings are loaded from. -/
structure SettingsSource where
  /-- The files. -/
  files : Files
  /-- The environment variables. -/
  environment : List (String × String)
  /-- The file that is asked for, if any. -/
  path : Option String
  /-- What the names of variables start with. -/
  start : String

namespace SettingsSource

/-- What the names of variables start with unless something else is asked for. -/
def standardStart : String := "OPBIND"

/-- The usual places of the file, in the order in which they are tried; the last one is the
directory of the user's own settings. -/
def usualPlaces : List String := ["opbind.toml", "opbind/opbind.toml", "home/opbind/opbind.toml"]

/-- The file to be read, if one is asked for or found. -/
def chosen (source : SettingsSource) : Option String :=
  source.path.or (usualPlaces.find? source.files.contains)

/-- What loading reports. -/
def events (source : SettingsSource) : List Event :=
  match source.chosen with
  | none => []
  | some path =>
    if source.files.contains path then [.configurationLoaded path]
    else [.configurationMissing path]

/-- The data of the file; where there is none they are empty. -/
def fileData? (source : SettingsSource) : Option Datum :=
  match source.chosen.bind source.files.read? with
  | none => some (.table [])
  | some document => Toml.read? document

/-- The data of all layers, the environment on top. -/
def data? (source : SettingsSource) : Option Datum :=
  source.fileData?.map fun file =>
    (Environment.read source.start source.environment).overlay
      (file.overlay Settings.standard.toDatum)

/-- Loads and checks settings. -/
def load (source : SettingsSource) : Except LoadFault Settings :=
  match source.data?.bind (Settings.ofDatum? true) with
  | none => .error .undecodable
  | some settings =>
    match settings.validate with
    | .ok () => .ok settings
    | .error failure => .error (.invalid failure)

end SettingsSource

end ServiceDispatch
