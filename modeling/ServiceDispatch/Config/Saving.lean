import ServiceDispatch.Config.Loading
import ServiceDispatch.Toml.Layout

/-!
# Saving settings

Settings are saved as a document that loading reads back.
-/

namespace ServiceDispatch

namespace Settings

/-- Settings as tables of a document. A file of the log is left out where there is none. -/
def tables (settings : Settings) : List Toml.PlainTable :=
  [{ name := "logging"
     entries :=
      [("level", .text settings.log.level), ("json_format", .flag settings.log.jsonFormat)] ++
        (settings.log.fileOutput.map fun path => ("file_output", Toml.Plain.text path)).toList },
   { name := "dispatch"
     entries := [("reject_key_collisions", .flag settings.dispatch.rejectCollisions)] },
   { name := "host"
     entries :=
      [("default_instance_context_mode", .text settings.host.defaultMode.display),
       ("sessionful_bindings", .texts settings.host.sessionfulBindings)] }]

/-- The document that settings are saved as. -/
def document (settings : Settings) : String := Toml.write settings.tables

/-- Saves settings to a file. -/
def save (settings : Settings) (files : Files) (path : String) : Except Failure Files :=
  match files.write? path settings.document with
  | some written => .ok written
  | none =>
    .error (Failure.withContext "Failed to write config file"
      ⟨"Missing", "No such file or directory (os error 2)"⟩)

/-- Loads the settings of a file alone. -/
def loadFrom (files : Files) (path : String) : Except LoadFault Settings :=
  SettingsSource.load ⟨files, [], some path, SettingsSource.standardStart⟩

end Settings

end ServiceDispatch
