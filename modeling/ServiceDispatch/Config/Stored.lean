import ServiceDispatch.Config.Settings
import ServiceDispatch.Datum

/-!
# Stored settings

Settings as data. Reading takes every field that is absent from the settings that hold unless
configured otherwise and overlooks entries that are no fields; nothing is converted, so a number or
a truth value is no text.
-/

namespace ServiceDispatch

namespace Datum

/-- Reads a mode: by its name, or by a table whose only entry has the name and no value. -/
def mode? : Datum → Option InstanceMode
  | text name => InstanceMode.ofDisplay? name
  | table [(name, null)] => InstanceMode.ofDisplay? name
  | _ => none

end Datum

namespace LogSettings

/-- Log settings as data. -/
def toDatum (settings : LogSettings) : Datum :=
  .table
    [("level", .text settings.level), ("json_format", .flag settings.jsonFormat),
     ("file_output", .ofOption .text settings.fileOutput)]

/-- Reads log settings. -/
def ofDatum? (surplus : Bool) (datum : Datum) : Option LogSettings := do
  let standard := Settings.standard.log
  let entries ← datum.record? surplus ["level", "json_format", "file_output"]
  return {
    level := ← Datum.fieldOr Datum.text? standard.level "level" entries
    jsonFormat := ← Datum.fieldOr Datum.flag? standard.jsonFormat "json_format" entries
    fileOutput :=
      ← Datum.fieldOr (Datum.option? Datum.text?) standard.fileOutput "file_output" entries }

end LogSettings

namespace DispatchSettings

/-- Dispatch settings as data. -/
def toDatum (settings : DispatchSettings) : Datum :=
  .table [("reject_key_collisions", .flag settings.rejectCollisions)]

/-- Reads dispatch settings. -/
def ofDatum? (surplus : Bool) (datum : Datum) : Option DispatchSettings := do
  let standard := Settings.standard.dispatch
  let entries ← datum.record? surplus ["reject_key_collisions"]
  return {
    rejectCollisions :=
      ← Datum.fieldOr Datum.flag? standard.rejectCollisions "reject_key_collisions" entries }

end DispatchSettings

namespace HostSettings

/-- Host settings as data. -/
def toDatum (settings : HostSettings) : Datum :=
  .table
    [("default_instance_context_mode", .text settings.defaultMode.display),
     ("sessionful_bindings", .list (settings.sessionfulBindings.map .text))]

/-- Reads host settings. -/
def ofDatum? (surplus : Bool) (datum : Datum) : Option HostSettings := do
  let standard := Settings.standard.host
  let entries ←
    datum.record? surplus ["default_instance_context_mode", "sessionful_bindings"]
  return {
    defaultMode :=
      ← Datum.fieldOr Datum.mode? standard.defaultMode "default_instance_context_mode" entries
    sessionfulBindings :=
      ← Datum.fieldOr (Datum.each? Datum.text?) standard.sessionfulBindings
        "sessionful_bindings" entries }

end HostSettings

namespace Settings

/-- Settings as data. -/
def toDatum (settings : Settings) : Datum :=
  .table
    [("logging", settings.log.toDatum), ("dispatch", settings.dispatch.toDatum),
     ("host", settings.host.toDatum)]

/-- Reads settings. Whether a sequence in place of a record may have more items than the record has
fields depends on where the data come from. -/
def ofDatum? (surplus : Bool) (datum : Datum) : Option Settings := do
  let entries ← datum.record? surplus ["logging", "dispatch", "host"]
  return {
    log := ← Datum.fieldOr (LogSettings.ofDatum? surplus) standard.log "logging" entries
    dispatch :=
      ← Datum.fieldOr (DispatchSettings.ofDatum? surplus) standard.dispatch "dispatch" entries
    host := ← Datum.fieldOr (HostSettings.ofDatum? surplus) standard.host "host" entries }

end Settings

end ServiceDispatch
