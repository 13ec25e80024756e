import PolicyOperator.Json.Codec

/-!
# Settings

What an operator can be told about its work: how charts are handled and how reports are refreshed.
Every setting has a default. Durations are written as whole seconds.
-/

namespace PolicyOperator

/-- A duration as its whole seconds. -/
def Json.ofSeconds (d : Duration) : Json := .int d.seconds

def Draft.seconds? (d : Draft) : Option Duration := d.nat64?.map .ofSeconds

/-- How charts are handled. -/
structure ToolSettings where
  /-- The chart program. -/
  helmPath : String := "helm"
  /-- The file that lists chart repositories. -/
  repositoryConfig : String := "/tmp/helm/repositories.yaml"
  /-- The directory that keeps their indexes. -/
  repositoryCache : String := "/tmp/helm/cache"
  /-- How long an install or upgrade may take, unless the tool's profile says otherwise. -/
  installTimeout : Duration := .ofSeconds 300
  uninstallTimeout : Duration := .ofSeconds 300
  /-- The pause between readiness probes. -/
  pollInterval : Duration := .ofSeconds 5
  /-- When polling gives up. -/
  pollTimeout : Duration := .ofSeconds 180
  deriving DecidableEq, Repr

namespace ToolSettings

/-- The settings with another chart program. -/
def withHelmPath (s : ToolSettings) (path : String) : ToolSettings := { s with helmPath := path }

/-- The settings with other places for chart repositories. -/
def withRepositoryPaths (s : ToolSettings) (config cache : String) : ToolSettings :=
  { s with repositoryConfig := config, repositoryCache := cache }

/-- The settings with another pace of polling. -/
def withPolling (s : ToolSettings) (interval timeout : Duration) : ToolSettings :=
  { s with pollInterval := interval, pollTimeout := timeout }

def toJson (s : ToolSettings) : Json := .object [
  ("helm_path", .str s.helmPath),
  ("install_timeout", Json.ofSeconds s.installTimeout),
  ("poll_interval", Json.ofSeconds s.pollInterval),
  ("poll_timeout", Json.ofSeconds s.pollTimeout),
  ("repository_cache", .str s.repositoryCache),
  ("repository_config", .str s.repositoryConfig),
  ("uninstall_timeout", Json.ofSeconds s.uninstallTimeout)]

def ofJson? (j : Draft) : Option ToolSettings := do
  let row ← j.openRow? ["helm_path", "repository_config", "repository_cache", "install_timeout",
    "uninstall_timeout", "poll_interval", "poll_timeout"]
  let plain : ToolSettings := {}
  return {
    helmPath := ← row.defaulted "helm_path" plain.helmPath Draft.text?
    repositoryConfig := ← row.defaulted "repository_config" plain.repositoryConfig Draft.text?
    repositoryCache := ← row.defaulted "repository_cache" plain.repositoryCache Draft.text?
    installTimeout := ← row.defaulted "install_timeout" plain.installTimeout Draft.seconds?
    uninstallTimeout := ← row.defaulted "uninstall_timeout" plain.uninstallTimeout Draft.seconds?
    pollInterval := ← row.defaulted "poll_interval" plain.pollInterval Draft.seconds?
    pollTimeout := ← row.defaulted "poll_timeout" plain.pollTimeout Draft.seconds? }

end ToolSettings

/-- How reports are refreshed. -/
structure ReportSettings where
  /-- How long a report stays current. -/
  refresh : Duration := .ofSeconds 300
  /-- Where the draws of evidence begin; anywhere when not given. -/
  falcoSeed : Option Nat := none
  deriving DecidableEq, Repr

namespace ReportSettings

def toJson (s : ReportSettings) : Json := .record [
  ("falco_seed", s.falcoSeed.map fun n => .int n),
  ("report_refresh", some (Json.ofSeconds s.refresh))]

def ofJson? (j : Draft) : Option ReportSettings := do
  let row ← j.openRow? ["report_refresh", "falco_seed"]
  let plain : ReportSettings := {}
  return {
    refresh := ← row.defaulted "report_refresh" plain.refresh Draft.seconds?
    falcoSeed := ← row.optional "falco_seed" Draft.nat64? }

end ReportSettings

/-- All settings. -/
structure Settings where
  /-- The name under which objects are written. -/
  fieldManager : String := "eirenyx"
  tools : ToolSettings := {}
  reports : ReportSettings := {}
  deriving DecidableEq, Repr

namespace Settings

def toJson (s : Settings) : Json := .object [
  ("field_manager", .str s.fieldManager),
  ("reconciler", s.reports.toJson),
  ("tools", s.tools.toJson)]

def ofJson? (j : Draft) : Option Settings := do
  let row ← j.row? ["field_manager", "tools", "reconciler"]
  let plain : Settings := {}
  return {
    fieldManager := ← row.defaulted "field_manager" plain.fieldManager Draft.text?
    tools := ← row.defaulted "tools" plain.tools ToolSettings.ofJson?
    reports := ← row.defaulted "reconciler" plain.reports ReportSettings.ofJson? }

/-- The environment may name another chart program; an empty name says nothing. -/
def withHelmPath (s : Settings) (path : Option String) : Settings :=
  match path with
  | some path => if path = "" then s else { s with tools := s.tools.withHelmPath path }
  | none => s

end Settings

end PolicyOperator
