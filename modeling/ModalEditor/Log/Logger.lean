import ModalEditor.Fault
import ModalEditor.Log.Call
/-!
# Loggers

Loggers are made on demand, one for each name, with the configuration that is active then. Adopting
another configuration drops them all. A configuration is built setting by setting, and the logging service
may refuse each of them; what it refuses is not adopted.
-/
namespace ModalEditor

abbrev Environment := List (Text × Text)

/-- What an environment says for one of the program's variables, by the end of its name. -/
def Environment.get? (env : Environment) (name : String) : Option Text :=
  env.lookup ("VIMLINE_".toList ++ name.toList)

def Environment.filled? (env : Environment) (name : String) : Option Text :=
  (env.get? name).filter (· ≠ [])

/-- Whether a switch is on; a variable that is not set leaves the default. -/
def Environment.flag (env : Environment) (name : String) (unset : Bool) : Bool :=
  match env.get? name with
  | none => unset
  | some t => Text.lower t ∈ ["1".toList, "true".toList, "yes".toList, "on".toList]

def Environment.defaultLogger (env : Environment) : Text := (env.get? "LOGGER").getD ModalEditor.defaultLogger

inductive LogSetting
  | minLevel (name : Text)
  | consoleOutput (on : Bool)
  | coloredOutput (on : Bool)
  | jsonFormat (on : Bool)
  | fileOutput (path : Text)
  | buffering (on : Bool)
  | profiling (on : Bool)
deriving DecidableEq, Repr

/-- A configuration is what was set, in order. -/
abbrev LogConfig := List LogSetting

def LogConfig.preset? (env : Environment) (name : Text) : Option LogConfig :=
  let key := Text.lower name
  if key = "development".toList then
    some [.minLevel "DEBUG".toList, .consoleOutput true, .coloredOutput true, .profiling true]
  else if key = "quiet".toList then
    some [.minLevel "WARNING".toList, .consoleOutput false, .profiling true]
  else if key = "production".toList then
    some [.minLevel "INFO".toList, .consoleOutput false,
      .fileOutput ((env.filled? "LOG_FILE").getD "vimline.log".toList), .buffering true,
      .profiling true]
  else none

def LogConfig.ofEnvironment (env : Environment) : LogConfig :=
  let console := !env.flag "DISABLE_CONSOLE" false
  [.minLevel (Text.upper ((env.filled? "LOG_LEVEL").getD "INFO".toList)), .consoleOutput console] ++
  (if console then [.coloredOutput !env.flag "NO_COLOR" false] else []) ++
  (if env.flag "LOG_JSON" false then [.jsonFormat true] else []) ++
  ((env.filled? "LOG_FILE").map LogSetting.fileOutput).toList ++
  [.profiling true]

/-- A logger: its name, its configuration, and a number that no other logger has. -/
structure Logger where
  name : Text
  config : LogConfig
  serial : Nat
deriving DecidableEq, Repr

/-- The active configuration and the loggers made with it. -/
structure LoggerPool where
  active : Option LogConfig
  loggers : List Logger
  nextSerial : Nat
deriving DecidableEq, Repr

/-- What was asked of the logging service: settings, and loggers built by name. -/
inductive SetupCall
  | set (setting : LogSetting)
  | build (name : Text)
deriving DecidableEq, Repr

/-- The logging service, by what it refuses: a setting behind those that a configuration has, or a logger. -/
structure LogService where
  settingRefusal? : LogConfig → LogSetting → Option Fault
  loggerRefusal? : Text → LogConfig → Option Fault

namespace LogService

/-- The service that refuses nothing. -/
def willing : LogService := ⟨fun _ _ => none, fun _ _ => none⟩

/-- The first refusal, if settings come behind those that a configuration has. -/
def refusal? (service : LogService) (config : LogConfig) : List LogSetting → Option Fault
  | [] => none
  | setting :: more => (service.settingRefusal? config setting).or (service.refusal? (config ++ [setting]) more)

@[simp] theorem refusal?_willing (config : LogConfig) (settings : List LogSetting) :
    willing.refusal? config settings = none := by
  induction settings generalizing config with
  | nil => rfl
  | cons setting more ih => exact ih (config ++ [setting])

end LogService

/-- A pool, with what was asked of the logging service so far. -/
structure SetupState where
  pool : LoggerPool
  calls : List SetupCall

/-- Work on a pool of loggers. What was done before a failure stays done. -/
abbrev Setup := EStateM Fault SetupState

namespace Setup

variable (service : LogService) (env : Environment)

def modifyPool (f : LoggerPool → LoggerPool) : Setup Unit := modify fun s => { s with pool := f s.pool }

/-- Asks the logging service for something, which it may refuse. -/
def ask (call : SetupCall) (refusal : Option Fault) : Setup Unit := do
  modify fun s => { s with calls := s.calls ++ [call] }
  match refusal with
  | some fault => throw fault
  | none => pure ()

/-- Puts settings behind those that a configuration has. -/
def extend (config : LogConfig) : List LogSetting → Setup LogConfig
  | [] => return config
  | setting :: more => do
    ask (.set setting) (service.settingRefusal? config setting)
    extend (config ++ [setting]) more

def build (settings : List LogSetting) : Setup LogConfig := extend service [] settings

/-- The configuration that is asked for: a given one, a preset or, with neither, what the environment says. -/
def requested (given : Option LogConfig) (preset : Option Text) : Setup LogConfig :=
  match given, preset.filter (· ≠ []) with
  | some _, some _ => throw .configAndPreset
  | none, some name =>
    match LogConfig.preset? env name with
    | none => throw (.unknownPreset name)
    | some settings => build service settings
  | some config, none => return config
  | none, none => build service (LogConfig.ofEnvironment env)

/-- Adopts another configuration and drops the loggers that were made with the last one. -/
def configure (given : Option LogConfig) (preset : Option Text) : Setup Unit := do
  let config ← requested service env given preset
  modifyPool fun pool => { pool with active := some config }
  modifyPool fun pool => { pool with loggers := [] }

/-- The active configuration; the environment configures a pool that nobody configured. -/
def activeConfig : Setup LogConfig := do
  match (← get).pool.active with
  | some config => return config
  | none =>
    let config ← build service (LogConfig.ofEnvironment env)
    modifyPool fun pool => { pool with active := some config }
    return config

/-- The logger of a name, built at its first use. -/
def logger (name : Text) : Setup Logger := do
  match (← get).pool.loggers.find? (·.name = name) with
  | some logger => return logger
  | none =>
    let config ← activeConfig service env
    ask (.build name) (service.loggerRefusal? name config)
    let made : Logger := ⟨name, config, (← get).pool.nextSerial⟩
    modifyPool fun pool => { pool with loggers := made :: pool.loggers, nextSerial := pool.nextSerial + 1 }
    return made

variable {service env} {config : LogConfig} {settings : List LogSetting} {name : Text} {fault : Fault}
  {s t : SetupState}

@[simp] theorem run_modifyPool (f : LoggerPool → LoggerPool) (s : SetupState) :
    (modifyPool f).run s = .ok () ⟨f s.pool, s.calls⟩ := rfl

@[simp] theorem run_ask (call : SetupCall) (refusal : Option Fault) (s : SetupState) :
    (ask call refusal).run s =
      match refusal with
      | some fault => .error fault ⟨s.pool, s.calls ++ [call]⟩
      | none => .ok () ⟨s.pool, s.calls ++ [call]⟩ := by
  cases refusal <;> rfl

theorem extend_of_accepted (h : service.refusal? config settings = none) (s : SetupState) :
    (extend service config settings).run s = .ok (config ++ settings) ⟨s.pool, s.calls ++ settings.map .set⟩ := by
  induction settings generalizing config s with
  | nil => simp [extend]
  | cons setting more ih =>
    obtain ⟨hsetting, hmore⟩ := Option.or_eq_none_iff.1 h
    simp [extend, hsetting, ih hmore]

theorem extend_of_refused (h : service.refusal? config settings = some fault) (s : SetupState) :
    ∃ calls, (extend service config settings).run s = .error fault ⟨s.pool, calls⟩ := by
  induction settings generalizing config s with
  | nil => cases h
  | cons setting more ih =>
    rw [LogService.refusal?] at h
    cases hsetting : service.settingRefusal? config setting with
    | some refusal =>
      obtain rfl : refusal = fault := by simpa [hsetting] using h
      exact ⟨s.calls ++ [.set setting], by simp [extend, hsetting]⟩
    | none =>
      rw [hsetting, Option.none_or] at h
      simpa [extend, hsetting] using ih h ⟨s.pool, s.calls ++ [.set setting]⟩

theorem activeConfig_of_active (h : s.pool.active = some config) :
    (activeConfig service env).run s = .ok config s := by
  simp [activeConfig, h]

theorem activeConfig_of_accepted (hnone : s.pool.active = none)
    (h : service.refusal? [] (LogConfig.ofEnvironment env) = none) :
    (activeConfig service env).run s = .ok (LogConfig.ofEnvironment env)
      ⟨{ s.pool with active := some (LogConfig.ofEnvironment env) },
        s.calls ++ (LogConfig.ofEnvironment env).map .set⟩ := by
  simp [activeConfig, hnone, build, extend_of_accepted h, -bind_pure_comp]

theorem logger_of_cached {l : Logger} (h : s.pool.loggers.find? (·.name = name) = some l) :
    (logger service env name).run s = .ok l s := by
  simp [logger, h]

theorem logger_of_accepted (hnone : s.pool.loggers.find? (·.name = name) = none)
    (hconfig : (activeConfig service env).run s = .ok config t) (h : service.loggerRefusal? name config = none) :
    (logger service env name).run s = .ok ⟨name, config, t.pool.nextSerial⟩
      ⟨{ t.pool with
          loggers := ⟨name, config, t.pool.nextSerial⟩ :: t.pool.loggers, nextSerial := t.pool.nextSerial + 1 },
        t.calls ++ [.build name]⟩ := by
  simp [logger, hnone, hconfig, h, -bind_pure_comp]

theorem logger_of_refused (hnone : s.pool.loggers.find? (·.name = name) = none)
    (hconfig : (activeConfig service env).run s = .ok config t)
    (h : service.loggerRefusal? name config = some fault) :
    (logger service env name).run s = .error fault ⟨t.pool, t.calls ++ [.build name]⟩ := by
  simp [logger, hnone, hconfig, h]

theorem logger_willing (env : Environment) (name : Text) (s : SetupState) :
    ∃ l t, (logger .willing env name).run s = .ok l t := by
  have hconfig : ∃ config t, (activeConfig .willing env).run s = .ok config t := by
    cases hactive : s.pool.active with
    | some config => exact ⟨_, _, activeConfig_of_active hactive⟩
    | none => exact ⟨_, _, activeConfig_of_accepted hactive (LogService.refusal?_willing _ _)⟩
  obtain ⟨config, t, hconfig⟩ := hconfig
  cases hcached : s.pool.loggers.find? (·.name = name) with
  | some l => exact ⟨_, _, logger_of_cached hcached⟩
  | none => exact ⟨_, _, logger_of_accepted hcached hconfig rfl⟩

end Setup

namespace LoggerPool

def empty : LoggerPool := ⟨none, [], 0⟩

def configure (pool : LoggerPool) (env : Environment) (given : Option LogConfig)
    (preset : Option Text) : Except Fault (LoggerPool × List SetupCall) :=
  match (Setup.configure .willing env given preset).run ⟨pool, []⟩ with
  | .ok () s => .ok (s.pool, s.calls)
  | .error fault _ => .error fault

def get (pool : LoggerPool) (env : Environment) (name : Text) :
    Logger × LoggerPool × List SetupCall :=
  match h : (Setup.logger .willing env name).run ⟨pool, []⟩ with
  | .ok l s => (l, s.pool, s.calls)
  | .error fault s => absurd (Setup.logger_willing env name ⟨pool, []⟩) (by simp [h])

end LoggerPool
end ModalEditor
