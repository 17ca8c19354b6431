import Mathlib.Data.List.Basic
import ModalEditor.Log.Logger
/-!
# Loggers carry the active configuration

A pool of loggers is asked for configurations and for loggers, in any order and in changing environments, and the
logging service may refuse what it likes. Whatever was asked before, a logger has the name that is asked for and
the configuration that was installed last. Two loggers are one object if they have one name and nothing was
installed between them, and else they are two. A configuration that is not installed changes nothing.
-/
namespace ModalEditor

/-! ### Requests -/

/-- What a pool is asked for from outside. -/
inductive SetupRequest
  | configure (env : Environment) (given : Option LogConfig) (preset : Option Text)
  | logger (env : Environment) (name : Option Text)

/-- The state that work leaves behind, failed or not. -/
def Setup.after {α : Type} (work : Setup α) (s : SetupState) : SetupState :=
  match work.run s with
  | .ok _ t | .error _ t => t

/-- The configuration with some settings, unless the service refuses one of them. -/
def LogService.built? (service : LogService) (settings : List LogSetting) : Option LogConfig :=
  if service.refusal? [] settings = none then some settings else none

namespace SetupRequest

variable (service : LogService) (default : Text)

/-- The configuration that a request installs. A request for a logger installs none, and neither does one for a
configuration that fails. -/
def installs? : SetupRequest → Option LogConfig
  | configure env given preset =>
    match given, preset.filter (· ≠ []) with
    | some _, some _ => none
    | some config, none => some config
    | none, some name => (LogConfig.preset? env name).bind service.built?
    | none, none => service.built? (LogConfig.ofEnvironment env)
  | logger _ _ => none

def installed? (requests : List SetupRequest) : Option LogConfig := requests.reverse.findSome? (installs? service)

def step (s : SetupState) : SetupRequest → SetupState
  | configure env given preset => (Setup.configure service env given preset).after s
  | logger env name => (Setup.logger service env (loggerNameOr default name)).after s

/-- The state after requests, the failures among which their callers caught. -/
def run (s : SetupState) (requests : List SetupRequest) : SetupState := requests.foldl (step service default) s

def startup (env : Environment) : List SetupRequest := [.configure env none none, .logger env none]

private theorem installed?_cons (r : SetupRequest) (rest : List SetupRequest) :
    installed? service (r :: rest) = (installed? service rest).or (r.installs? service) := by
  simp [installed?, List.findSome?_append]

end SetupRequest

/-! ### What a request does -/

namespace Setup

variable {service : LogService} {env : Environment} {given : Option LogConfig} {preset : Option Text}
  {config : LogConfig} {name : Text} {s t : SetupState}

private theorem after_of_ok {α : Type} {work : Setup α} {a : α} (h : work.run s = .ok a t) : work.after s = t := by
  simp [after, h]

private theorem after_of_error {α : Type} {work : Setup α} {fault : Fault} (h : work.run s = .error fault t) :
    work.after s = t := by
  simp [after, h]

/-- Work that answers what is found, or fails if that is nothing, and leaves the pool as it is. -/
def Finds (work : Setup LogConfig) (found : Option LogConfig) (s : SetupState) : Prop :=
  ∃ calls, match found with
    | some config => work.run s = .ok config ⟨s.pool, calls⟩
    | none => ∃ fault, work.run s = .error fault ⟨s.pool, calls⟩

private theorem build_finds (settings : List LogSetting) (s : SetupState) :
    (build service settings).Finds (service.built? settings) s := by
  cases h : service.refusal? [] settings with
  | none =>
    rw [LogService.built?, if_pos h]
    exact ⟨_, extend_of_accepted h s⟩
  | some fault =>
    obtain ⟨calls, hrun⟩ := extend_of_refused h s
    rw [LogService.built?, if_neg (by simp [h])]
    exact ⟨calls, fault, hrun⟩

private theorem requested_finds (service : LogService) (env : Environment) (given : Option LogConfig)
    (preset : Option Text) (s : SetupState) :
    (requested service env given preset).Finds ((SetupRequest.configure env given preset).installs? service) s := by
  simp only [SetupRequest.installs?, requested]
  cases given with
  | some config =>
    cases preset.filter (· ≠ []) with
    | some name => exact ⟨s.calls, .configAndPreset, rfl⟩
    | none => exact ⟨s.calls, rfl⟩
  | none =>
    cases preset.filter (· ≠ []) with
    | none => exact build_finds (LogConfig.ofEnvironment env) s
    | some name =>
      cases hpreset : LogConfig.preset? env name with
      | none =>
        simp only [hpreset]
        exact ⟨s.calls, .unknownPreset name, rfl⟩
      | some settings =>
        simp only [hpreset]
        exact build_finds settings s

private theorem configure_of_installs (h : (SetupRequest.configure env given preset).installs? service = some config)
    (s : SetupState) :
    ∃ calls, (configure service env given preset).run s =
      .ok () ⟨{ s.pool with active := some config, loggers := [] }, calls⟩ := by
  obtain ⟨calls, hrun⟩ := requested_finds service env given preset s
  rw [h] at hrun
  exact ⟨calls, by simp [configure, hrun]⟩

private theorem configure_of_installs_none (h : (SetupRequest.configure env given preset).installs? service = none)
    (s : SetupState) :
    ∃ fault calls, (configure service env given preset).run s = .error fault ⟨s.pool, calls⟩ := by
  obtain ⟨calls, hrun⟩ := requested_finds service env given preset s
  rw [h] at hrun
  obtain ⟨fault, hfault⟩ := hrun
  exact ⟨fault, calls, by simp [configure, hfault]⟩

end Setup

/-! ### One request -/

namespace LoggerPool

variable {config : LogConfig} {pool pool' : LoggerPool}

/-- How a pool with an active configuration comes out of a request that installs what is said. -/
inductive Step (config : LogConfig) (pool : LoggerPool) : Option LogConfig → LoggerPool → Prop
  | installed (other : LogConfig) : Step config pool (some other) { pool with active := some other, loggers := [] }
  | kept : Step config pool none pool
  | made {name : Text} (hnew : pool.loggers.find? (·.name = name) = none) :
    Step config pool none { pool with
      loggers := ⟨name, config, pool.nextSerial⟩ :: pool.loggers, nextSerial := pool.nextSerial + 1 }

/-- The loggers of a pool were made with its configuration and have numbers of their own. -/
structure Carries (config : LogConfig) (pool : LoggerPool) : Prop where
  active : pool.active = some config
  config : ∀ l ∈ pool.loggers, l.config = config
  counted : ∀ l ∈ pool.loggers, l.serial < pool.nextSerial
  distinct : ∀ l ∈ pool.loggers, ∀ m ∈ pool.loggers, l.serial = m.serial → l = m

theorem Carries.step {installs : Option LogConfig} (h : pool.Carries config)
    (hstep : Step config pool installs pool') : pool'.Carries (installs.getD config) := by
  cases hstep with
  | installed other => exact ⟨rfl, by simp, by simp, by simp⟩
  | kept => exact h
  | @made name hnew =>
    refine ⟨h.active, ?_, ?_, ?_⟩
    · simpa using h.config
    · simpa using fun l hl => Nat.lt_succ_of_lt (h.counted l hl)
    · -- the number of the new logger is above those of all others
      have hne (l : Logger) (hl : l ∈ pool.loggers) : l.serial ≠ pool.nextSerial := Nat.ne_of_lt (h.counted l hl)
      intro l hl m hm hserial
      rcases List.mem_cons.1 hl with rfl | hl <;> rcases List.mem_cons.1 hm with rfl | hm
      · rfl
      · exact absurd hserial.symm (hne m hm)
      · exact absurd hserial (hne l hl)
      · exact h.distinct l hl m hm hserial

theorem Step.held {name : Text} {l : Logger} (hstep : Step config pool none pool')
    (h : pool.loggers.find? (·.name = name) = some l) : pool'.loggers.find? (·.name = name) = some l := by
  cases hstep with
  | kept => exact h
  | @made other hnew =>
    have hne : other ≠ name := by
      rintro rfl
      rw [hnew] at h
      cases h
    rw [List.find?_cons_of_neg (by simpa using hne)]
    exact h

def From (n : Nat) (pool : LoggerPool) : Prop := n ≤ pool.nextSerial ∧ ∀ l ∈ pool.loggers, n ≤ l.serial

private theorem Step.from_of_installed {n : Nat} {other : LogConfig} (hstep : Step config pool (some other) pool')
    (hn : n ≤ pool.nextSerial) : From n pool' := by
  cases hstep
  exact ⟨hn, by simp⟩

theorem From.step {n : Nat} {installs : Option LogConfig} (h : From n pool)
    (hstep : Step config pool installs pool') : From n pool' := by
  cases hstep with
  | installed other => exact ⟨h.1, by simp⟩
  | kept => exact h
  | made hnew => exact ⟨Nat.le_succ_of_le h.1, by simpa using ⟨h.1, h.2⟩⟩

private theorem Step.nextSerial_le {installs : Option LogConfig} (hstep : Step config pool installs pool') :
    pool.nextSerial ≤ pool'.nextSerial := by
  cases hstep with
  | installed other => exact Nat.le_refl _
  | kept => exact Nat.le_refl _
  | made hnew => exact Nat.le_succ _

end LoggerPool

namespace Setup

variable {service : LogService} {env : Environment} {config : LogConfig} {name : Text} {s t : SetupState}

/-- A request for a logger answers one that is there, or it makes one with the active configuration, unless the
logging service refuses that. -/
theorem logger_cases (service : LogService) (env : Environment) (name : Text) (h : s.pool.active = some config) :
    (∃ l, s.pool.loggers.find? (·.name = name) = some l ∧ (logger service env name).run s = .ok l s) ∨
      s.pool.loggers.find? (·.name = name) = none ∧ ∃ calls,
        ((logger service env name).run s = .ok ⟨name, config, s.pool.nextSerial⟩
            ⟨{ s.pool with
                loggers := ⟨name, config, s.pool.nextSerial⟩ :: s.pool.loggers
                nextSerial := s.pool.nextSerial + 1 }, calls⟩ ∨
          ∃ fault, service.loggerRefusal? name config = some fault ∧
            (logger service env name).run s = .error fault ⟨s.pool, calls⟩) := by
  cases hfound : s.pool.loggers.find? (·.name = name) with
  | some l => exact .inl ⟨l, rfl, logger_of_cached hfound⟩
  | none =>
    refine .inr ⟨rfl, s.calls ++ [.build name], ?_⟩
    have hactive : (activeConfig service env).run s = .ok config s := activeConfig_of_active h
    cases hrefusal : service.loggerRefusal? name config with
    | none => exact .inl (logger_of_accepted hfound hactive hrefusal)
    | some fault => exact .inr ⟨fault, rfl, logger_of_refused hfound hactive hrefusal⟩

private theorem held_of_logger {l : Logger} (h : s.pool.active = some config)
    (hrun : (logger service env name).run s = .ok l t) :
    LoggerPool.Step config s.pool none t.pool ∧ t.pool.loggers.find? (·.name = name) = some l := by
  rcases logger_cases service env name h with
    ⟨m, hfound, hanswer⟩ | ⟨hnew, calls, hanswer | ⟨fault, -, hanswer⟩⟩
  · rw [hanswer] at hrun
    cases hrun
    exact ⟨.kept, hfound⟩
  · rw [hanswer] at hrun
    cases hrun
    exact ⟨.made hnew, by simp⟩
  · rw [hanswer] at hrun
    cases hrun

end Setup

/-! ### Many requests -/

namespace SetupRequest

open LoggerPool

variable {service : LogService} {default : Text} {config : LogConfig} {s : SetupState}

private theorem step_step (service : LogService) (default : Text) (h : s.pool.active = some config) (r : SetupRequest) :
    Step config s.pool (r.installs? service) (r.step service default s).pool := by
  cases r with
  | configure env given preset =>
    cases hinstalls : (configure env given preset).installs? service with
    | some other =>
      obtain ⟨calls, hrun⟩ := Setup.configure_of_installs hinstalls s
      rw [step, Setup.after_of_ok hrun]
      exact .installed other
    | none =>
      obtain ⟨fault, calls, hrun⟩ := Setup.configure_of_installs_none hinstalls s
      rw [step, Setup.after_of_error hrun]
      exact .kept
  | logger env name =>
    rcases Setup.logger_cases service env (loggerNameOr default name) h with
      ⟨l, hfound, hrun⟩ | ⟨hnew, calls, hrun | ⟨fault, -, hrun⟩⟩
    · rw [step, Setup.after_of_ok hrun]
      exact .kept
    · rw [step, Setup.after_of_ok hrun]
      exact .made hnew
    · rw [step, Setup.after_of_error hrun]
      exact .kept

private theorem run_carries (service : LogService) (default : Text) (h : s.pool.Carries config)
    (requests : List SetupRequest) :
    (run service default s requests).pool.Carries ((installed? service requests).getD config) := by
  induction requests generalizing s config with
  | nil => exact h
  | cons r rest ih =>
    rw [installed?_cons, Option.getD_or]
    exact ih (h.step (step_step service default h.active r))

private theorem run_held {name : Text} {l : Logger} (hcarries : s.pool.Carries config) {requests : List SetupRequest}
    (hnone : ∀ r ∈ requests, r.installs? service = none) (h : s.pool.loggers.find? (·.name = name) = some l) :
    (run service default s requests).pool.loggers.find? (·.name = name) = some l := by
  induction requests generalizing s config with
  | nil => exact h
  | cons r rest ih =>
    have hstep := step_step service default hcarries.active r
    have hcarries' := hcarries.step hstep
    rw [hnone r List.mem_cons_self] at hstep
    exact ih hcarries' (fun q hq => hnone q (List.mem_cons_of_mem r hq)) (hstep.held h)

private theorem run_from {n : Nat} (hcarries : s.pool.Carries config) (h : From n s.pool)
    (requests : List SetupRequest) :
    From n (run service default s requests).pool := by
  induction requests generalizing s config with
  | nil => exact h
  | cons r rest ih =>
    have hstep := step_step service default hcarries.active r
    exact ih (hcarries.step hstep) (h.step hstep)

private theorem run_newer {n : Nat} (hcarries : s.pool.Carries config) (hn : n ≤ s.pool.nextSerial)
    {requests : List SetupRequest} (h : ∃ r ∈ requests, r.installs? service ≠ none) :
    From n (run service default s requests).pool := by
  induction requests generalizing s config with
  | nil => simp at h
  | cons r rest ih =>
    have hstep := step_step service default hcarries.active r
    have hcarries' := hcarries.step hstep
    by_cases hr : r.installs? service = none
    · have hrest : ∃ q ∈ rest, q.installs? service ≠ none := by simpa [hr] using h
      exact ih hcarries' (Nat.le_trans hn hstep.nextSerial_le) hrest
    · -- all loggers are dropped here, and the numbers go on
      obtain ⟨other, hother⟩ := Option.ne_none_iff_exists'.1 hr
      rw [hother] at hstep
      exact run_from hcarries' (hstep.from_of_installed hn) rest

end SetupRequest

/-! ### Loggers -/

namespace SetupState

open SetupRequest LoggerPool

/-- What can be said of the loggers of a state that a history of requests led to. -/
structure Faithful (service : LogService) (default : Text) (history : List SetupRequest) (s : SetupState) : Prop where
  /-- A logger has the name that is asked for and the configuration that was installed last. -/
  answers : ∀ env name l t, (Setup.logger service env (loggerNameOr default name)).run s = .ok l t →
    l.name = loggerNameOr default name ∧ installed? service history = some l.config
  /-- No logger is answered only where the service refuses to make one with that configuration. -/
  refused : ∀ env name fault t, (Setup.logger service env (loggerNameOr default name)).run s = .error fault t →
    ∃ config, installed? service history = some config ∧
      service.loggerRefusal? (loggerNameOr default name) config = some fault
  /-- Two loggers, with other requests between them, are one object exactly if they are asked for by one name and
  no request between them installs a configuration. -/
  same_iff : ∀ env env' name name' between l m t u,
    (Setup.logger service env (loggerNameOr default name)).run s = .ok l t →
    (Setup.logger service env' (loggerNameOr default name')).run (run service default t between) = .ok m u →
    (l.serial = m.serial ↔
      loggerNameOr default name = loggerNameOr default name' ∧ ∀ r ∈ between, r.installs? service = none) ∧
    (l.serial = m.serial → l = m)
  /-- A configuration is adopted exactly if the request installs one. -/
  adopts_iff : ∀ env given preset, (∃ t, (Setup.configure service env given preset).run s = .ok () t) ↔
    (SetupRequest.configure env given preset).installs? service ≠ none
  /-- A failure leaves the active configuration and all loggers. -/
  fails : ∀ env given preset fault t, (Setup.configure service env given preset).run s = .error fault t →
    t.pool = s.pool

variable {service : LogService} {default : Text} {config : LogConfig} {history : List SetupRequest} {s t u : SetupState}

private theorem same_of_held {name name' : Text} {l m : Logger} (hcarries : s.pool.Carries config)
    (hl : s.pool.loggers.find? (·.name = name) = some l) (hm : s.pool.loggers.find? (·.name = name') = some m) :
    (l.serial = m.serial ↔ name = name') ∧ (l.serial = m.serial → l = m) := by
  have hname {name : Text} {l : Logger} (h : s.pool.loggers.find? (·.name = name) = some l) : l.name = name := by
    simpa using List.find?_some h
  have hsame : l.serial = m.serial → l = m :=
    hcarries.distinct l (List.mem_of_find?_eq_some hl) m (List.mem_of_find?_eq_some hm)
  refine ⟨⟨fun hserial => ?_, ?_⟩, hsame⟩
  · rw [← hname hl, ← hname hm, hsame hserial]
  · rintro rfl
    rw [hl] at hm
    cases hm
    rfl

private theorem same_iff_of_carries {env env' : Environment} {name name' : Text} {between : List SetupRequest}
    {l m : Logger} (hcarries : s.pool.Carries config)
    (hl : (Setup.logger service env name).run s = .ok l t)
    (hm : (Setup.logger service env' name').run (run service default t between) = .ok m u) :
    (l.serial = m.serial ↔ name = name' ∧ ∀ r ∈ between, r.installs? service = none) ∧
      (l.serial = m.serial → l = m) := by
  obtain ⟨hstep, hheld⟩ := Setup.held_of_logger hcarries.active hl
  have ht : t.pool.Carries config := hcarries.step hstep
  have hafter := run_carries service default ht between
  obtain ⟨hlast, hheld'⟩ := Setup.held_of_logger hafter.active hm
  have hu := hafter.step hlast
  by_cases hnone : ∀ r ∈ between, r.installs? service = none
  · have hkept := hlast.held (run_held ht hnone hheld)
    obtain ⟨hiff, hsame⟩ := same_of_held hu hkept hheld'
    exact ⟨hiff.trans (iff_self_and.2 fun _ => hnone), hsame⟩
  · have hbefore : l.serial + 1 ≤ t.pool.nextSerial := ht.counted l (List.mem_of_find?_eq_some hheld)
    have hsome : ∃ r ∈ between, r.installs? service ≠ none := by simpa using hnone
    have hnewer : l.serial + 1 ≤ m.serial :=
      ((run_newer ht hbefore hsome).step hlast).2 m (List.mem_of_find?_eq_some hheld')
    have hne : l.serial ≠ m.serial := by omega
    exact ⟨⟨fun h => absurd h hne, fun h => absurd h.2 hnone⟩, fun h => absurd h hne⟩

private theorem faithful_of_carries (hcarries : s.pool.Carries config)
    (hinstalled : installed? service history = some config) :
    Faithful service default history s where
  answers env name l t hrun := by
    obtain ⟨hstep, hheld⟩ := Setup.held_of_logger hcarries.active hrun
    have hconfig : l.config = config :=
      (hcarries.step hstep).config l (List.mem_of_find?_eq_some hheld)
    exact ⟨by simpa using List.find?_some hheld, by rw [hinstalled, hconfig]⟩
  refused env name fault t hrun := by
    rcases Setup.logger_cases service env (loggerNameOr default name) hcarries.active with
      ⟨l, -, hanswer⟩ | ⟨-, calls, hanswer | ⟨refusal, hrefusal, hanswer⟩⟩
    · rw [hanswer] at hrun
      cases hrun
    · rw [hanswer] at hrun
      cases hrun
    · rw [hanswer] at hrun
      cases hrun
      exact ⟨config, hinstalled, hrefusal⟩
  same_iff env env' name name' between l m t u hl hm := same_iff_of_carries hcarries hl hm
  adopts_iff env given preset := by
    cases hinstalls : (SetupRequest.configure env given preset).installs? service with
    | some other =>
      obtain ⟨calls, hrun⟩ := Setup.configure_of_installs hinstalls s
      exact ⟨fun _ => Option.some_ne_none other, fun _ => ⟨_, hrun⟩⟩
    | none =>
      obtain ⟨fault, calls, hrun⟩ := Setup.configure_of_installs_none hinstalls s
      simp [hrun]
  fails env given preset fault t hrun := by
    cases hinstalls : (SetupRequest.configure env given preset).installs? service with
    | some other =>
      obtain ⟨calls, hanswer⟩ := Setup.configure_of_installs hinstalls s
      rw [hanswer] at hrun
      cases hrun
    | none =>
      obtain ⟨refusal, calls, hanswer⟩ := Setup.configure_of_installs_none hinstalls s
      rw [hanswer] at hrun
      cases hrun
      rfl

def start : SetupState := ⟨.empty, []⟩

/-- Whatever is asked once the program has started, and whatever the logging service refuses, the loggers carry the
configuration that was installed last. -/
theorem faithful_run (service : LogService) {env : Environment}
    (hstarted : (SetupRequest.configure env none none).installs? service ≠ none) (past : List SetupRequest) :
    Faithful service env.defaultLogger (startup env ++ past)
      (run service env.defaultLogger start (startup env ++ past)) := by
  obtain ⟨config, hinstalls⟩ := Option.ne_none_iff_exists'.1 hstarted
  obtain ⟨calls, hrun⟩ := Setup.configure_of_installs hinstalls start
  have hfirst : ((SetupRequest.configure env none none).step service env.defaultLogger start).pool.Carries config := by
    rw [step, Setup.after_of_ok hrun]
    exact ⟨rfl, by simp, by simp, by simp⟩
  refine faithful_of_carries (run_carries service env.defaultLogger hfirst (.logger env none :: past)) ?_
  have hhistory := installed?_cons service (.configure env none none) (.logger env none :: past)
  rwa [hinstalls, Option.or_some] at hhistory

/-- With a service that does not write to a directory: the configuration that asks for it is refused half built, and
so is a preset beside a configuration. -/
theorem faithful_run_refused :
    let service : LogService := {
      settingRefusal? := fun _ setting =>
        if setting = .fileOutput "logs/".toList then some (.raised "OSError".toList "Is a directory".toList) else none
      loggerRefusal? := fun _ _ => none }
    let directory : Environment := [("VIMLINE_LOG_FILE".toList, "logs/".toList)]
    let past : List SetupRequest := [.configure [] none (some "Quiet".toList), .configure directory none none,
      .logger directory (some []), .configure [] (some []) (some "quiet".toList)]
    (SetupRequest.configure [] none none).installs? service ≠ none ∧
      Faithful service "vimline".toList (startup [] ++ past)
        (run service "vimline".toList start (startup [] ++ past)) ∧
      installed? service (startup [] ++ past) =
        some [.minLevel "WARNING".toList, .consoleOutput false, .profiling true] := by
  intro service directory past
  have hstarted : (SetupRequest.configure [] none none).installs? service ≠ none := by decide
  exact ⟨hstarted, faithful_run service hstarted past, by decide⟩

end SetupState

end ModalEditor
