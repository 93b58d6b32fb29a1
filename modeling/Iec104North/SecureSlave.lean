import Iec104North.SlaveSettings

/-!
# What a slave for TLS is told

The certificate files a configuration names may be missing, unreadable or
faulty.  A server without its own certificate and key gets no slave at all.
Certificates of clients and authorities whose files cannot be read are left
out, but the checks they were meant for stay on: replayed in order, the calls
of a run give the settings the configuration stands for.
-/

namespace Iec104North.SecureSlave

open Iec104North.Library
open Iec104North.Values
open Iec104North.Config
open Iec104North.Server
open Iec104North.Connections
open Iec104North.Runs
open Iec104North.MonitoringLoop
open Iec104North.TableReads
open Iec104North.AuditTrail
open Iec104North.TlsConfiguration
open Iec104North.LifeCycle
open Iec104North.ResourceProtocol

/-! ## The settings -/

/--
What a `TLSConfiguration` is told: the own certificate and key that were
loaded, whether only known certificates are allowed and chains validated, and
the files that were added for this.
-/
structure TlsSettings where
  ownCertificate : Option String := none
  ownKey : Option String := none
  allowOnlyKnownCertificates : Option Bool := none
  allowedCertificates : List String := []
  chainValidation : Option Bool := none
  caCertificates : List String := []
deriving DecidableEq, Repr

namespace TlsSettings

/-- Add files of known certificates. -/
def allow (settings : TlsSettings) (files : List String) : TlsSettings :=
  { settings with
    allowedCertificates := settings.allowedCertificates ++ files }

/-- Add files of authorities. -/
def trust (settings : TlsSettings) (files : List String) : TlsSettings :=
  { settings with
    caCertificates := settings.caCertificates ++ files }

/-- What a call changes. -/
def apply (platform : TlsPlatform) (settings : TlsSettings) :
    TlsCall → TlsSettings
  | .setOwnCertificateFromFile file =>
      if platform.setOwnCertificateFromFile file then
        { settings with ownCertificate := some file }
      else
        settings
  | .setOwnKeyFromFile file =>
      if platform.setOwnKeyFromFile file then
        { settings with ownKey := some file }
      else
        settings
  | .setAllowOnlyKnownCertificates value =>
      { settings with allowOnlyKnownCertificates := some value }
  | .addAllowedCertificateFromFile file => settings.allow [file]
  | .setChainValidation value =>
      { settings with chainValidation := some value }
  | .addCACertificateFromFile file => settings.trust [file]
  | .access _ | .destroy => settings

end TlsSettings

section Protocol

variable (platform : TlsPlatform)

/-- The TLS configuration, replayed from the calls of the plugin. -/
def tlsProtocol : Protocol (Option TlsSettings) PluginCall where
  permit settings
    | .tlsCreate => if settings.isNone then some (some {}) else none
    | .tls .destroy => if settings.isSome then some none else none
    | .tls call => settings.map fun there => some (there.apply platform call)
    | _ => some settings

/-- The files of the listed certificates that can be read, in order. -/
def readableFiles (names : List String) : List String :=
  (names.map (certificateFile platform)).filter platform.isReadable

@[simp]
theorem readableFiles_nil : readableFiles platform [] = [] :=
  rfl

theorem readableFiles_cons (name : String) (rest : List String) :
    readableFiles platform (name :: rest) =
      (if platform.isReadable (certificateFile platform name) then
          [certificateFile platform name]
        else []) ++
        readableFiles platform rest := by
  rw [readableFiles, List.map_cons, List.filter_cons]
  split <;> rfl

/-- The settings a complete configuration stands for. -/
def tlsSettingsFor (config : TlsConfig) : TlsSettings where
  ownCertificate := some (certificateFile platform config.ownCertificate)
  ownKey := some (privateKeyFile platform config.privateKey)
  allowOnlyKnownCertificates := some (!config.remoteCertificates.isEmpty)
  allowedCertificates := readableFiles platform config.remoteCertificates
  chainValidation := some (!config.caCertificates.isEmpty)
  caCertificates := readableFiles platform config.caCertificates

/-! ## Creation -/

section Creation

variable (settings : TlsSettings)

/-- Calls that do not destroy the configuration change it one by one. -/
theorem run_applies {calls : List TlsCall}
    (others : ∀ call ∈ calls, call ≠ .destroy) :
    (tlsProtocol platform).run (some settings) (calls.map .tls) =
      some
        (some
          (calls.foldl (TlsSettings.apply platform) settings)) := by
  induction calls generalizing settings with
  | nil => rfl
  | cons call rest induction =>
      have first :
          (tlsProtocol platform).permit (some settings) (.tls call) =
            some (some (settings.apply platform call)) := by
        cases call with
        | destroy => exact (others .destroy List.mem_cons_self rfl).elim
        | _ => rfl
      rw [List.map_cons, Protocol.run_cons, first, Option.bind_some,
        List.foldl_cons]
      exact
        induction _ fun other member =>
          others other (List.mem_cons_of_mem call member)

/-- The own certificate is the one of its file, if that could be loaded. -/
theorem foldl_loadOwnCertificate {config : TlsConfig}
    (given : (config.ownCertificate != "") = true)
    (ownOk : (loadOwnCertificate platform config).1 = true) :
    (loadOwnCertificate platform config).2.foldl
        (TlsSettings.apply platform) settings =
      { settings with
        ownCertificate :=
          some (certificateFile platform config.ownCertificate) } := by
  have notEmpty : ¬ (config.ownCertificate == "") = true := by
    simpa using given
  rw [loadOwnCertificate, if_neg notEmpty, loadFile] at ownOk ⊢
  split
  · rename_i readable
    rw [if_pos readable] at ownOk
    exact if_pos ownOk
  · rename_i unreadable
    rw [if_neg unreadable] at ownOk
    exact (Bool.false_ne_true ownOk).elim

theorem foldl_loadPrivateKey {config : TlsConfig}
    (given : (config.privateKey != "") = true)
    (keyOk : (loadPrivateKey platform config).1 = true) :
    (loadPrivateKey platform config).2.foldl
        (TlsSettings.apply platform) settings =
      { settings with
        ownKey := some (privateKeyFile platform config.privateKey) } := by
  have notEmpty : ¬ (config.privateKey == "") = true := by
    simpa using given
  rw [loadPrivateKey, if_neg notEmpty, loadFile] at keyOk ⊢
  split
  · rename_i readable
    rw [if_pos readable] at keyOk
    exact if_pos keyOk
  · rename_i unreadable
    rw [if_neg unreadable] at keyOk
    exact (Bool.false_ne_true keyOk).elim

/-- The files of a list of certificates are added. -/
theorem foldl_addCertificates (call : String → TlsCall)
    (add : TlsSettings → List String → TlsSettings)
    (adds :
      ∀ (there : TlsSettings) (file : String),
        there.apply platform (call file) = add there [file])
    (none : ∀ there, add there [] = there)
    (append :
      ∀ there first second,
        add (add there first) second = add there (first ++ second))
    (names : List String) :
    (addCertificates platform call names).foldl
        (TlsSettings.apply platform) settings =
      add settings (readableFiles platform names) := by
  induction names generalizing settings with
  | nil => exact (none settings).symm
  | cons name rest induction =>
      have tail :
          addCertificates platform call (name :: rest) =
            (loadFile platform (fun _ => true) call
                (certificateFile platform name)).2 ++
              addCertificates platform call rest :=
        List.flatMap_cons
      rw [tail, List.foldl_append, induction, readableFiles_cons, ← append,
        loadFile]
      split
      · have head :
            [TlsCall.access (certificateFile platform name),
                call (certificateFile platform name)].foldl
                (TlsSettings.apply platform) settings =
              add settings [certificateFile platform name] :=
          adds settings _
        rw [head]
      · rw [none]
        rfl

theorem foldl_addRemoteCertificates (config : TlsConfig)
    (fresh : settings.allowedCertificates = []) :
    (addRemoteCertificates platform config).foldl
        (TlsSettings.apply platform) settings =
      { settings with
        allowOnlyKnownCertificates :=
          some (!config.remoteCertificates.isEmpty)
        allowedCertificates :=
          readableFiles platform config.remoteCertificates } := by
  rw [addRemoteCertificates]
  split
  · rename_i isEmpty
    have unlisted := List.isEmpty_iff.mp isEmpty
    simp [TlsSettings.apply, unlisted, fresh]
  · rename_i isListed
    rw [List.foldl_cons,
      foldl_addCertificates platform _ .addAllowedCertificateFromFile
        TlsSettings.allow (fun _ _ => rfl)]
    · simp [TlsSettings.apply, TlsSettings.allow, fresh, isListed]
    · simp [TlsSettings.allow]
    · simp [TlsSettings.allow]

theorem foldl_addCaCertificates (config : TlsConfig)
    (fresh : settings.caCertificates = []) :
    (addCaCertificates platform config).foldl
        (TlsSettings.apply platform) settings =
      { settings with
        chainValidation := some (!config.caCertificates.isEmpty)
        caCertificates := readableFiles platform config.caCertificates } := by
  rw [addCaCertificates]
  split
  · rename_i isEmpty
    have unlisted := List.isEmpty_iff.mp isEmpty
    simp [TlsSettings.apply, unlisted, fresh]
  · rename_i isListed
    rw [List.foldl_cons,
      foldl_addCertificates platform _ .addCACertificateFromFile
        TlsSettings.trust (fun _ _ => rfl)]
    · simp [TlsSettings.apply, TlsSettings.trust, fresh, isListed]
    · simp [TlsSettings.trust]
    · simp [TlsSettings.trust]

end Creation

/-- A complete configuration makes the TLS configuration it stands for. -/
theorem run_createTLSConfiguration {config : TlsConfig}
    (creates : platform.createsConfiguration = true)
    (tlsOk : (createTLSConfiguration platform config).1 = true) :
    (tlsProtocol platform).run (some {})
        ((createTLSConfiguration platform config).2.map .tls) =
      some (some (tlsSettingsFor platform config)) := by
  have made := createTLSConfiguration_destroys platform creates config
  rw [tlsOk, if_pos rfl] at made
  rcases made with ⟨calls, others, made⟩
  rw [List.append_nil] at made
  rw [made, run_applies platform {} others, ← made]
  simp only [createTLSConfiguration, creates, if_true, Bool.and_eq_true]
    at tlsOk ⊢
  rcases tlsOk with ⟨⟨⟨own, key⟩, ownOk⟩, keyOk⟩
  rw [if_pos ⟨⟨⟨own, key⟩, ownOk⟩, keyOk⟩, List.append_nil,
    List.foldl_append, List.foldl_append, List.foldl_append,
    foldl_loadOwnCertificate platform _ own ownOk,
    foldl_loadPrivateKey platform _ key keyOk,
    foldl_addRemoteCertificates platform _ config rfl,
    foldl_addCaCertificates platform _ config rfl]
  rfl

/-- A configuration that is not complete leaves nothing behind. -/
theorem run_createTLSConfiguration_fails {config : TlsConfig}
    (creates : platform.createsConfiguration = true)
    (tlsFails : (createTLSConfiguration platform config).1 = false) :
    (tlsProtocol platform).run (some {})
        ((createTLSConfiguration platform config).2.map .tls) =
      some none := by
  have made := createTLSConfiguration_destroys platform creates config
  rw [tlsFails, if_neg Bool.false_ne_true] at made
  rcases made with ⟨calls, others, made⟩
  rw [made, List.map_append,
    (tlsProtocol platform).run_append_of_eq
      (run_applies platform {} others)]
  rfl

end Protocol

/-! ## Runs -/

section Runs

variable (platform : PluginPlatform) (configData : Option ConfigCategory)

/-- The TLS configuration a plugin stands for. -/
def tlsOf (plugin : Plugin) : Option TlsSettings :=
  if plugin.hasTlsConfig then
    some (tlsSettingsFor platform.tls plugin.tlsConfig)
  else
    none

theorem run_createTls {tlsConfig : TlsConfig} {tlsOk : Bool}
    (result : (createTls platform tlsConfig).1 = tlsOk) :
    (tlsProtocol platform.tls).run none
        (createTls platform tlsConfig).2 =
      some
        (if tlsOk then
          some (tlsSettingsFor platform.tls tlsConfig)
        else
          none) := by
  subst result
  rw [createTls]
  dsimp only
  by_cases creates : platform.tls.createsConfiguration = true
  · rw [if_pos creates, Protocol.run_cons]
    show (tlsProtocol platform.tls).run (some {}) _ = _
    cases tlsOk : (createTLSConfiguration platform.tls tlsConfig).1 with
    | true =>
        rw [run_createTLSConfiguration platform.tls creates tlsOk]
        rfl
    | false =>
        rw [run_createTLSConfiguration_fails platform.tls creates tlsOk]
        rfl
  · rw [if_neg creates, createTLSConfiguration, if_neg creates]
    rfl

/-- Calls on other things leave the TLS configuration. -/
theorem run_others {calls : List PluginCall}
    (settings : Option TlsSettings)
    (others :
      ∀ call ∈ calls, call ≠ .tlsCreate ∧ ∀ tlsCall, call ≠ .tls tlsCall) :
    (tlsProtocol platform.tls).run settings calls = some settings := by
  apply (tlsProtocol platform.tls).run_eq_self
  intro call member
  rcases others call member with ⟨notCreate, notTls⟩
  cases call with
  | tlsCreate => exact (notCreate rfl).elim
  | tls tlsCall => exact (notTls tlsCall rfl).elim
  | _ => rfl

theorem run_createSlave (settings : Option TlsSettings)
    (config : IEC104Config) (isSecure : Bool) :
    (tlsProtocol platform.tls).run settings
        (createSlave platform config isSecure).2 =
      some settings := by
  apply run_others
  intro call member
  rw [createSlave] at member
  split at member
  · rcases List.mem_map.mp member with ⟨slaveCall, -, rfl⟩
    simp
  · simp at member

/-- A slave for TLS has a TLS configuration. -/
def IsGuarded (plugin : Plugin) : Prop :=
  plugin.hasSlave = true →
    plugin.server.config.useTls = true → plugin.hasTlsConfig = true

theorem guarded_pluginInit :
    let made := pluginInit platform configData
    IsGuarded made.1 ∧
      (tlsProtocol platform.tls).run none made.2 =
        some (tlsOf platform made.1) := by
  intro made
  rw [show made = pluginInit platform configData from rfl, pluginInit,
    configure]
  split
  · simp only [setJsonConfig]
    split
    · split
      · rename_i tlsOk
        refine ⟨fun _ _ => rfl, ?_⟩
        rw [(tlsProtocol platform.tls).run_append_of_eq
            (run_createTls platform tlsOk),
          run_createSlave]
        rfl
      · rename_i tlsFails
        rw [Bool.not_eq_true] at tlsFails
        exact
          ⟨fun hasSlave => absurd hasSlave Bool.false_ne_true,
            run_createTls platform tlsFails⟩
    · rename_i noTls
      refine ⟨fun _ useTls => absurd useTls noTls, ?_⟩
      rw [run_createSlave]
      rfl
  · exact ⟨fun hasSlave => absurd hasSlave Bool.false_ne_true, rfl⟩

/-- A step that keeps the invariant and the TLS configuration. -/
def Kept (plugin : Plugin) (stepped : Plugin × List PluginCall) : Prop :=
  IsGuarded stepped.1 ∧
    (tlsProtocol platform.tls).run (tlsOf platform plugin)
        stepped.2 =
      some (tlsOf platform stepped.1)

/-- Most steps do not touch the TLS configuration. -/
theorem kept_of_others {plugin changed : Plugin} {calls : List PluginCall}
    (guarded : IsGuarded changed)
    (hasTlsConfig : changed.hasTlsConfig = plugin.hasTlsConfig)
    (tlsConfig : changed.tlsConfig = plugin.tlsConfig)
    (others :
      ∀ call ∈ calls, call ≠ .tlsCreate ∧ ∀ tlsCall, call ≠ .tls tlsCall) :
    Kept platform plugin (changed, calls) := by
  refine ⟨guarded, ?_⟩
  rw [run_others platform _ others, tlsOf, tlsOf, hasTlsConfig,
    tlsConfig]

/-- The step lemma. -/
theorem kept_pluginStep {plugin : Plugin} (guarded : IsGuarded plugin)
    (event : PluginEvent) :
    Kept platform plugin (pluginStep platform plugin event) := by
  have idle : Kept platform plugin (plugin, []) := ⟨guarded, rfl⟩
  unfold pluginStep
  split
  · exact idle
  · cases event with
    | start =>
        dsimp only
        rw [startSlave]
        split
        · refine kept_of_others platform ?_ rfl rfl ?_
          · intro hasSlave useTls
            have config :
                (sendInitialAudits plugin.server).server.config.useTls =
                  plugin.server.config.useTls := by
              rw [(sendInitialAudits_eq plugin.server).1]
              rfl
            exact guarded hasSlave (config.symm.trans useTls)
          · intro call member
            rw [List.mem_append, List.mem_cons, List.mem_singleton] at member
            rcases member with (rfl | audit) | rfl
            · simp
            · rcases List.mem_map.mp audit with ⟨effect, -, rfl⟩
              simp
            · simp
        · exact idle
    | server event =>
        dsimp only
        rw [show serverStep platform plugin event = (_, _) from rfl]
        refine kept_of_others platform ?_ rfl rfl ?_
        · intro hasSlave useTls
          rcases step_config platform.values plugin.system _ with
            ⟨groups, config⟩
          exact guarded hasSlave ((congrArg _ config).symm.trans useTls)
        · intro call member
          rcases List.mem_map.mp member with ⟨effect, -, rfl⟩
          simp
    | thread requestReturned northStatusReturned slaveRunning =>
        have others :
            ∀ calls : List LoopCall,
              ∀ call ∈ calls.map pluginCallOf,
                call ≠ .tlsCreate ∧ ∀ tlsCall, call ≠ .tls tlsCall := by
          intro calls call member
          rcases List.mem_map.mp member with ⟨loopCall, -, rfl⟩
          cases loopCall <;> simp [pluginCallOf]
        dsimp only
        rw [threadStep]
        split
        · exact idle
        · split
          · exact kept_of_others platform guarded rfl rfl (others _)
          · exact kept_of_others platform guarded rfl rfl (others _)
    | shutdown => exact ⟨guarded, rfl⟩
    | finish =>
        dsimp only
        rw [finishShutdown]
        split
        · refine ⟨fun hasSlave => absurd hasSlave Bool.false_ne_true, ?_⟩
          simp only [stopCalls, tlsOf]
          cases plugin.monitoringThread <;> cases plugin.hasSlave <;>
            cases plugin.hasTlsConfig <;> rfl
        · exact idle

/-- The run lemma. -/
theorem guarded_run (events : List PluginEvent) :
    IsGuarded (pluginAfter platform configData events) ∧
      (tlsProtocol platform.tls).run none
          (pluginCalls platform configData events) =
        some (tlsOf platform (pluginAfter platform configData events)) := by
  rcases guarded_pluginInit platform configData with ⟨guarded, made⟩
  have step :
      ∀ earlier event,
        True →
          IsGuarded (pluginAfter platform configData earlier) →
            Kept platform (pluginAfter platform configData earlier)
              ((pluginMachine platform).step
                (pluginAfter platform configData earlier) event) :=
    fun _ event _ guarded => kept_pluginStep platform guarded event
  have always : EachStep (fun _ _ => True) events :=
    fun _ _ _ _ => trivial
  rcases
      @Protocol.run_outputs _ _ (tlsProtocol platform.tls) _ _
        (pluginMachine platform) (tlsOf platform) _
        (fun _ => IsGuarded) _ guarded step events always with
    ⟨after, run⟩
  refine ⟨after, ?_⟩
  rw [pluginCalls, Protocol.run_append_of_eq _ made]
  exact run

/-- A configuration for TLS with one client. -/
def secureConfig : ConfigCategory where
  name := "north"
  protocolStack :=
    some
      (some
        (.object
          [("protocol_stack",
            .object
              [("transport_layer", .object [("tls", .bool true)]),
                ("application_layer", .object [])])]))
  exchangedData := some none
  tlsConf :=
    some
      (some
        (.object
          [("tls_conf",
            .object
              [("private_key", .string "server.key"),
                ("own_cert", .string "server.cer"),
                ("remote_certs", defaultCertificates ["client.cer"])])]))

end Runs

end Iec104North.SecureSlave
