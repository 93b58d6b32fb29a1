import Iec104North.ImportProtocol

/-!
# The certificates of a TLS server

`IEC104Config::importTlsConfig` reads the names of the key and the certificates,
and `IEC104Server::createTLSConfiguration` looks the files up: certificates in
the PEM format have a directory of their own.  The test for this format compares
a position with a difference that wraps around for short names.  A name has one
character for each byte.
-/

namespace Iec104North.TlsConfiguration

open Iec104North.Library
open Iec104North.ImportProtocol

/-! ## Import -/

/-- The members of `IEC104Config` for TLS. -/
structure TlsConfig where
  privateKey : String := ""
  ownCertificate : String := ""
  remoteCertificates : List String := []
  caCertificates : List String := []
deriving DecidableEq, Repr

/-- The loops over `ca_certs` and `remote_certs`; faulty elements are skipped. -/
def importCertificates (certificates : List String)
    (elements : List Json) : List String :=
  elements.foldl
    (fun certificates element =>
      if element.isObject then
        match (element.member? "cert_file").bind Json.asString with
        | some certFileName => certificates ++ [certFileName]
        | none => certificates
      else
        certificates)
    certificates

/--
`IEC104Config::importTlsConfig`; there is no document when the text cannot be
parsed.
-/
def importTlsConfig (config : TlsConfig) (document : Option Json) :
    TlsConfig :=
  match document.bind fun root => objectMember root "tls_conf" with
  | none => config
  | some tlsConf =>
      { privateKey :=
          ((tlsConf.member? "private_key").bind Json.asString).getD
            config.privateKey
        ownCertificate :=
          ((tlsConf.member? "own_cert").bind Json.asString).getD
            config.ownCertificate
        caCertificates :=
          importCertificates config.caCertificates
            (((tlsConf.member? "ca_certs").bind Json.asArray).getD [])
        remoteCertificates :=
          importCertificates config.remoteCertificates
            (((tlsConf.member? "remote_certs").bind Json.asArray).getD []) }

/-! ## The files -/

/--
What `createTLSConfiguration` takes from outside: the data directory, whether
`TLSConfiguration_create` succeeds, `access` with `R_OK`, and the functions of
lib60870 which load a file.
-/
structure TlsPlatform where
  dataDir : String
  createsConfiguration : Bool
  isReadable : String → Bool
  setOwnCertificateFromFile : String → Bool
  setOwnKeyFromFile : String → Bool

/-- A call of `createTLSConfiguration` to the outside. -/
inductive TlsCall where
  | access (file : String)
  | setOwnCertificateFromFile (file : String)
  | setOwnKeyFromFile (file : String)
  | setAllowOnlyKnownCertificates (value : Bool)
  | addAllowedCertificateFromFile (file : String)
  | setChainValidation (value : Bool)
  | addCACertificateFromFile (file : String)
  | destroy
deriving DecidableEq, Repr

/-- `isPemOwnCertificate`, and the same for the other certificates. -/
def isPemCertificate (name : String) : Bool :=
  rfind name.toList ".pem".toList == toUInt64 (name.length - 4)

section Files

variable (platform : TlsPlatform)

/-- The directory of certificates and keys. -/
def certificateStore : String :=
  platform.dataDir ++ "/etc/certs/"

/-- The directory of the certificates in the PEM format. -/
def certificateStorePem : String :=
  platform.dataDir ++ "/etc/certs/pem/"

/-- The file of a certificate. -/
def certificateFile (name : String) : String :=
  if isPemCertificate name then
    certificateStorePem platform ++ name
  else
    certificateStore platform ++ name

/-- The file of the private key. -/
def privateKeyFile (name : String) : String :=
  certificateStore platform ++ name

/-- Load a file if it can be accessed; the result says whether this worked. -/
def loadFile (load : String → Bool) (call : String → TlsCall)
    (file : String) : Bool × List TlsCall :=
  if platform.isReadable file then
    (load file, [.access file, call file])
  else
    (false, [.access file])

/-- Load the own certificate, if there is one. -/
def loadOwnCertificate (config : TlsConfig) : Bool × List TlsCall :=
  if config.ownCertificate == "" then
    (true, [])
  else
    loadFile platform platform.setOwnCertificateFromFile
      .setOwnCertificateFromFile
      (certificateFile platform config.ownCertificate)

/-- Load the private key, if there is one. -/
def loadPrivateKey (config : TlsConfig) : Bool × List TlsCall :=
  if config.privateKey == "" then
    (true, [])
  else
    loadFile platform platform.setOwnKeyFromFile .setOwnKeyFromFile
      (privateKeyFile platform config.privateKey)

/-- One certificate after the other; one that fails is ignored. -/
def addCertificates (call : String → TlsCall) (names : List String) :
    List TlsCall :=
  names.flatMap fun name =>
    (loadFile platform (fun _ => true) call
      (certificateFile platform name)).2

/-- Remote certificates are allowed; without any, unknown ones are, too. -/
def addRemoteCertificates (config : TlsConfig) : List TlsCall :=
  if config.remoteCertificates.isEmpty then
    [.setAllowOnlyKnownCertificates false]
  else
    .setAllowOnlyKnownCertificates true ::
      addCertificates platform .addAllowedCertificateFromFile
        config.remoteCertificates

/-- CA certificates are added; without any, chains are not validated. -/
def addCaCertificates (config : TlsConfig) : List TlsCall :=
  if config.caCertificates.isEmpty then
    [.setChainValidation false]
  else
    .setChainValidation true ::
      addCertificates platform .addCACertificateFromFile
        config.caCertificates

/--
`IEC104Server::createTLSConfiguration`: whether there is a configuration, and
the calls that were made.
-/
def createTLSConfiguration (config : TlsConfig) : Bool × List TlsCall :=
  if platform.createsConfiguration then
    let isConfigured :=
      config.ownCertificate != "" && config.privateKey != ""
    let (ownOk, ownCalls) := loadOwnCertificate platform config
    let (keyOk, keyCalls) := loadPrivateKey platform config
    let tlsConfigOk := isConfigured && ownOk && keyOk
    (tlsConfigOk,
      ownCalls ++ keyCalls ++ addRemoteCertificates platform config ++
        addCaCertificates platform config ++
        if tlsConfigOk then [] else [.destroy])
  else
    (false, [])

end Files

/-! ## Lookups -/

/-- The files that were looked up, in order. -/
def lookedUp (calls : List TlsCall) : List String :=
  calls.filterMap fun
    | .access file => some file
    | _ => none

/-- A name, unless it is empty. -/
def named (name : String) : List String :=
  if name == "" then [] else [name]

/-- The names of the certificates that have a file. -/
def certificateNames (config : TlsConfig) : List String :=
  named config.ownCertificate ++ config.remoteCertificates ++
    config.caCertificates

/-- The file of a certificate is in the directory for its format. -/
def expectedFile (platform : TlsPlatform) (name : String) : String :=
  if ".pem".toList <:+ name.toList then
    certificateStorePem platform ++ name
  else
    certificateStore platform ++ name

section Lookups

variable (platform : TlsPlatform)

/-- The files to look up when certificates have their files at given places. -/
def filesOf (fileOf : String → String) (config : TlsConfig) : List String :=
  (named config.ownCertificate).map fileOf ++
    (named config.privateKey).map (privateKeyFile platform) ++
    config.remoteCertificates.map fileOf ++
    config.caCertificates.map fileOf

/-- Every certificate is looked up in the directory for its format. -/
def LooksUpRight (config : TlsConfig) : Prop :=
  lookedUp (createTLSConfiguration platform config).2 =
    if platform.createsConfiguration then
      filesOf platform (expectedFile platform) config
    else
      []

instance (config : TlsConfig) : Decidable (LooksUpRight platform config) :=
  inferInstanceAs (Decidable (_ = _))

theorem lookedUp_append (first second : List TlsCall) :
    lookedUp (first ++ second) = lookedUp first ++ lookedUp second :=
  List.filterMap_append

/-- A file is looked up once, and the call that loads it is no lookup. -/
theorem lookedUp_loadFile (load : String → Bool) {call : String → TlsCall}
    {file : String} (noLookup : lookedUp [call file] = []) :
    lookedUp (loadFile platform load call file).2 = [file] := by
  rw [loadFile]
  split
  · rw [← List.singleton_append, lookedUp_append, noLookup]
    rfl
  · rfl

theorem lookedUp_addCertificates {call : String → TlsCall}
    (noLookup : ∀ file, lookedUp [call file] = []) (names : List String) :
    lookedUp (addCertificates platform call names) =
      names.map (certificateFile platform) := by
  induction names with
  | nil => rfl
  | cons name rest ih =>
      rw [addCertificates, List.flatMap_cons, lookedUp_append,
        lookedUp_loadFile platform _ (noLookup _), ← addCertificates, ih]
      rfl

theorem lookedUp_loadOwnCertificate (config : TlsConfig) :
    lookedUp (loadOwnCertificate platform config).2 =
      (named config.ownCertificate).map (certificateFile platform) := by
  rw [loadOwnCertificate, named]
  split
  · rfl
  · exact lookedUp_loadFile platform _ rfl

theorem lookedUp_loadPrivateKey (config : TlsConfig) :
    lookedUp (loadPrivateKey platform config).2 =
      (named config.privateKey).map (privateKeyFile platform) := by
  rw [loadPrivateKey, named]
  split
  · rfl
  · exact lookedUp_loadFile platform _ rfl

theorem lookedUp_addRemoteCertificates (config : TlsConfig) :
    lookedUp (addRemoteCertificates platform config) =
      config.remoteCertificates.map (certificateFile platform) := by
  rw [addRemoteCertificates]
  split
  · rename_i none
    rw [List.isEmpty_iff.mp none]
    rfl
  · exact lookedUp_addCertificates platform (fun _ => rfl) _

theorem lookedUp_addCaCertificates (config : TlsConfig) :
    lookedUp (addCaCertificates platform config) =
      config.caCertificates.map (certificateFile platform) := by
  rw [addCaCertificates]
  split
  · rename_i none
    rw [List.isEmpty_iff.mp none]
    rfl
  · exact lookedUp_addCertificates platform (fun _ => rfl) _

theorem lookedUp_createTLSConfiguration (config : TlsConfig) :
    lookedUp (createTLSConfiguration platform config).2 =
      if platform.createsConfiguration then
        filesOf platform (certificateFile platform) config
      else
        [] := by
  rw [createTLSConfiguration]
  split
  · have destroyed (tlsConfigOk : Bool) :
        lookedUp (if tlsConfigOk then [] else [.destroy]) = [] := by
      cases tlsConfigOk <;> rfl
    simp only [lookedUp_append, lookedUp_loadOwnCertificate,
      lookedUp_loadPrivateKey, lookedUp_addRemoteCertificates,
      lookedUp_addCaCertificates, destroyed, List.append_nil]
    rfl
  · rfl

/-- The lookups agree when the places of all certificates do. -/
theorem filesOf_eq_iff (fileOf other : String → String)
    (config : TlsConfig) :
    filesOf platform fileOf config = filesOf platform other config ↔
      ∀ name ∈ certificateNames config, fileOf name = other name := by
  simp only [certificateNames, List.forall_mem_append,
    ← List.map_inj_left]
  constructor
  · intro same
    rcases List.append_inj same (by simp) with ⟨others, ca⟩
    rcases List.append_inj others (by simp) with ⟨first, remote⟩
    exact ⟨⟨(List.append_inj first (by simp)).1, remote⟩, ca⟩
  · rintro ⟨⟨own, remote⟩, ca⟩
    rw [filesOf, filesOf, own, remote, ca]

theorem certificateStorePem_ne (name : String) :
    certificateStorePem platform ++ name ≠
      certificateStore platform ++ name := by
  intro same
  have length := congrArg String.length same
  simp only [certificateStorePem, certificateStore, String.length_append,
    Nat.add_right_cancel_iff, Nat.add_left_cancel_iff] at length
  revert length
  decide

/-- The comparison holds for three characters, too: the difference is `npos`. -/
theorem isPemCertificate_iff {name : String}
    (fits : name.length < 0x10000000000000000) :
    isPemCertificate name = true ↔
      ".pem".toList <:+ name.toList ∨ name.length = 3 := by
  rw [← String.length_toList] at fits
  have found :=
    rfind_eq_end_iff fits
      (show ".pem".toList.length < 0x10000000000000000 by decide)
  have length : ".pem".toList.length = 4 := by decide
  rw [String.length_toList, length] at found
  rw [isPemCertificate, beq_iff_eq]
  exact found.trans (or_congr_right (by omega))

/-- A file is looked up in the other directory for these names only. -/
theorem certificateFile_eq_iff {name : String}
    (fits : name.length < 0x10000000000000000) :
    certificateFile platform name = expectedFile platform name ↔
      name.length ≠ 3 := by
  have test := isPemCertificate_iff fits
  rw [certificateFile, expectedFile]
  by_cases ends : ".pem".toList <:+ name.toList
  · have long := ends.length_le
    rw [String.length_toList, String.length_toList] at long
    have four : 4 ≤ name.length := long
    rw [if_pos (test.mpr (.inl ends)), if_pos ends]
    exact iff_of_true rfl (by omega)
  rw [if_neg ends]
  by_cases three : name.length = 3
  · rw [if_pos (test.mpr (.inr three))]
    exact
      iff_of_false (certificateStorePem_ne platform name)
        (not_not_intro three)
  · have other : ¬ isPemCertificate name = true :=
      fun isPem => (test.mp isPem).elim ends three
    rw [if_neg other]
    exact iff_of_true rfl three

/--
Every certificate is looked up in the directory for its format exactly when no
certificate has a name of three characters, or nothing is looked up at all.
-/
theorem looksUpRight_iff {config : TlsConfig}
    (fits :
      ∀ name ∈ certificateNames config, name.length < 0x10000000000000000) :
    LooksUpRight platform config ↔
      platform.createsConfiguration = false ∨
        ∀ name ∈ certificateNames config, name.length ≠ 3 := by
  rw [LooksUpRight, lookedUp_createTLSConfiguration]
  split
  · rename_i creates
    rw [filesOf_eq_iff, creates]
    simp only [Bool.true_eq_false, false_or]
    constructor
    · intro same name member
      exact
        (certificateFile_eq_iff platform (fits name member)).mp
          (same name member)
    · intro other name member
      exact
        (certificateFile_eq_iff platform (fits name member)).mpr
          (other name member)
  · rename_i fails
    exact iff_of_true rfl (.inl (by simpa using fails))

end Lookups

/-- A data directory all of whose files can be loaded. -/
def sampleTlsPlatform : TlsPlatform where
  dataDir := "/data"
  createsConfiguration := true
  isReadable _ := true
  setOwnCertificateFromFile _ := true
  setOwnKeyFromFile _ := true

/-- A document with a key and certificates of both formats. -/
def tlsDocument (ownCert : String) : Json :=
  .object
    [("tls_conf", .object
      [("private_key", .string "server.key"),
       ("own_cert", .string ownCert),
       ("ca_certs", .array [.object [("cert_file", .string "root.pem")]]),
       ("remote_certs", .array
         [.object [("cert_file", .string "client.cer")],
          .object [("cert_file", .string "client.pem")]])])]

/-- What is imported of this document. -/
def sampleTlsConfig (ownCert : String) : TlsConfig :=
  importTlsConfig {} (some (tlsDocument ownCert))

theorem looksUpRight_iff_sample :
    LooksUpRight sampleTlsPlatform (sampleTlsConfig "server.pem") ↔
      sampleTlsPlatform.createsConfiguration = false ∨
        ∀ name ∈ certificateNames (sampleTlsConfig "server.pem"),
          name.length ≠ 3 :=
  looksUpRight_iff sampleTlsPlatform (by decide)

/-- A certificate `srv` is looked up among those in the PEM format. -/
theorem shortName_lookedUpAsPem :
    ¬ ".pem".toList <:+ "srv".toList ∧
      certificateStorePem sampleTlsPlatform ++ "srv" ∈
        lookedUp
          (createTLSConfiguration sampleTlsPlatform
            (sampleTlsConfig "srv")).2 ∧
      ¬ LooksUpRight sampleTlsPlatform (sampleTlsConfig "srv") := by
  decide

end Iec104North.TlsConfiguration
