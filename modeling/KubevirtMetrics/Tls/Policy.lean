import KubevirtMetrics.Data.Listing
import KubevirtMetrics.Data.Lists

namespace KubevirtMetrics.Tls

open Data Data.Text

/-! The policy that `ServerConfig` is given, as texts with the names of OpenShift. -/

inductive PolicyError
  /-- unknown tls version -/
  | version (name : List Char)
  /-- unsupported OpenShift TLS cipher suite -/
  | unsupported (configuredName : List Char)
  /-- resolve TLS cipher suite: unknown cipher name -/
  | unresolved (name : String)
  /-- TLS cipher suites must contain at least one suite -/
  | noSuite
  /-- unknown TLS group -/
  | group (name : List Char)
  deriving DecidableEq

/-! ### Names of the platform -/

def goTLSVersions : List (String × Nat) :=
  [("VersionTLS10", 0x0301), ("VersionTLS11", 0x0302), ("VersionTLS12", 0x0303),
    ("VersionTLS13", 0x0304)]

def defaultTLSVersion : Nat := 0x0303

def tlsVersion (versionName : List Char) : Except PolicyError Nat :=
  if versionName = [] then .ok defaultTLSVersion
  else match goTLSVersions.lookup (String.ofList versionName) with
    | some version => .ok version
    | none => .error (.version versionName)

def goCipherSuites : List (String × Nat) :=
  [("TLS_RSA_WITH_RC4_128_SHA", 0x0005),
    ("TLS_RSA_WITH_3DES_EDE_CBC_SHA", 0x000a),
    ("TLS_RSA_WITH_AES_128_CBC_SHA", 0x002f),
    ("TLS_RSA_WITH_AES_256_CBC_SHA", 0x0035),
    ("TLS_RSA_WITH_AES_128_CBC_SHA256", 0x003c),
    ("TLS_RSA_WITH_AES_128_GCM_SHA256", 0x009c),
    ("TLS_RSA_WITH_AES_256_GCM_SHA384", 0x009d),
    ("TLS_ECDHE_ECDSA_WITH_RC4_128_SHA", 0xc007),
    ("TLS_ECDHE_ECDSA_WITH_AES_128_CBC_SHA", 0xc009),
    ("TLS_ECDHE_ECDSA_WITH_AES_256_CBC_SHA", 0xc00a),
    ("TLS_ECDHE_RSA_WITH_RC4_128_SHA", 0xc011),
    ("TLS_ECDHE_RSA_WITH_3DES_EDE_CBC_SHA", 0xc012),
    ("TLS_ECDHE_RSA_WITH_AES_128_CBC_SHA", 0xc013),
    ("TLS_ECDHE_RSA_WITH_AES_256_CBC_SHA", 0xc014),
    ("TLS_ECDHE_ECDSA_WITH_AES_128_CBC_SHA256", 0xc023),
    ("TLS_ECDHE_RSA_WITH_AES_128_CBC_SHA256", 0xc027),
    ("TLS_ECDHE_RSA_WITH_AES_128_GCM_SHA256", 0xc02f),
    ("TLS_ECDHE_ECDSA_WITH_AES_128_GCM_SHA256", 0xc02b),
    ("TLS_ECDHE_RSA_WITH_AES_256_GCM_SHA384", 0xc030),
    ("TLS_ECDHE_ECDSA_WITH_AES_256_GCM_SHA384", 0xc02c),
    ("TLS_ECDHE_RSA_WITH_CHACHA20_POLY1305", 0xcca8),
    ("TLS_ECDHE_ECDSA_WITH_CHACHA20_POLY1305", 0xcca9),
    ("TLS_ECDHE_RSA_WITH_CHACHA20_POLY1305_SHA256", 0xcca8),
    ("TLS_ECDHE_ECDSA_WITH_CHACHA20_POLY1305_SHA256", 0xcca9),
    ("TLS_AES_128_GCM_SHA256", 0x1301),
    ("TLS_AES_256_GCM_SHA384", 0x1302),
    ("TLS_CHACHA20_POLY1305_SHA256", 0x1303)]

def cipherSuite (cipherName : String) : Except PolicyError Nat :=
  match goCipherSuites.lookup cipherName with
  | some cipher => .ok cipher
  | none => .error (.unresolved cipherName)

def openSSLToIANACiphers : List (String × String) :=
  [("TLS_AES_128_GCM_SHA256", "TLS_AES_128_GCM_SHA256"),
    ("TLS_AES_256_GCM_SHA384", "TLS_AES_256_GCM_SHA384"),
    ("TLS_CHACHA20_POLY1305_SHA256", "TLS_CHACHA20_POLY1305_SHA256"),
    ("ECDHE-ECDSA-AES128-GCM-SHA256", "TLS_ECDHE_ECDSA_WITH_AES_128_GCM_SHA256"),
    ("ECDHE-RSA-AES128-GCM-SHA256", "TLS_ECDHE_RSA_WITH_AES_128_GCM_SHA256"),
    ("ECDHE-ECDSA-AES256-GCM-SHA384", "TLS_ECDHE_ECDSA_WITH_AES_256_GCM_SHA384"),
    ("ECDHE-RSA-AES256-GCM-SHA384", "TLS_ECDHE_RSA_WITH_AES_256_GCM_SHA384"),
    ("ECDHE-ECDSA-CHACHA20-POLY1305", "TLS_ECDHE_ECDSA_WITH_CHACHA20_POLY1305_SHA256"),
    ("ECDHE-RSA-CHACHA20-POLY1305", "TLS_ECDHE_RSA_WITH_CHACHA20_POLY1305_SHA256"),
    ("ECDHE-ECDSA-AES128-SHA256", "TLS_ECDHE_ECDSA_WITH_AES_128_CBC_SHA256"),
    ("ECDHE-RSA-AES128-SHA256", "TLS_ECDHE_RSA_WITH_AES_128_CBC_SHA256"),
    ("AES128-GCM-SHA256", "TLS_RSA_WITH_AES_128_GCM_SHA256"),
    ("AES256-GCM-SHA384", "TLS_RSA_WITH_AES_256_GCM_SHA384"),
    ("AES128-SHA256", "TLS_RSA_WITH_AES_128_CBC_SHA256"),
    ("ECDHE-ECDSA-AES128-SHA", "TLS_ECDHE_ECDSA_WITH_AES_128_CBC_SHA"),
    ("ECDHE-RSA-AES128-SHA", "TLS_ECDHE_RSA_WITH_AES_128_CBC_SHA"),
    ("ECDHE-ECDSA-AES256-SHA", "TLS_ECDHE_ECDSA_WITH_AES_256_CBC_SHA"),
    ("ECDHE-RSA-AES256-SHA", "TLS_ECDHE_RSA_WITH_AES_256_CBC_SHA"),
    ("AES128-SHA", "TLS_RSA_WITH_AES_128_CBC_SHA"),
    ("AES256-SHA", "TLS_RSA_WITH_AES_256_CBC_SHA"),
    ("DES-CBC3-SHA", "TLS_RSA_WITH_3DES_EDE_CBC_SHA"),
    ("ECDHE-RSA-DES-CBC3-SHA", "TLS_ECDHE_RSA_WITH_3DES_EDE_CBC_SHA")]

/-- A name that Go cannot negotiate is dropped. -/
def openSSLToIANACipherSuites (ciphers : List (List Char)) : List String :=
  ciphers.filterMap fun c => openSSLToIANACiphers.lookup (String.ofList c)

def tlsGroupToCurveIDs : List (String × Nat) :=
  [("X25519", 29), ("secp256r1", 23), ("secp384r1", 24), ("secp521r1", 25),
    ("X25519MLKEM768", 4588), ("SecP256r1MLKEM768", 4587), ("SecP384r1MLKEM1024", 4589)]

def tlsGroupToCurveID (group : List Char) : Option Nat :=
  tlsGroupToCurveIDs.lookup (String.ofList group)

/-! ### The parsers -/

def parseMinVersion (value : List Char) : Except PolicyError Nat :=
  tlsVersion (trimSpace value)

def appendSuite (result : List Nat) (configuredName : List Char) :
    Except PolicyError (List Nat) :=
  if configuredName = [] then .ok result
  else match openSSLToIANACipherSuites [configuredName] with
    | [name] => (cipherSuite name).map (result ++ [·])
    | _ => .error (.unsupported configuredName)

def parseCipherSuites (value : List Char) : Except PolicyError (List Nat) :=
  if trimSpace value = [] then .ok []
  else do
    let result ← (items ',' value).foldlM appendSuite []
    if result = [] then .error .noSuite else .ok result

def appendGroup (result : List Nat) (curveIDStr : List Char) :
    Except PolicyError (List Nat) :=
  match tlsGroupToCurveID curveIDStr with
  | some id => .ok (result ++ [id])
  | none => .error (.group curveIDStr)

def parseTLSGroups (value : List Char) : Except PolicyError (List Nat) :=
  if trimSpace value = [] then .ok [] else (items ',' value).foldlM appendGroup []

structure Config where
  minVersion : Nat
  /-- No suite stands for the suites of Go. -/
  cipherSuites : List Nat
  curvePreferences : List Nat
  deriving DecidableEq

def serverConfig (minVersion cipherSuites tlsGroups : List Char) :
    Except PolicyError Config := do
  let minimum ← parseMinVersion minVersion
  let ciphers ← parseCipherSuites cipherSuites
  let curveIds ← parseTLSGroups tlsGroups
  .ok ⟨minimum, ciphers, curveIds⟩

/-! ### What the texts stand for -/

/-- A suite that the platform names as OpenSSL does. -/
def IsSuite (configuredName : List Char) (suite : Nat) : Prop :=
  ∃ name, openSSLToIANACiphers.lookup (String.ofList configuredName) = some name ∧
    goCipherSuites.lookup name = some suite

def IsGroup (name : List Char) (id : Nat) : Prop := tlsGroupToCurveID name = some id

/-- The ways to write a minimal version. -/
def WritesVersion (version : Nat) (text : List Char) : Prop :=
  (Padded [] text ∧ version = defaultTLSVersion) ∨
    ∃ name, Padded name text ∧ name ≠ [] ∧
      goTLSVersions.lookup (String.ofList name) = some version

/-- The ways to write suites, where items may be empty. -/
def WritesSuites (suites : List Nat) (text : List Char) : Prop :=
  (Padded [] text ∧ suites = []) ∨
    (suites ≠ [] ∧ ∃ names, Lists ',' names text ∧
      List.Forall₂ IsSuite (names.filter (· ≠ [])) suites)

/-- The ways to write groups, where no item may be empty. -/
def WritesGroups (ids : List Nat) (text : List Char) : Prop :=
  (Padded [] text ∧ ids = []) ∨ ∃ names, Lists ',' names text ∧
    List.Forall₂ IsGroup names ids

theorem tlsVersion_eq_ok_iff {name : List Char} {version : Nat} :
    tlsVersion name = .ok version ↔
      (name = [] ∧ version = defaultTLSVersion) ∨
        (name ≠ [] ∧ goTLSVersions.lookup (String.ofList name) = some version) := by
  unfold tlsVersion
  by_cases empty : name = []
  · simp [empty, eq_comm]
  · rw [if_neg empty]
    cases goTLSVersions.lookup (String.ofList name) <;> simp [empty]

theorem parseMinVersion_eq_ok_iff {text : List Char} {version : Nat} :
    parseMinVersion text = .ok version ↔ WritesVersion version text := by
  rw [parseMinVersion, tlsVersion_eq_ok_iff, WritesVersion, ← trimSpace_eq_iff]
  apply or_congr Iff.rfl
  constructor
  · rintro ⟨nonempty, named⟩
    exact ⟨trimSpace text, padded_trimSpace text, nonempty, named⟩
  · rintro ⟨name, padded, nonempty, named⟩
    rw [trimSpace_eq_iff.mpr padded]
    exact ⟨nonempty, named⟩

theorem appendSuite_eq_ok_iff {configuredName : List Char}
    (nonempty : configuredName ≠ []) (result next : List Nat) :
    appendSuite result configuredName = .ok next ↔
      ∃ suite, IsSuite configuredName suite ∧ next = result ++ [suite] := by
  unfold appendSuite IsSuite
  rw [if_neg nonempty]
  cases known : openSSLToIANACiphers.lookup (String.ofList configuredName) with
  | none => simp [openSSLToIANACipherSuites, known]
  | some name =>
      simp only [openSSLToIANACipherSuites, List.filterMap_cons, known,
        List.filterMap_nil, cipherSuite]
      cases resolved : goCipherSuites.lookup name <;> simp [Except.map, resolved, eq_comm]

theorem foldlM_appendSuite_eq_ok_iff {names : List (List Char)} {suites : List Nat} :
    names.foldlM appendSuite [] = .ok suites ↔
      List.Forall₂ IsSuite (names.filter (· ≠ [])) suites := by
  have skip : ∀ result name, decide (name ≠ []) = false →
      appendSuite result name = .ok result := by
    intro result name empty
    exact if_pos (of_not_not (of_decide_eq_false empty))
  have each : ∀ result, ∀ name ∈ names.filter (· ≠ []), ∀ next,
      appendSuite result name = .ok next ↔ ∃ suite, IsSuite name suite ∧
          next = result ++ [suite] := by
    intro result name member
    exact appendSuite_eq_ok_iff (of_decide_eq_true (List.mem_filter.mp member).2) result
  rw [foldlM_filter_of_skip skip, foldlM_append_eq_ok_iff each]
  simp

theorem parseCipherSuites_eq_ok_iff {text : List Char} {suites : List Nat} :
    parseCipherSuites text = .ok suites ↔ WritesSuites suites text := by
  unfold parseCipherSuites WritesSuites
  rw [← trimSpace_eq_iff]
  simp only [← items_eq_iff, exists_eq_left', ← foldlM_appendSuite_eq_ok_iff]
  by_cases blank : trimSpace text = []
  · rw [if_pos blank, items_of_blank rfl blank]
    have none : [[]].foldlM appendSuite [] = .ok [] := rfl
    rw [none]
    simp [blank, eq_comm]
  · rw [if_neg blank, bind_eq_ok]
    simp only [blank, false_and, false_or]
    constructor
    · rintro ⟨result, parsed, kept⟩
      by_cases empty : result = []
      · rw [if_pos empty] at kept
        cases kept
      · rw [if_neg empty] at kept
        cases kept
        exact ⟨empty, parsed⟩
    · rintro ⟨nonempty, parsed⟩
      exact ⟨suites, parsed, if_neg nonempty⟩

theorem appendGroup_eq_ok_iff (name : List Char) (result next : List Nat) :
    appendGroup result name = .ok next ↔ ∃ id, IsGroup name id ∧
      next = result ++ [id] := by
  unfold appendGroup IsGroup
  cases tlsGroupToCurveID name <;> simp [eq_comm]

theorem foldlM_appendGroup_eq_ok_iff {names : List (List Char)} {ids : List Nat} :
    names.foldlM appendGroup [] = .ok ids ↔ List.Forall₂ IsGroup names ids := by
  rw [foldlM_append_eq_ok_iff fun result name _ next =>
    appendGroup_eq_ok_iff name result next]
  simp

theorem parseTLSGroups_eq_ok_iff {text : List Char} {ids : List Nat} :
    parseTLSGroups text = .ok ids ↔ WritesGroups ids text := by
  unfold parseTLSGroups WritesGroups
  rw [← trimSpace_eq_iff]
  simp only [← items_eq_iff, exists_eq_left', ← foldlM_appendGroup_eq_ok_iff]
  by_cases blank : trimSpace text = []
  · rw [if_pos blank, items_of_blank rfl blank]
    -- no group has the empty name
    have none : [[]].foldlM appendGroup [] = .error (.group []) := by decide
    rw [none]
    simp [blank, eq_comm]
  · rw [if_neg blank]
    simp [blank]

/-- A policy is accepted exactly if each of its texts is written with names that the
platform has, and the configuration holds their numbers in the order of the text. -/
theorem serverConfig_eq_ok_iff (minVersion cipherSuites tlsGroups : List Char)
    (config : Config) :
    serverConfig minVersion cipherSuites tlsGroups = .ok config ↔
      WritesVersion config.minVersion minVersion ∧
        WritesSuites config.cipherSuites cipherSuites ∧
          WritesGroups config.curvePreferences tlsGroups := by
  rw [← parseMinVersion_eq_ok_iff, ← parseCipherSuites_eq_ok_iff,
    ← parseTLSGroups_eq_ok_iff]
  unfold serverConfig
  simp only [bind_eq_ok]
  constructor
  · rintro ⟨minimum, version, ciphers, suites, curveIds, groups, same⟩
    cases same
    exact ⟨version, suites, groups⟩
  · rintro ⟨version, suites, groups⟩
    exact ⟨config.minVersion, version, config.cipherSuites, suites,
      config.curvePreferences, groups, rfl⟩

end KubevirtMetrics.Tls
