import SearchExport.Config.Overrides

/-!
# The settings of a configuration

Every setting by itself, with its place in a configuration file and the variable of the environment that the
place stands for.

* `Config.setting`, `Config.withSetting` — a setting read and changed; `setting_withSetting_self`,
  `setting_withSetting_of_ne`, `Config.ext_setting` — the laws of both.
* `Setting.variableName`, `Setting.read?` — the variable of a setting and the value that its text denotes.
* `overrides_eq` — what the environment sets; `Setting.recognisedVariables` — by which variables.
-/

set_option autoImplicit false

namespace SearchExport

/-- A setting. -/
inductive Setting where
  | logLevel
  | baseUrl
  | username
  | password
  | tlsVerify
  | timeoutSeconds
  | allowLeadingWildcard
  | maxRetries
  | initialDelayMillis
  | maxDelayMillis
  | backoffMultiplier
  | chunkSize
  | fields
  | defaultPatterns
  | ranges
  | fileEnabled
  | directory
  | rotation
  deriving DecidableEq, Repr

namespace Setting

/-- The values of a setting. -/
def Content : Setting → Type
  | .logLevel | .baseUrl | .directory | .rotation => String
  | .username => Option String
  | .password => Option Secret
  | .tlsVerify | .allowLeadingWildcard | .fileEnabled => Bool
  | .timeoutSeconds | .maxRetries | .initialDelayMillis | .maxDelayMillis | .chunkSize => Nat
  | .backoffMultiplier => Binary64
  | .fields | .defaultPatterns => List String
  | .ranges => List IndexRange

/-- Where a setting stands in a configuration file. -/
def path : Setting → List String
  | .logLevel => ["application", "log_level"]
  | .baseUrl => ["elasticsearch", "base_url"]
  | .username => ["elasticsearch", "username"]
  | .password => ["elasticsearch", "password"]
  | .tlsVerify => ["elasticsearch", "tls_verify"]
  | .timeoutSeconds => ["elasticsearch", "timeout_seconds"]
  | .allowLeadingWildcard => ["elasticsearch", "allow_leading_wildcard_searches"]
  | .maxRetries => ["elasticsearch", "retry", "max_retries"]
  | .initialDelayMillis => ["elasticsearch", "retry", "initial_delay_ms"]
  | .maxDelayMillis => ["elasticsearch", "retry", "max_delay_ms"]
  | .backoffMultiplier => ["elasticsearch", "retry", "backoff_multiplier"]
  | .chunkSize => ["export", "chunk_size"]
  | .fields => ["export", "default_fields"]
  | .defaultPatterns => ["indices", "default_patterns"]
  | .ranges => ["indices", "ranges"]
  | .fileEnabled => ["logging", "local_enabled"]
  | .directory => ["logging", "local_path"]
  | .rotation => ["logging", "local_rotation"]

end Setting

namespace Config

/-- The value of a setting. -/
def setting (c : Config) : (s : Setting) → s.Content
  | .logLevel => c.application.logLevel
  | .baseUrl => c.elasticsearch.baseUrl
  | .username => c.elasticsearch.username
  | .password => c.elasticsearch.password
  | .tlsVerify => c.elasticsearch.tlsVerify
  | .timeoutSeconds => c.elasticsearch.timeoutSeconds
  | .allowLeadingWildcard => c.elasticsearch.allowLeadingWildcard
  | .maxRetries => c.elasticsearch.retry.maxRetries
  | .initialDelayMillis => c.elasticsearch.retry.initialDelayMillis
  | .maxDelayMillis => c.elasticsearch.retry.maxDelayMillis
  | .backoffMultiplier => c.elasticsearch.retry.backoffMultiplier
  | .chunkSize => c.exporting.chunkSize
  | .fields => c.exporting.fields
  | .defaultPatterns => c.indices.defaultPatterns
  | .ranges => c.indices.ranges
  | .fileEnabled => c.logging.fileEnabled
  | .directory => c.logging.directory
  | .rotation => c.logging.rotation

/-- The configuration with other retry settings. -/
def withRetry (c : Config) (retry : RetrySettings) : Config :=
  { c with elasticsearch := { c.elasticsearch with retry := retry } }

/-- The configuration with another value of a setting. -/
def withSetting (c : Config) : (s : Setting) → s.Content → Config
  | .logLevel, v => { c with application := { c.application with logLevel := v } }
  | .baseUrl, v => { c with elasticsearch := { c.elasticsearch with baseUrl := v } }
  | .username, v => { c with elasticsearch := { c.elasticsearch with username := v } }
  | .password, v => { c with elasticsearch := { c.elasticsearch with password := v } }
  | .tlsVerify, v => { c with elasticsearch := { c.elasticsearch with tlsVerify := v } }
  | .timeoutSeconds, v => { c with elasticsearch := { c.elasticsearch with timeoutSeconds := v } }
  | .allowLeadingWildcard, v =>
    { c with elasticsearch := { c.elasticsearch with allowLeadingWildcard := v } }
  | .maxRetries, v => c.withRetry { c.elasticsearch.retry with maxRetries := v }
  | .initialDelayMillis, v => c.withRetry { c.elasticsearch.retry with initialDelayMillis := v }
  | .maxDelayMillis, v => c.withRetry { c.elasticsearch.retry with maxDelayMillis := v }
  | .backoffMultiplier, v => c.withRetry { c.elasticsearch.retry with backoffMultiplier := v }
  | .chunkSize, v => { c with exporting := { c.exporting with chunkSize := v } }
  | .fields, v => { c with exporting := { c.exporting with fields := v } }
  | .defaultPatterns, v => { c with indices := { c.indices with defaultPatterns := v } }
  | .ranges, v => { c with indices := { c.indices with ranges := v } }
  | .fileEnabled, v => { c with logging := { c.logging with fileEnabled := v } }
  | .directory, v => { c with logging := { c.logging with directory := v } }
  | .rotation, v => { c with logging := { c.logging with rotation := v } }

@[simp] theorem setting_withSetting_self (c : Config) (s : Setting) (v : s.Content) :
    (c.withSetting s v).setting s = v := by
  cases s <;> rfl

/-- The other settings stay. -/
theorem setting_withSetting_of_ne (c : Config) {s t : Setting} (h : t ≠ s) (v : s.Content) :
    (c.withSetting s v).setting t = c.setting t := by
  cases s <;> cases t <;> first | rfl | exact absurd rfl h

@[simp] theorem withSetting_setting (c : Config) (s : Setting) : c.withSetting s (c.setting s) = c := by
  cases s <;> rfl

/-- A configuration is its settings. -/
theorem ext_setting {c d : Config} (h : ∀ s, c.setting s = d.setting s) : c = d := by
  obtain ⟨⟨⟩, ⟨_, _, _, _, _, _, ⟨⟩⟩, ⟨⟩, ⟨⟩, ⟨⟩⟩ := c
  obtain ⟨⟨⟩, ⟨_, _, _, _, _, _, ⟨⟩⟩, ⟨⟩, ⟨⟩, ⟨⟩⟩ := d
  simp only [mk.injEq, ApplicationSettings.mk.injEq, ElasticsearchSettings.mk.injEq, RetrySettings.mk.injEq,
    ExportSettings.mk.injEq, IndexSettings.mk.injEq, LogSettings.mk.injEq]
  exact ⟨h .logLevel, ⟨h .baseUrl, h .username, h .password, h .tlsVerify, h .timeoutSeconds,
    h .allowLeadingWildcard, h .maxRetries, h .initialDelayMillis, h .maxDelayMillis, h .backoffMultiplier⟩,
    ⟨h .chunkSize, h .fields⟩, ⟨h .defaultPatterns, h .ranges⟩, h .fileEnabled, h .directory, h .rotation⟩

end Config

/-! ## Variables -/

namespace Setting

/-- The variable that the place of a setting stands for: its names in upper case, joined by underscores. -/
def variableName (s : Setting) : String :=
  "MSGEXPORT_" ++ String.ofList (("_".intercalate s.path).toList.map Char.toUpper)

/-- The variable of the setting is among those that override settings. -/
def IsRecognised (s : Setting) : Prop := s.variableName ∈ overrides.map Override.variableName

-- Unfolding the instance would compare the texts of all names.
@[irreducible] instance (s : Setting) : Decidable s.IsRecognised :=
  inferInstanceAs (Decidable (s.variableName ∈ overrides.map Override.variableName))

/-- The value that the text of a variable denotes: texts as they are, flags, numbers and lists.  The other
settings have no value that is written as a single text. -/
def read? : (s : Setting) → String → Option s.Content
  | .logLevel, text => some text
  | .baseUrl, text => some text
  | .username, text => some (some text)
  | .password, text => some (some ⟨text⟩)
  | .tlsVerify, text => flagOf? text
  | .timeoutSeconds, text => countOf? text
  | .allowLeadingWildcard, text => flagOf? text
  | .chunkSize, text => countOf? text
  | .fields, text => some (itemsOf text)
  | .defaultPatterns, text => some (itemsOf text)
  | .fileEnabled, text => flagOf? text
  | .directory, text => some text
  | .rotation, text => some text
  | .maxRetries, _ | .initialDelayMillis, _ | .maxDelayMillis, _ | .backoffMultiplier, _ | .ranges, _ => none

/-- The override of a setting by its variable. -/
def override (s : Setting) : Override where
  variableName := s.variableName
  set? text c := (s.read? text).map (c.withSetting s)

@[simp] theorem variableName_override (s : Setting) : s.override.variableName = s.variableName := rfl

@[simp] theorem set?_override (s : Setting) (text : String) (c : Config) :
    s.override.set? text c = (s.read? text).map (c.withSetting s) := rfl

/-- The settings that have an override, in the order in which their variables are looked at. -/
def overridden : List Setting :=
  [.logLevel, .baseUrl, .username, .password, .tlsVerify, .timeoutSeconds, .allowLeadingWildcard, .chunkSize,
    .fields, .defaultPatterns, .fileEnabled, .directory, .rotation]

theorem nodup_overridden : overridden.Nodup := by decide

/-- The variables that are looked at, each with the setting that it overrides. -/
def recognisedVariables : List (String × Setting) :=
  [("MSGEXPORT_APPLICATION_LOG_LEVEL", .logLevel),
    ("MSGEXPORT_ELASTICSEARCH_BASE_URL", .baseUrl),
    ("MSGEXPORT_ELASTICSEARCH_USERNAME", .username),
    ("MSGEXPORT_ELASTICSEARCH_PASSWORD", .password),
    ("MSGEXPORT_ELASTICSEARCH_TLS_VERIFY", .tlsVerify),
    ("MSGEXPORT_ELASTICSEARCH_TIMEOUT_SECONDS", .timeoutSeconds),
    ("MSGEXPORT_ELASTICSEARCH_ALLOW_LEADING_WILDCARD_SEARCHES", .allowLeadingWildcard),
    ("MSGEXPORT_EXPORT_CHUNK_SIZE", .chunkSize),
    ("MSGEXPORT_EXPORT_DEFAULT_FIELDS", .fields),
    ("MSGEXPORT_INDICES_DEFAULT_PATTERNS", .defaultPatterns),
    ("MSGEXPORT_LOGGING_LOCAL_ENABLED", .fileEnabled),
    ("MSGEXPORT_LOGGING_LOCAL_PATH", .directory),
    ("MSGEXPORT_LOGGING_LOCAL_ROTATION", .rotation)]

theorem recognisedVariables_eq : recognisedVariables = overridden.map fun s => (s.variableName, s) := by decide +kernel

end Setting

theorem Override.eq_override {o : Override} {s : Setting} (hname : o.variableName = s.variableName)
    (hset : ∀ text c, o.set? text c = (s.read? text).map (c.withSetting s)) : o = s.override := by
  obtain ⟨name, set?⟩ := o
  obtain rfl := hname
  exact congrArg (Override.mk s.variableName) (funext fun text => funext fun c => hset text c)

/-- **What the environment sets**: some settings, each by the variable that its place in a configuration file
stands for, and nothing else. -/
theorem overrides_eq : overrides = Setting.overridden.map Setting.override := by
  simp only [overrides, Setting.overridden, List.map_cons, List.map_nil, List.cons.injEq, and_true]
  and_intros
  all_goals refine Override.eq_override (by decide +kernel) fun text c => ?_
  all_goals simp only [Override.ofElasticsearch, Override.ofExport, Override.ofLog, Option.map_map, Setting.read?]
  all_goals rfl

/-- The settings without an override have variables that nothing looks at. -/
theorem Setting.isRecognised_iff (s : Setting) : s.IsRecognised ↔ s ∈ overridden := by
  have hrest : [maxRetries, initialDelayMillis, maxDelayMillis, backoffMultiplier, ranges].map variableName =
      ["MSGEXPORT_ELASTICSEARCH_RETRY_MAX_RETRIES", "MSGEXPORT_ELASTICSEARCH_RETRY_INITIAL_DELAY_MS",
        "MSGEXPORT_ELASTICSEARCH_RETRY_MAX_DELAY_MS", "MSGEXPORT_ELASTICSEARCH_RETRY_BACKOFF_MULTIPLIER",
        "MSGEXPORT_INDICES_RANGES"] := by
    decide +kernel
  simp only [List.map_cons, List.map_nil, List.cons.injEq, and_true] at hrest
  refine ⟨fun h => ?_, fun h => ?_⟩
  · cases s
    case maxRetries | initialDelayMillis | maxDelayMillis | backoffMultiplier | ranges =>
      simp [IsRecognised, hrest, overrides, Override.ofElasticsearch, Override.ofExport, Override.ofLog] at h
    all_goals decide
  · rw [IsRecognised, overrides_eq, List.map_map]
    exact List.mem_map_of_mem h

/-- A variable is looked at for a setting exactly when the setting has an override and the place of the setting
stands for the variable. -/
theorem Setting.mem_recognisedVariables_iff {name : String} {s : Setting} :
    (name, s) ∈ recognisedVariables ↔ s.IsRecognised ∧ s.variableName = name := by
  rw [recognisedVariables_eq, s.isRecognised_iff, List.mem_map]
  constructor
  · rintro ⟨t, ht, h⟩
    obtain ⟨rfl, rfl⟩ := Prod.mk.inj h
    exact ⟨ht, rfl⟩
  · rintro ⟨hs, rfl⟩
    exact ⟨s, hs, rfl⟩

end SearchExport
