import Mathlib.Data.Rat.Init
import Goupter.Config.Duration

/-!
# Validating the configuration

`ConfigValidator.ValidateConfig` of `src/pkg/config/validator.go`, over the `Config` of
`src/unnamed/part_018`. A missing configuration gives the one error `config`. Otherwise each
section is checked in turn, application, server, database, Redis, Consul, NATS, log and
trace, and each check that fails appends an error naming the field it checks, with the
message of the source and, for most checks, the offending value. Nothing stops the
validation early: every failing check of every section is reported, in the order of the
source.

The errors name only the fields their section checks, and every value an error shows is the
value of the field it names (`validateConfig_value_of_field`). No field is named twice
(`validateConfig_fields_nodup`), although `database.max_idle_conns` has two checks: a
negative count and a count above `max_open_conns`, which cannot both fail. The defaults that
`setDefaults` gives `Load` pass every check (`validateConfig_defaultConfig`).

`Config` keeps the fields the validator reads. Go's `int` is `Int`; a `time.Duration` is its
`int64` count of nanoseconds; `SampleRate` is a `float64`, by its value (`Float64`), compared
as Go compares: a NaN rate is neither below 0 nor above 1, and passes. The rules that
`AddRule` stores are never read by `ValidateConfig`, so the validator's state is left out.
-/

namespace Goupter.Configuration

/-! ### The data -/

/-- A `float64`: a finite value, an infinity, or NaN. Every finite `float64` is a rational;
only comparisons read it, and the model does not ask that the rational be one a `float64` can
hold. -/
inductive Float64 where
  | finite (value : ℚ)
  | inf (negative : Bool)
  | nan
deriving DecidableEq, Repr

/-- The `float64` of an integer constant. -/
def Float64.ofInt (n : Int) : Float64 := .finite (Rat.ofInt n)

/-- `x < y` on `float64`: false when either is NaN. -/
def Float64.lt : Float64 → Float64 → Bool
  | .finite a, .finite b => decide (a.num * b.den < b.num * a.den)
  | .inf true, .finite _ | .inf true, .inf false | .finite _, .inf false => true
  | _, _ => false

/-- `AppConfig`. -/
structure AppConfig where
  name : String
  version : String
  env : String
deriving DecidableEq, Repr

/-- `HTTPConfig`, with the fields the validator reads. -/
structure HTTPConfig where
  port : Int
  readTimeout : Int
  writeTimeout : Int
deriving DecidableEq, Repr

/-- `GRPCConfig`, with the field the validator reads. -/
structure GRPCConfig where
  port : Int
deriving DecidableEq, Repr

/-- `ServerConfig`. -/
structure ServerConfig where
  http : HTTPConfig
  grpc : GRPCConfig
deriving DecidableEq, Repr

/-- `DatabaseConfig`, with the fields the validator reads. -/
structure DatabaseConfig where
  driver : String
  port : Int
  maxIdleConns : Int
  maxOpenConns : Int
  connMaxLifetime : Int
  logLevel : String
  slowQueryThreshold : Int
deriving DecidableEq, Repr

/-- `RedisConfig`, with the fields the validator reads. -/
structure RedisConfig where
  port : Int
  db : Int
  poolSize : Int
  dialTimeout : Int
  mode : String
  addrs : List String
  masterName : String
  sentinelAddrs : List String
deriving DecidableEq, Repr

/-- `ConsulServiceConfig`, with the fields the validator reads. -/
structure ConsulServiceConfig where
  checkInterval : String
  checkTimeout : String
deriving DecidableEq, Repr

/-- `ConsulConfig`, with the fields the validator reads. -/
structure ConsulConfig where
  port : Int
  service : ConsulServiceConfig
deriving DecidableEq, Repr

/-- `NATSConfig`, with the fields the validator reads. -/
structure NATSConfig where
  url : String
  maxReconnects : Int
  reconnectWait : Int
  connectTimeout : Int
deriving DecidableEq, Repr

/-- `LogConfig`, with the fields the validator reads. -/
structure LogConfig where
  level : String
  format : String
  output : String
  maxSize : Int
  maxBackups : Int
  maxAge : Int
deriving DecidableEq, Repr

/-- `TraceConfig`. -/
structure TraceConfig where
  enabled : Bool
  serviceName : String
  endpoint : String
  sampleRate : Float64
deriving DecidableEq, Repr

/-- `Config`; the `Auth` section is not read by the validator. -/
structure Config where
  app : AppConfig
  server : ServerConfig
  database : DatabaseConfig
  redis : RedisConfig
  consul : ConsulConfig
  nats : NATSConfig
  log : LogConfig
  trace : TraceConfig
deriving DecidableEq, Repr

/-- The value a `ValidationError` shows, by its Go type. -/
inductive FieldValue where
  | int (n : Int)
  | duration (d : Int)
  | string (s : String)
  | float (x : Float64)
deriving DecidableEq, Repr

/-- `ValidationError`; `value` is `none` where the source leaves `Value` out. -/
structure ValidationError where
  field : String
  message : String
  value : Option FieldValue
deriving DecidableEq, Repr

/-- `ValidationError.Error()`. -/
def ValidationError.error (e : ValidationError) : String := "配置校验失败 [" ++ e.field ++ "]: " ++ e.message

/-- `ValidationErrors.Error()`: the errors' texts joined by `; `, empty when there is none. -/
def errorsText (errs : List ValidationError) : String :=
  if errs = [] then "" else "; ".intercalate (errs.map ValidationError.error)

/-- `ValidationErrors.HasErrors()`. -/
def hasErrors (errs : List ValidationError) : Bool := errs.length > 0

/-! ### The checks -/

/-- `containsString(slice, s)`. -/
def containsString (slice : List String) (s : String) : Bool := slice.any (· == s)

/-- `strings.HasPrefix(s, prefix)`. -/
def hasPrefix (s p : String) : Bool := p.toList.isPrefixOf s.toList

/-- `if cond { v.errors = append(v.errors, err) }`. -/
def reportIf (cond : Bool) (err : ValidationError) : List ValidationError := if cond then [err] else []

/-- The port check every section with a port makes. -/
def checkPort (field : String) (port : Int) : List ValidationError :=
  reportIf (port < 0 || port > 65535) ⟨field, "端口必须在 0-65535 范围内", some (.int port)⟩

/-- The check of a count or a duration that must not be negative. -/
def checkNotNegative (field message : String) (value : FieldValue) (n : Int) : List ValidationError :=
  reportIf (n < 0) ⟨field, message, some value⟩

/-- `validateApp`. -/
def validateApp (cfg : AppConfig) : List ValidationError :=
  let validEnvs := ["development", "staging", "production", "test"]
  reportIf (cfg.name == "") ⟨"app.name", "应用名称不能为空", none⟩ ++
  reportIf (cfg.version == "") ⟨"app.version", "应用版本不能为空", none⟩ ++
  reportIf (cfg.env != "" && !containsString validEnvs cfg.env)
    ⟨"app.env", "无效的环境值，必须是: " ++ ", ".intercalate validEnvs, some (.string cfg.env)⟩

/-- `validateServer`. -/
def validateServer (cfg : ServerConfig) : List ValidationError :=
  checkPort "server.http.port" cfg.http.port ++
  checkNotNegative "server.http.read_timeout" "读取超时不能为负数" (.duration cfg.http.readTimeout)
    cfg.http.readTimeout ++
  checkNotNegative "server.http.write_timeout" "写入超时不能为负数" (.duration cfg.http.writeTimeout)
    cfg.http.writeTimeout ++
  checkPort "server.grpc.port" cfg.grpc.port

/-- `validateDatabase`. -/
def validateDatabase (cfg : DatabaseConfig) : List ValidationError :=
  let validDrivers := ["mysql", "postgres", "sqlite", "sqlserver"]
  let validLogLevels := ["silent", "error", "warn", "info"]
  reportIf (cfg.driver != "" && !containsString validDrivers cfg.driver)
    ⟨"database.driver", "无效的数据库驱动，必须是: " ++ ", ".intercalate validDrivers, some (.string cfg.driver)⟩ ++
  checkPort "database.port" cfg.port ++
  checkNotNegative "database.max_idle_conns" "最大空闲连接数不能为负数" (.int cfg.maxIdleConns) cfg.maxIdleConns ++
  checkNotNegative "database.max_open_conns" "最大打开连接数不能为负数" (.int cfg.maxOpenConns) cfg.maxOpenConns ++
  reportIf (cfg.maxIdleConns > 0 && cfg.maxOpenConns > 0 && cfg.maxIdleConns > cfg.maxOpenConns)
    ⟨"database.max_idle_conns", "最大空闲连接数不能大于最大打开连接数", some (.int cfg.maxIdleConns)⟩ ++
  checkNotNegative "database.conn_max_lifetime" "连接最大生存时间不能为负数" (.duration cfg.connMaxLifetime)
    cfg.connMaxLifetime ++
  reportIf (cfg.logLevel != "" && !containsString validLogLevels cfg.logLevel)
    ⟨"database.log_level", "无效的日志级别，必须是: " ++ ", ".intercalate validLogLevels,
      some (.string cfg.logLevel)⟩ ++
  checkNotNegative "database.slow_query_threshold" "慢查询阈值不能为负数" (.duration cfg.slowQueryThreshold)
    cfg.slowQueryThreshold

/-- `validateRedis`. -/
def validateRedis (cfg : RedisConfig) : List ValidationError :=
  let validModes := ["", "standalone", "cluster", "sentinel"]
  checkPort "redis.port" cfg.port ++
  reportIf (cfg.db < 0 || cfg.db > 15) ⟨"redis.db", "数据库索引必须在 0-15 范围内", some (.int cfg.db)⟩ ++
  checkNotNegative "redis.pool_size" "连接池大小不能为负数" (.int cfg.poolSize) cfg.poolSize ++
  reportIf (!containsString validModes cfg.mode)
    ⟨"redis.mode", "无效的模式，必须是: " ++ ", ".intercalate (validModes.drop 1), some (.string cfg.mode)⟩ ++
  reportIf (cfg.mode == "cluster" && cfg.addrs.length == 0) ⟨"redis.addrs", "集群模式下必须配置节点地址", none⟩ ++
  (if cfg.mode == "sentinel" then
    reportIf (cfg.masterName == "") ⟨"redis.master_name", "哨兵模式下必须配置 master 名称", none⟩ ++
    reportIf (cfg.sentinelAddrs.length == 0) ⟨"redis.sentinel_addrs", "哨兵模式下必须配置哨兵地址", none⟩
  else []) ++
  checkNotNegative "redis.dial_timeout" "连接超时不能为负数" (.duration cfg.dialTimeout) cfg.dialTimeout

/-- The health check's duration checks: a text that is set must parse. -/
def checkDuration (field text : String) : List ValidationError :=
  reportIf (text != "" && !(parseDuration text).toBool) ⟨field, "无效的时间间隔格式", some (.string text)⟩

/-- `validateConsul`. -/
def validateConsul (cfg : ConsulConfig) : List ValidationError :=
  checkPort "consul.port" cfg.port ++
  checkDuration "consul.service.check_interval" cfg.service.checkInterval ++
  checkDuration "consul.service.check_timeout" cfg.service.checkTimeout

/-- `validateNATS`. -/
def validateNATS (cfg : NATSConfig) : List ValidationError :=
  reportIf (cfg.url != "" && !hasPrefix cfg.url "nats://" && !hasPrefix cfg.url "tls://")
    ⟨"nats.url", "NATS URL 必须以 nats:// 或 tls:// 开头", some (.string cfg.url)⟩ ++
  reportIf (cfg.maxReconnects < -1)
    ⟨"nats.max_reconnects", "最大重连次数不能小于 -1（-1 表示无限重连）", some (.int cfg.maxReconnects)⟩ ++
  checkNotNegative "nats.reconnect_wait" "重连等待时间不能为负数" (.duration cfg.reconnectWait) cfg.reconnectWait ++
  checkNotNegative "nats.connect_timeout" "连接超时不能为负数" (.duration cfg.connectTimeout) cfg.connectTimeout

/-- `validateLog`. -/
def validateLog (cfg : LogConfig) : List ValidationError :=
  let validLevels := ["debug", "info", "warn", "error", "fatal", ""]
  let validFormats := ["json", "console", ""]
  let validOutputs := ["stdout", "file", "both", ""]
  reportIf (!containsString validLevels cfg.level)
    ⟨"log.level", "无效的日志级别，必须是: " ++ ", ".intercalate (validLevels.take (validLevels.length - 1)),
      some (.string cfg.level)⟩ ++
  reportIf (!containsString validFormats cfg.format)
    ⟨"log.format", "无效的日志格式，必须是: json, console", some (.string cfg.format)⟩ ++
  reportIf (!containsString validOutputs cfg.output)
    ⟨"log.output", "无效的输出方式，必须是: stdout, file, both", some (.string cfg.output)⟩ ++
  checkNotNegative "log.max_size" "最大文件大小不能为负数" (.int cfg.maxSize) cfg.maxSize ++
  checkNotNegative "log.max_backups" "最大备份数不能为负数" (.int cfg.maxBackups) cfg.maxBackups ++
  checkNotNegative "log.max_age" "最大保留天数不能为负数" (.int cfg.maxAge) cfg.maxAge

/-- `validateTrace`. -/
def validateTrace (cfg : TraceConfig) : List ValidationError :=
  (if cfg.enabled then
    reportIf (cfg.serviceName == "") ⟨"trace.service_name", "启用链路追踪时必须配置服务名称", none⟩ ++
    reportIf (cfg.endpoint == "") ⟨"trace.endpoint", "启用链路追踪时必须配置上报地址", none⟩
  else []) ++
  reportIf (cfg.sampleRate.lt (.ofInt 0) || (Float64.ofInt 1).lt cfg.sampleRate)
    ⟨"trace.sample_rate", "采样率必须在 0-1 范围内", some (.float cfg.sampleRate)⟩

/-- `ConfigValidator.ValidateConfig(cfg)`; `none` is a `nil` configuration. -/
def validateConfig : Option Config → List ValidationError
  | none => [⟨"config", "配置不能为空", none⟩]
  | some cfg =>
    validateApp cfg.app ++ validateServer cfg.server ++ validateDatabase cfg.database ++
      validateRedis cfg.redis ++ validateConsul cfg.consul ++ validateNATS cfg.nats ++
      validateLog cfg.log ++ validateTrace cfg.trace

/-- `MustValidateConfig(cfg)`: the text it panics with, if it does. -/
def mustValidateConfig (cfg : Option Config) : Option String :=
  let errs := validateConfig cfg
  if hasErrors errs then some (errorsText errs) else none

/-- `ValidateAndLoad(opts...)`, given what `Load` returned. -/
def validateAndLoad (loaded : Except String Config) : Except String Config :=
  match loaded with
  | .error err => .error err
  | .ok cfg =>
    let errs := validateConfig (some cfg)
    if hasErrors errs then .error ("配置校验失败: " ++ errorsText errs) else .ok cfg

/-! ### What the errors name -/

/-- The value of the configuration a field path names, for the paths the validator checks. -/
def Config.valueOf (cfg : Config) : String → Option FieldValue
  | "app.env" => some (.string cfg.app.env)
  | "server.http.port" => some (.int cfg.server.http.port)
  | "server.http.read_timeout" => some (.duration cfg.server.http.readTimeout)
  | "server.http.write_timeout" => some (.duration cfg.server.http.writeTimeout)
  | "server.grpc.port" => some (.int cfg.server.grpc.port)
  | "database.driver" => some (.string cfg.database.driver)
  | "database.port" => some (.int cfg.database.port)
  | "database.max_idle_conns" => some (.int cfg.database.maxIdleConns)
  | "database.max_open_conns" => some (.int cfg.database.maxOpenConns)
  | "database.conn_max_lifetime" => some (.duration cfg.database.connMaxLifetime)
  | "database.log_level" => some (.string cfg.database.logLevel)
  | "database.slow_query_threshold" => some (.duration cfg.database.slowQueryThreshold)
  | "redis.port" => some (.int cfg.redis.port)
  | "redis.db" => some (.int cfg.redis.db)
  | "redis.pool_size" => some (.int cfg.redis.poolSize)
  | "redis.mode" => some (.string cfg.redis.mode)
  | "redis.dial_timeout" => some (.duration cfg.redis.dialTimeout)
  | "consul.port" => some (.int cfg.consul.port)
  | "consul.service.check_interval" => some (.string cfg.consul.service.checkInterval)
  | "consul.service.check_timeout" => some (.string cfg.consul.service.checkTimeout)
  | "nats.url" => some (.string cfg.nats.url)
  | "nats.max_reconnects" => some (.int cfg.nats.maxReconnects)
  | "nats.reconnect_wait" => some (.duration cfg.nats.reconnectWait)
  | "nats.connect_timeout" => some (.duration cfg.nats.connectTimeout)
  | "log.level" => some (.string cfg.log.level)
  | "log.format" => some (.string cfg.log.format)
  | "log.output" => some (.string cfg.log.output)
  | "log.max_size" => some (.int cfg.log.maxSize)
  | "log.max_backups" => some (.int cfg.log.maxBackups)
  | "log.max_age" => some (.int cfg.log.maxAge)
  | "trace.sample_rate" => some (.float cfg.trace.sampleRate)
  | _ => none

theorem forall_mem_reportIf {p : ValidationError → Prop} (cond : Bool) (err : ValidationError) :
    (∀ e ∈ reportIf cond err, p e) ↔ (cond = true → p err) := by
  unfold reportIf
  cases cond <;> simp

theorem forall_mem_if_nil {p : ValidationError → Prop} (cond : Bool) (errs : List ValidationError) :
    (∀ e ∈ (if cond then errs else []), p e) ↔ (cond = true → ∀ e ∈ errs, p e) := by
  cases cond <;> simp

/-- Every value an error shows is the value of the field it names. -/
theorem validateConfig_value_of_field (cfg : Config) :
    ∀ e ∈ validateConfig (some cfg), ∀ v, e.value = some v → cfg.valueOf e.field = some v := by
  simp only [validateConfig, validateApp, validateServer, validateDatabase, validateRedis, validateConsul,
    validateNATS, validateLog, validateTrace, checkPort, checkNotNegative, checkDuration, List.forall_mem_append,
    forall_mem_reportIf, forall_mem_if_nil]
  repeat' constructor
  all_goals first
    | (intro _ v shown; cases shown; rfl)
    | (intro _ v shown; cases shown)
    | (intro _; constructor <;> intro _ v shown <;> cases shown)

/-! ### No field is named twice -/

theorem reportIf_fields (cond : Bool) (err : ValidationError) :
    ((reportIf cond err).map (·.field)).Sublist [err.field] := by
  unfold reportIf
  cases cond <;> simp

theorem reportIf_false_fields {cond : Bool} (never : cond = false) (err : ValidationError) :
    ((reportIf cond err).map (·.field)).Sublist [] := by
  simp [reportIf, never]

theorem if_nil_fields {cond : Bool} {errs : List ValidationError} {fields : List String}
    (within : (errs.map (·.field)).Sublist fields) : ((if cond then errs else []).map (·.field)).Sublist fields := by
  cases cond
  · exact List.nil_sublist _
  · exact within

/-- The fields the validator can name, in the order of its checks: `database.max_idle_conns`
once for the negative count (`idleFirst`) or once for a count above `max_open_conns`. -/
def validatedFields (idleFirst : Bool) : List String :=
  ["app.name"] ++ ["app.version"] ++ ["app.env"] ++
  (["server.http.port"] ++ ["server.http.read_timeout"] ++ ["server.http.write_timeout"] ++ ["server.grpc.port"]) ++
  (["database.driver"] ++ ["database.port"] ++ (if idleFirst then ["database.max_idle_conns"] else []) ++
    ["database.max_open_conns"] ++ (if idleFirst then [] else ["database.max_idle_conns"]) ++
    ["database.conn_max_lifetime"] ++ ["database.log_level"] ++ ["database.slow_query_threshold"]) ++
  (["redis.port"] ++ ["redis.db"] ++ ["redis.pool_size"] ++ ["redis.mode"] ++ ["redis.addrs"] ++
    (["redis.master_name"] ++ ["redis.sentinel_addrs"]) ++ ["redis.dial_timeout"]) ++
  (["consul.port"] ++ ["consul.service.check_interval"] ++ ["consul.service.check_timeout"]) ++
  (["nats.url"] ++ ["nats.max_reconnects"] ++ ["nats.reconnect_wait"] ++ ["nats.connect_timeout"]) ++
  (["log.level"] ++ ["log.format"] ++ ["log.output"] ++ ["log.max_size"] ++ ["log.max_backups"] ++
    ["log.max_age"]) ++
  ((["trace.service_name"] ++ ["trace.endpoint"]) ++ ["trace.sample_rate"])

theorem validatedFields_nodup (idleFirst : Bool) : (validatedFields idleFirst).Nodup := by
  cases idleFirst <;> decide

/-- The fields a configuration's errors name follow the checks, with one of the two checks of
`database.max_idle_conns` left out: they cannot both fail. -/
theorem validateConfig_fields_sublist (cfg : Config) :
    ((validateConfig (some cfg)).map (·.field)).Sublist (validatedFields (decide (cfg.database.maxIdleConns < 0))) := by
  have exclusive : decide (cfg.database.maxIdleConns < 0) = true →
      (cfg.database.maxIdleConns > 0 && cfg.database.maxOpenConns > 0 &&
        cfg.database.maxIdleConns > cfg.database.maxOpenConns) = false := by
    intro negative
    simp only [decide_eq_true_eq] at negative
    simp only [Bool.and_eq_false_iff, decide_eq_false_iff_not]
    omega
  simp only [validateConfig, validateApp, validateServer, validateDatabase, validateRedis, validateConsul,
    validateNATS, validateLog, validateTrace, checkPort, checkNotNegative, checkDuration, List.map_append,
    validatedFields]
  cases negative : decide (cfg.database.maxIdleConns < 0) <;> simp only [if_true, if_false, Bool.false_eq_true] <;>
    repeat' first
      | with_reducible exact reportIf_fields _ _
      | with_reducible exact reportIf_false_fields rfl _
      | with_reducible exact reportIf_false_fields (exclusive negative) _
      | with_reducible apply List.Sublist.append
      | with_reducible apply if_nil_fields
      | rw [List.map_append]

/-- No field is named by two errors. -/
theorem validateConfig_fields_nodup (cfg : Option Config) : ((validateConfig cfg).map (·.field)).Nodup := by
  cases cfg with
  | none => decide
  | some cfg => exact (validateConfig_fields_sublist cfg).nodup (validatedFields_nodup _)

/-! ### Durations of the health check -/

/-- A duration check passes a text that is a decimal count and a unit exactly when the
duration is below `2^63` nanoseconds, about 292 years. -/
theorem checkDuration_count_unit (field : String) {ds : List Char} {u : String} {ns : Nat}
    (unit : (u, ns) ∈ unitMap) (nonEmpty : ds ≠ []) (digits : ∀ c ∈ ds, c.isDigit) :
    checkDuration field (String.mk (ds ++ u.toList)) = [] ↔ digitsValue 0 ds * ns < twoPow63 := by
  have notEmpty : String.mk (ds ++ u.toList) ≠ "" := fun empty => nonEmpty (by
    have := congrArg String.toList empty
    simp only [String.toList, List.append_eq_nil] at this
    exact this.1)
  unfold checkDuration reportIf
  rw [parseDuration_count_unit unit nonEmpty digits]
  by_cases below : digitsValue 0 ds * ns < twoPow63 <;> simp [below, Except.toBool]
  exact notEmpty

/-- `validateConsul` reports the health check's interval, written as a decimal count and a
unit, exactly when it is `2^63` nanoseconds or more. -/
theorem validateConsul_interval_count_unit (cfg : ConsulConfig) {ds : List Char} {u : String} {ns : Nat}
    (unit : (u, ns) ∈ unitMap) (nonEmpty : ds ≠ []) (digits : ∀ c ∈ ds, c.isDigit)
    (interval : cfg.service.checkInterval = String.mk (ds ++ u.toList)) :
    (∀ e ∈ validateConsul cfg, e.field ≠ "consul.service.check_interval") ↔ digitsValue 0 ds * ns < twoPow63 := by
  rw [← checkDuration_count_unit "consul.service.check_interval" unit nonEmpty digits, ← interval]
  unfold validateConsul checkPort checkDuration reportIf
  split <;> split <;> split <;> simp

theorem validateConsul_interval_ten_seconds :
    (∀ e ∈ validateConsul ⟨8500, ⟨"10s", "5s"⟩⟩, e.field ≠ "consul.service.check_interval") ↔
      digitsValue 0 ['1', '0'] * 1000000000 < twoPow63 :=
  validateConsul_interval_count_unit ⟨8500, ⟨"10s", "5s"⟩⟩ (by decide) (by decide) (by decide) rfl

/-! ### The defaults pass -/

/-- The configuration `Load` gives when no file and no environment variable sets a key: the
values of `setDefaults`, the durations as `ParseDuration` reads them, and Go's zero values for
the keys without a default. -/
def defaultConfig : Config where
  app := ⟨"flit-app", "1.0.0", "development"⟩
  server := ⟨⟨8080, 30000000000, 30000000000⟩, ⟨9090⟩⟩
  database := ⟨"mysql", 3306, 10, 100, 3600000000000, "warn", 200000000⟩
  redis := ⟨6379, 0, 10, 5000000000, "", [], "", []⟩
  consul := ⟨8500, ⟨"10s", "5s"⟩⟩
  nats := ⟨"nats://localhost:4222", 10, 2000000000, 5000000000⟩
  log := ⟨"info", "json", "stdout", 100, 3, 7⟩
  trace := ⟨false, "", "", .ofInt 1⟩

theorem parseDuration_ten_seconds : parseDuration "10s" = .ok 10000000000 :=
  (@parseDuration_count_unit ['1', '0'] "s" 1000000000 (by decide) (by decide) (by decide)).trans rfl

theorem parseDuration_five_seconds : parseDuration "5s" = .ok 5000000000 :=
  (@parseDuration_count_unit ['5'] "s" 1000000000 (by decide) (by decide) (by decide)).trans rfl

/-- The defaults pass every check. -/
theorem validateConfig_defaultConfig : validateConfig (some defaultConfig) = [] := by
  simp only [validateConfig, defaultConfig, validateConsul, checkDuration, parseDuration_ten_seconds,
    parseDuration_five_seconds]
  decide

end Goupter.Configuration
