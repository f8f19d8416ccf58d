/-
# Configuration

The options of the TOML file that the modelled code reads, under their names in
the file, and the checks a file passes before the process starts with it.
-/

namespace XorcGateway

structure GatewayConfig where
  defaultToken : String
  allowEmptySignature : Bool

/-- One `[[origins]]` entry. -/
structure OriginConfig where
  appId : String
  allowed : List String

/-- One `[[test_apps]]` entry. -/
structure TestAppConfig where
  appId : String
  token : Option String
  secretIos : Option String
  secretAndroid : Option String
  secretWeb : Option String

structure CorsConfig where
  allowedMethods : String
  allowedHeaders : String

structure KafkaConfig where
  topic : String

structure CassandraConfig where
  keyspace : String
  contactPoints : String
  manageApps : Bool

structure Config where
  kafka : KafkaConfig
  gateway : GatewayConfig
  cors : Option CorsConfig
  origins : Option (List OriginConfig)
  testApps : Option (List TestAppConfig)
  cassandra : CassandraConfig

namespace Config

/-- `Config::parse`, with the message where it panics. The file may fail to open
and then to be read, each time with a message; `toml` is `toml::from_str`. -/
def parse (toml : String → Except String Config) (rustEnv : String)
    (file : Except String (Except String String)) : Except String Config :=
  match file with
  | .error err => .error ("Error while reading config file: [" ++ err ++ "]")
  | .ok (.error err) => .error ("Error while reading config: [" ++ err ++ "]")
  | .ok (.ok configToml) =>
      match toml configToml with
      | .error err => .error ("Error while reading config: [" ++ err ++ "]")
      | .ok config =>
          if rustEnv ≠ "development" then
            if config.gateway.allowEmptySignature then
              .error "Cannot allow empty signatures outside of development environment."
            -- the message names the opposite of what is checked
            else if config.cassandra.manageApps then
              .error "Cannot allow manage_apps to be false outside of development environment."
            else .ok config
          else .ok config

/-- A configuration accepted outside development checks signatures and has
`manage_apps` off. -/
theorem of_parse_eq_ok {toml : String → Except String Config} {rustEnv : String}
    {file : Except String (Except String String)} {config : Config}
    (h : parse toml rustEnv file = .ok config) (henv : rustEnv ≠ "development") :
    config.gateway.allowEmptySignature = false ∧ config.cassandra.manageApps = false := by
  rcases file with err | err | configToml
  · cases h
  · cases h
  · cases htoml : toml configToml with
    | error err => simp [parse, htoml] at h
    | ok parsed =>
        simp only [parse, htoml, if_pos henv] at h
        cases hallow : parsed.gateway.allowEmptySignature with
        | true => simp [hallow] at h
        | false =>
            cases hmanage : parsed.cassandra.manageApps with
            | true => simp [hallow, hmanage] at h
            | false =>
                simp only [hallow, hmanage, Bool.false_eq_true, if_false, Except.ok.injEq] at h
                exact h ▸ ⟨hallow, hmanage⟩

end Config

end XorcGateway
