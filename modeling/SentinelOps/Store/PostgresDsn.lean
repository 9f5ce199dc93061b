/-
# Store.PostgresDsn — the connection string of `NewPostgresStore`

The settings are put into `host=%s port=%d user=%s password=%s dbname=%s sslmode=%s` as they are,
and the driver parses what comes out.  Whether it reads bytes or runes, it gets the settings exactly
when all of them are bare text and none but the SSL mode is empty (`dsn_iff`): behind an empty
password the next option is taken for its value.

Poles: `dsn_example` and `password_default`.
-/
import SentinelOps.Theory.ConnOptions

namespace SentinelOps.Store

open Theory
open GoText (GoString str decimalInt)
open ConnInfo (Reading Key asciiSign written table bytes runes)

set_option autoImplicit false

structure PostgresConfig where
  host : GoString
  port : Int
  database : GoString
  user : GoString
  password : GoString
  sslMode : GoString
  poolSize : Int

namespace PostgresConfig

/-- The values that are filled in for zero ones. -/
def withDefaults (cfg : PostgresConfig) : PostgresConfig :=
  { cfg with
    port := if cfg.port = 0 then 5432 else cfg.port
    sslMode := if cfg.sslMode = [] then str "disable" else cfg.sslMode
    poolSize := if cfg.poolSize ≤ 0 then 10 else cfg.poolSize }

/-- The text passed to `sqlx.Connect`. -/
def dsn (cfg : PostgresConfig) : GoString :=
  let cfg := cfg.withDefaults
  str "host=" ++ cfg.host ++ str " port=" ++ decimalInt cfg.port ++ str " user=" ++ cfg.user ++
    str " password=" ++ cfg.password ++ str " dbname=" ++ cfg.database ++ str " sslmode=" ++
    cfg.sslMode

/-- The options the text is to set. -/
def options (cfg : PostgresConfig) : List (GoString × GoString) :=
  let cfg := cfg.withDefaults
  [(str "host", cfg.host), (str "port", decimalInt cfg.port), (str "user", cfg.user),
    (str "password", cfg.password), (str "dbname", cfg.database), (str "sslmode", cfg.sslMode)]

theorem dsn_written (cfg : PostgresConfig) : 0x20 :: cfg.dsn = written 0x20 0x3D cfg.options := by
  have literals : str "host=" = str "host" ++ [0x3D] ∧ str " port=" = 0x20 :: str "port" ++ [0x3D] ∧
      str " user=" = 0x20 :: str "user" ++ [0x3D] ∧
      str " password=" = 0x20 :: str "password" ++ [0x3D] ∧
      str " dbname=" = 0x20 :: str "dbname" ++ [0x3D] ∧
      str " sslmode=" = 0x20 :: str "sslmode" ++ [0x3D] := by decide
  obtain ⟨host, port, user, password, dbname, sslmode⟩ := literals
  rw [dsn, options, host, port, user, password, dbname, sslmode]
  simp only [written, List.flatMap_cons, List.flatMap_nil, List.append_assoc, List.cons_append,
    List.nil_append, List.append_nil]

theorem key_of_mem_options (cfg : PostgresConfig) : ∀ p ∈ cfg.options, Key p.1 := by
  have keys : ∀ k ∈ cfg.options.map Prod.fst, Key k := by
    show ∀ k ∈ [str "host", str "port", str "user", str "password", str "dbname", str "sslmode"],
      ∀ b ∈ k, b < 0x80 ∧ asciiSign b ≠ .blank ∧ asciiSign b ≠ .equals
    decide +kernel
  exact fun p member => keys p.1 (List.mem_map_of_mem member)

theorem nodup_options (cfg : PostgresConfig) : (cfg.options.map Prod.fst).Nodup := by
  show [str "host", str "port", str "user", str "password", str "dbname", str "sslmode"].Nodup
  decide

theorem plain_decimalInt (n : Int) :
    ∀ b ∈ decimalInt n, b < 0x80 ∧ asciiSign b = .plain := by
  have digits : ∀ b ∈ GoText.decimal n.natAbs, b < 0x80 ∧ asciiSign b = .plain := by
    intro b member
    have digit := GoText.digit_of_mem_zeroPadded member
    grind [asciiSign]
  unfold decimalInt
  split
  · intro b member
    rcases List.mem_append.1 member with sign | digit
    · cases List.mem_singleton.1 sign
      decide
    · exact digits b digit
  · exact digits

end PostgresConfig

section Connect

variable {C : Type} {R : Reading C}

theorem carries_port (cfg : PostgresConfig) :
    R.Carries (decimalInt cfg.withDefaults.port) ∧ decimalInt cfg.withDefaults.port ≠ [] := by
  refine ⟨ConnInfo.carries_of_plain (PostgresConfig.plain_decimalInt _), ?_⟩
  unfold decimalInt
  split
  · simp [GoText.decimal_ne_nil]
  · exact GoText.decimal_ne_nil _

/-- An SSL mode that is filled in is carried, and so is the empty one it stands for. -/
theorem carries_sslMode_iff (cfg : PostgresConfig) :
    R.Carries cfg.withDefaults.sslMode ↔ R.Carries cfg.sslMode := by
  show R.Carries (if cfg.sslMode = [] then str "disable" else cfg.sslMode) ↔ _
  split
  · next empty =>
      rw [empty]
      exact iff_of_true (ConnInfo.carries_of_plain (by decide +kernel))
        (ConnInfo.carries_of_plain fun b member => absurd member List.not_mem_nil)
  · exact Iff.rfl

end Connect

/-- **Exactly bare settings reach the driver**, however it reads characters.  A value is carried if
it has no blanks and no backslashes, does not begin with a quote, and is written as it is read. -/
theorem dsn_iff {C : Type} (R : Reading C) (cfg : PostgresConfig) :
    R.parseOpts cfg.dsn = some (table cfg.options) ↔
      (∀ v ∈ [cfg.host, cfg.user, cfg.password, cfg.database], v ≠ [] ∧ R.Carries v) ∧
        R.Carries cfg.sslMode := by
  obtain ⟨port, portFilled⟩ := carries_port (R := R) cfg
  rw [ConnInfo.parseOpts_iff cfg.dsn_written cfg.key_of_mem_options cfg.nodup_options,
    ← carries_sslMode_iff]
  simp only [PostgresConfig.options, List.dropLast_cons_cons, List.dropLast_singleton,
    List.forall_mem_cons, List.not_mem_nil, IsEmpty.forall_iff, implies_true, and_true]
  constructor
  · rintro ⟨⟨host, -, user, password, database, sslMode⟩, host', -, user', password', database'⟩
    exact ⟨⟨⟨host', host⟩, ⟨user', user⟩, ⟨password', password⟩, database', database⟩, sslMode⟩
  · rintro ⟨⟨⟨host', host⟩, ⟨user', user⟩, ⟨password', password⟩, database', database⟩, sslMode⟩
    exact ⟨⟨host, port, user, password, database, sslMode⟩, host', portFilled, user', password',
      database'⟩

theorem dsn_example :
    let cfg : PostgresConfig := ⟨str "db.local", 0, str "ops", str "kim", str "p=q'r", [], 0⟩
    runes.parseOpts cfg.dsn = some (table cfg.options) := by
  intro cfg
  refine (dsn_iff runes cfg).2 ⟨?_, ConnInfo.carries_of_plain (by decide +kernel)⟩
  have bare : ∀ v ∈ [cfg.host, cfg.user, cfg.password, cfg.database], v ≠ [] ∧
      (∀ c ∈ runes.read v, runes.kind c ≠ .blank) ∧ (∀ c ∈ runes.read v, runes.kind c ≠ .escape) ∧
      (∀ c ∈ (runes.read v).head?, runes.kind c ≠ .quote) ∧ runes.write (runes.read v) = v := by
    decide
  intro v member
  obtain ⟨nonempty, solid, literal, first, rewritten⟩ := bare v member
  exact ⟨nonempty, ⟨solid, literal, first⟩, rewritten⟩

/-- With the settings of `Load` the password is empty.  The driver takes `dbname=sentinelops` for
it and is told no database. -/
theorem password_default :
    let cfg : PostgresConfig :=
      ⟨str "localhost", 5432, str "sentinelops", str "sentinelops", [], str "disable", 10⟩
    let found := table [(str "host", str "localhost"), (str "port", str "5432"),
      (str "user", str "sentinelops"), (str "password", str "dbname=sentinelops"),
      (str "sslmode", str "disable")]
    runes.parseOpts cfg.dsn = some found ∧ bytes.parseOpts cfg.dsn = some found ∧
      found ≠ table cfg.options := by
  intro cfg found
  refine ⟨by decide +kernel, by decide +kernel, fun same => ?_⟩
  have asked := congrArg (GoMap.get · (str "dbname")) same
  exact absurd asked (by decide)

end SentinelOps.Store
