/-
# Loading and refreshing the application table

With `manage_apps` the table is loaded from the database when the registry is
created and again every minute; without, it is built once from `[[test_apps]]`.
The database driver is a parameter, and so is what an attempt meets outside. A
refresh may fail, and it may panic, which ends the updater thread and leaves the
table as it was.
-/

import XorcGateway.Registry.Validate

namespace XorcGateway

open Rust

/-! ## cdrs -/

/-- Reading the columns of a `cdrs` row. `byName` is `by_name::<String>`, where a
null is `some none`; `rByName` is `r_by_name::<Uuid>`. Both are `none` for an
`Err`. -/
structure Cdrs (ρ : Type) where
  columns : ρ → List String
  byName : ρ → String → Option (Option String)
  rByName : ρ → String → Option Uuid

/-- A column that is not in the result set cannot be read. -/
structure Cdrs.Documented {ρ : Type} (cdrs : Cdrs ρ) : Prop where
  byName_of_not_mem : ∀ row name, name ∉ cdrs.columns row → cdrs.byName row name = none
  rByName_of_not_mem : ∀ row name, name ∉ cdrs.columns row → cdrs.rByName row name = none

/-- A decoded response body: its rows, if it is a rows result. -/
structure AppsBody (ρ : Type) where
  rows : Option (List ρ)

/-- A response frame: its body, or `none` where `get_body` gives an `Err`, with the
hypothesis on `cdrs` that it gives one or the other. -/
structure AppsFrame (ρ : Type) where
  body : Option (AppsBody ρ)

/-- What one refresh meets outside. -/
inductive Attempt (ρ : Type)
  | /-- `pool.get()` fails. -/
    noConnection
  | /-- `connection.query(..)` fails. -/
    queryFailed
  | answered (frame : AppsFrame ρ)

/-- The decoded rows an attempt received, if it did. -/
def Attempt.rows {ρ : Type} : Attempt ρ → Option (List ρ)
  | .noConnection => none
  | .queryFailed => none
  | .answered frame => frame.body.bind AppsBody.rows

/-! ## The registry and its updater -/

/-- The registry as the updater and the requests share it. -/
structure SharedRegistry extends AppRegistry where
  /-- Whether there is a connection pool. -/
  hasPool : Bool

/-- `io::Error` with kind `ConnectionAborted`. -/
structure IoError where
  message : String
  deriving DecidableEq

namespace AppRegistry

/-- The columns the refresh selects. -/
def selectedColumns : List String :=
  ["id", "sdk_token", "ios_api_secret", "android_api_secret", "web_api_secret"]

/-- The statement of a refresh. -/
def applicationsQuery (config : Config) : String :=
  "SELECT " ++ ", ".intercalate selectedColumns ++ " FROM " ++ config.cassandra.keyspace ++
    ".applications"

example (config : Config) (h : config.cassandra.keyspace = "sdk") :
    applicationsQuery config = "SELECT id, sdk_token, ios_api_secret, android_api_secret, " ++
      "web_api_secret FROM sdk.applications" := by
  rw [applicationsQuery, h]
  decide

variable (X : Crates) {ρ : Type} (cdrs : Cdrs ρ)

/-- What the loop of a refresh reads from a row. The id is read under another
name than it is selected by. -/
def readRow (row : ρ) : Except Panic AppRow := do
  let id ← unwrap (cdrs.rByName row "app_id")
  let sdkToken ← unwrap (cdrs.byName row "sdk_token")
  let iosSecret ← unwrap (cdrs.byName row "ios_api_secret")
  let webSecret ← unwrap (cdrs.byName row "web_api_secret")
  let androidSecret ← unwrap (cdrs.byName row "android_api_secret")
  return { id := X.uuid.hyphenated id, token := sdkToken, iosSecret, androidSecret, webSecret }

/-- The table made of decoded rows. -/
def appsOf (rows : List ρ) : Except Panic (HashMap String Application) :=
  rows.foldlM (fun acc row => do
    let appRow ← readRow X cdrs row
    return acc.insert appRow.id (ofRow X appRow)) .new

/-- `swap_apps` -/
def swapApps (self : SharedRegistry) (apps : HashMap String Application) : SharedRegistry :=
  { self with apps := apps }

/-- One refresh: the registry it leaves and its result. A body that cannot be
decoded and one without rows are the same to it. -/
def updateApps (self : SharedRegistry) (attempt : Attempt ρ) :
    Except Panic (SharedRegistry × Except IoError Unit) :=
  if self.hasPool then
    match attempt with
    | .noConnection =>
        return (self,
          .error ⟨"Couldn't get a ScyllaDB connection for application registry"⟩)
    | .queryFailed =>
        return (self, .error ⟨"Couldn't query application settings from ScyllaDB"⟩)
    | .answered frame =>
        match frame.body.bind AppsBody.rows with
        | some rows => do
            let apps ← appsOf X cdrs rows
            return (swapApps self apps, .ok ())
        | none => return (swapApps self .new, .ok ())
  else return (self, .ok ())

/-- The registry with the thread that refreshes it. -/
structure Updater where
  registry : SharedRegistry
  running : Bool

/-- One round of the updater's loop. An error is logged and ignored; a panic ends
the thread. -/
def Updater.round (self : Updater) (attempt : Attempt ρ) : Updater :=
  if self.running then
    match updateApps X cdrs self.registry attempt with
    | .error _ => { self with running := false }
    | .ok (registry, _) => { self with registry := registry }
  else self

/-- `run_updater`, as far as these attempts. -/
def runUpdater (self : SharedRegistry) (attempts : List (Attempt ρ)) : Updater :=
  attempts.foldl (Updater.round X cdrs) ⟨self, true⟩

/-- What creating the registry meets outside: a transport for each address, the
connection pool, and the first refresh. -/
structure Startup (ρ : Type) where
  transport : String → Option Unit
  pool : Option Unit
  first : Attempt ρ

/-- `AppRegistry::new` -/
def create (config : Config) (startup : Startup ρ) : Except Panic SharedRegistry :=
  if config.cassandra.manageApps then do
    let addresses := (config.cassandra.contactPoints.toList.splitOn ',').map String.ofList
    let _ ← addresses.mapM fun addr => unwrap (startup.transport addr)
    let _ ← unwrap startup.pool
    let registry : SharedRegistry :=
      { allowEmptySignature := config.gateway.allowEmptySignature, apps := .new, hasPool := true }
    let (registry, result) ← updateApps X cdrs registry startup.first
    let _ ← unwrap result.toOption
    return registry
  else do
    let apps ← testApps X config
    return {
      allowEmptySignature := config.gateway.allowEmptySignature
      apps := apps
      hasPool := false }

/-! ## Refreshes by their outcome -/

variable {X cdrs}

/-- Reading a row succeeds when every column does. -/
theorem readRow_eq_ok_iff {row : ρ} {appRow : AppRow} :
    readRow X cdrs row = .ok appRow ↔
      ∃ id, cdrs.rByName row "app_id" = some id ∧ appRow.id = X.uuid.hyphenated id ∧
        cdrs.byName row "sdk_token" = some appRow.token ∧
        cdrs.byName row "ios_api_secret" = some appRow.iosSecret ∧
        cdrs.byName row "android_api_secret" = some appRow.androidSecret ∧
        cdrs.byName row "web_api_secret" = some appRow.webSecret := by
  obtain ⟨appId, token, ios, android, web⟩ := appRow
  simp only [readRow, unwrap_bind_eq_ok_iff, pure, Except.pure, Except.ok.injEq, AppRow.mk.injEq]
  constructor
  · rintro ⟨id, hid, token', htoken, ios', hios, web', hweb, android', handroid, heq⟩
    obtain ⟨rfl, rfl, rfl, rfl, rfl⟩ := heq
    exact ⟨id, hid, rfl, htoken, hios, handroid, hweb⟩
  · rintro ⟨id, hid, happId, htoken, hios, handroid, hweb⟩
    exact ⟨id, hid, token, htoken, ios, hios, web, hweb, android, handroid, happId.symm, rfl, rfl,
      rfl, rfl⟩

/-- The fold over the rows makes the table of the applications they are read
as. -/
theorem appsOf_eq_ok_iff {rows : List ρ} {table : HashMap String Application} :
    appsOf X cdrs rows = .ok table ↔ ∃ appRows,
      List.Forall₂ (fun row appRow => readRow X cdrs row = .ok appRow) rows appRows ∧
        table = buildApps X appRows := by
  rw [appsOf]
  -- the table built so far is carried along
  suffices ∀ acc : HashMap String Application,
      (rows.foldlM (fun acc row => do
        let appRow ← readRow X cdrs row
        return acc.insert appRow.id (ofRow X appRow)) acc = .ok table ↔
      ∃ appRows, List.Forall₂ (fun row appRow => readRow X cdrs row = .ok appRow) rows appRows ∧
        table = appRows.foldl (fun acc row => acc.insert row.id (ofRow X row)) acc) from
    this .new
  induction rows with
  | nil =>
      intro acc
      rw [List.foldlM_nil]
      constructor
      · intro htable
        cases htable
        exact ⟨[], .nil, rfl⟩
      · rintro ⟨appRows, hread, htable⟩
        cases hread
        exact congrArg Except.ok htable.symm
  | cons row rows ih =>
      intro acc
      cases hrow : readRow X cdrs row with
      | error panic =>
          simp only [List.foldlM_cons, hrow, bind, Except.bind, reduceCtorEq, false_iff]
          rintro ⟨appRows, hread, _⟩
          cases hread with
          | cons hhead => cases hrow.symm.trans hhead
      | ok appRow =>
          simp only [List.foldlM_cons, hrow, bind, Except.bind, pure, Except.pure] at ih ⊢
          rw [ih]
          constructor
          · rintro ⟨appRows, hread, htable⟩
            exact ⟨appRow :: appRows, .cons hrow hread, htable⟩
          · rintro ⟨appRows, hread, htable⟩
            cases hread with
            | cons hhead htail =>
                cases hrow.symm.trans hhead
                exact ⟨_, htail, htable⟩

/-- Without a pool nothing is refreshed. -/
theorem updateApps_of_no_pool {self : SharedRegistry} (h : self.hasPool = false)
    (attempt : Attempt ρ) : updateApps X cdrs self attempt = .ok (self, .ok ()) := by
  simp [updateApps, h, pure, Except.pure]

theorem runUpdater_of_no_pool {self : SharedRegistry} (h : self.hasPool = false)
    (attempts : List (Attempt ρ)) : runUpdater X cdrs self attempts = ⟨self, true⟩ := by
  induction attempts with
  | nil => rfl
  | cons attempt attempts ih =>
      have hround : Updater.round X cdrs ⟨self, true⟩ attempt = ⟨self, true⟩ := by
        simp [Updater.round, updateApps_of_no_pool h]
      rw [runUpdater, List.foldl_cons, hround]
      exact ih

/-- A refresh changes nothing but the table. -/
theorem updateApps_frame {self self' : SharedRegistry} {attempt : Attempt ρ}
    {result : Except IoError Unit} (h : updateApps X cdrs self attempt = .ok (self', result)) :
    self'.hasPool = self.hasPool ∧ self'.allowEmptySignature = self.allowEmptySignature := by
  unfold updateApps at h
  split at h
  · rcases attempt with _ | _ | ⟨⟨_ | ⟨_ | rows⟩⟩⟩
    · cases h
      exact ⟨rfl, rfl⟩
    · cases h
      exact ⟨rfl, rfl⟩
    · cases h
      exact ⟨rfl, rfl⟩
    · cases h
      exact ⟨rfl, rfl⟩
    · cases happs : appsOf X cdrs rows with
      | error panic => simp [happs, bind, Except.bind] at h
      | ok apps =>
          simp only [Option.bind_some, happs, bind, Except.bind] at h
          cases h
          exact ⟨rfl, rfl⟩
  · cases h
    exact ⟨rfl, rfl⟩

theorem round_frame (self : Updater) (attempt : Attempt ρ) :
    (self.round X cdrs attempt).registry.hasPool = self.registry.hasPool ∧
      (self.round X cdrs attempt).registry.allowEmptySignature =
        self.registry.allowEmptySignature := by
  rw [Updater.round]
  split
  · cases h : updateApps X cdrs self.registry attempt with
    | error panic => exact ⟨rfl, rfl⟩
    | ok refreshed => exact updateApps_frame h
  · exact ⟨rfl, rfl⟩

theorem runUpdater_concat (self : SharedRegistry) (attempts : List (Attempt ρ))
    (attempt : Attempt ρ) :
    runUpdater X cdrs self (attempts ++ [attempt]) =
      (runUpdater X cdrs self attempts).round X cdrs attempt := by
  rw [runUpdater, List.foldl_append]
  rfl

/-- The updater keeps the pool and the signature setting, whatever it meets. -/
theorem runUpdater_frame (self : SharedRegistry) (attempts : List (Attempt ρ)) :
    (runUpdater X cdrs self attempts).registry.hasPool = self.hasPool ∧
      (runUpdater X cdrs self attempts).registry.allowEmptySignature =
        self.allowEmptySignature := by
  induction attempts using List.reverseRecOn with
  | nil => exact ⟨rfl, rfl⟩
  | append_singleton attempts attempt ih =>
      rw [runUpdater_concat]
      obtain ⟨hpool, hallow⟩ := round_frame (runUpdater X cdrs self attempts) attempt
      exact ⟨hpool.trans ih.1, hallow.trans ih.2⟩

end AppRegistry

end XorcGateway
