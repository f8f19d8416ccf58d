/-
# Refreshing the application table

A refresh that gets no answer leaves the table alone. One whose answer cannot be
decoded, or has no rows, empties it, and one with a row panics, since no row has
the column its id is read from; the updater does not survive that.
-/

import XorcGateway.Reference

namespace XorcGateway.AppRegistry

open Events Rust

variable {X : Crates} {ρ : Type} {cdrs : Cdrs ρ}

/-! ## Whole runs of the updater -/

/-- The table is made of the rows of the last attempt that received any, or is
the initial one. -/
def IsLatest (X : Crates) (cdrs : Cdrs ρ) (initial : HashMap String Application)
    (attempts : List (Attempt ρ)) (table : HashMap String Application) : Prop :=
  match (attempts.filterMap Attempt.rows).getLast? with
  | some rows => appsOf X cdrs rows = .ok table
  | none => table = initial

/-- Every column the loop of a refresh reads can be read. -/
structure IsReadable (cdrs : Cdrs ρ) (row : ρ) : Prop where
  id : (cdrs.rByName row "app_id").isSome
  sdkToken : (cdrs.byName row "sdk_token").isSome
  iosSecret : (cdrs.byName row "ios_api_secret").isSome
  androidSecret : (cdrs.byName row "android_api_secret").isSome
  webSecret : (cdrs.byName row "web_api_secret").isSome

/-- What an attempt has to be for the table to be kept, or replaced by what it
received: if it received rows, they can be read; if its answer has none, the
table was empty. -/
def Keeps (cdrs : Cdrs ρ) (table : HashMap String Application) : Attempt ρ → Prop
  | .noConnection => True
  | .queryFailed => True
  | .answered frame =>
      match frame.body.bind AppsBody.rows with
      | some rows => ∀ row ∈ rows, IsReadable cdrs row
      | none => table = .new

/-- A readable row is read. -/
theorem isReadable_iff {row : ρ} :
    IsReadable cdrs row ↔ ∃ appRow, readRow X cdrs row = .ok appRow := by
  constructor
  · rintro ⟨hid, htoken, hios, handroid, hweb⟩
    obtain ⟨id, hid⟩ := Option.isSome_iff_exists.mp hid
    obtain ⟨token, htoken⟩ := Option.isSome_iff_exists.mp htoken
    obtain ⟨iosSecret, hios⟩ := Option.isSome_iff_exists.mp hios
    obtain ⟨androidSecret, handroid⟩ := Option.isSome_iff_exists.mp handroid
    obtain ⟨webSecret, hweb⟩ := Option.isSome_iff_exists.mp hweb
    exact ⟨{ id := X.uuid.hyphenated id, token, iosSecret, androidSecret, webSecret },
      readRow_eq_ok_iff.mpr ⟨id, hid, rfl, htoken, hios, handroid, hweb⟩⟩
  · rintro ⟨appRow, hread⟩
    obtain ⟨id, hid, _, htoken, hios, handroid, hweb⟩ := readRow_eq_ok_iff.mp hread
    exact ⟨by simp [hid], by simp [htoken], by simp [hios], by simp [handroid], by simp [hweb]⟩

theorem exists_forall₂_iff {α β : Type} {R : α → β → Prop} {as : List α} :
    (∃ bs, List.Forall₂ R as bs) ↔ ∀ a ∈ as, ∃ b, R a b := by
  induction as with
  | nil => simp
  | cons a as ih =>
      rw [List.forall_mem_cons, ← ih]
      constructor
      · rintro ⟨bs, h⟩
        cases h with
        | cons hhead htail => exact ⟨⟨_, hhead⟩, _, htail⟩
      · rintro ⟨⟨b, hhead⟩, bs, htail⟩
        exact ⟨b :: bs, .cons hhead htail⟩

/-- A table is made of rows exactly when each can be read. -/
theorem forall_isReadable_iff {rows : List ρ} :
    (∀ row ∈ rows, IsReadable cdrs row) ↔ ∃ table, appsOf X cdrs rows = .ok table := by
  have hrows : (∃ appRows,
      List.Forall₂ (fun row appRow => readRow X cdrs row = .ok appRow) rows appRows) ↔
        ∀ row ∈ rows, ∃ appRow, readRow X cdrs row = .ok appRow :=
    exists_forall₂_iff
  simp only [isReadable_iff (X := X), ← hrows, appsOf_eq_ok_iff]
  constructor
  · rintro ⟨appRows, hread⟩
    exact ⟨_, appRows, hread, rfl⟩
  · rintro ⟨table, appRows, hread, _⟩
    exact ⟨appRows, hread⟩

/-- What an attempt does to the latest table. -/
theorem isLatest_concat {initial : HashMap String Application} {past : List (Attempt ρ)}
    {attempt : Attempt ρ} {table : HashMap String Application} :
    IsLatest X cdrs initial (past ++ [attempt]) table ↔
      match attempt.rows with
      | some rows => appsOf X cdrs rows = .ok table
      | none => IsLatest X cdrs initial past table := by
  rw [IsLatest, List.filterMap_append]
  cases hrows : attempt.rows with
  | none => simp [IsLatest, hrows]
  | some rows => simp [hrows]

/-- There is one latest table. -/
theorem IsLatest.unique {initial : HashMap String Application} {attempts : List (Attempt ρ)}
    {table table' : HashMap String Application} (h : IsLatest X cdrs initial attempts table)
    (h' : IsLatest X cdrs initial attempts table') : table = table' := by
  unfold IsLatest at h h'
  cases hlast : (attempts.filterMap Attempt.rows).getLast? with
  | none =>
      rw [hlast] at h h'
      exact h.trans h'.symm
  | some rows =>
      rw [hlast] at h h'
      exact Except.ok.inj (h.symm.trans h')

/-- A refresh of a registry that runs, by what it meets. -/
theorem round_of_running {registry : SharedRegistry} (hpool : registry.hasPool = true)
    (attempt : Attempt ρ) :
    Updater.round X cdrs ⟨registry, true⟩ attempt =
      match attempt with
      | .noConnection => ⟨registry, true⟩
      | .queryFailed => ⟨registry, true⟩
      | .answered frame =>
          match frame.body.bind AppsBody.rows with
          | none => ⟨swapApps registry .new, true⟩
          | some rows =>
              match appsOf X cdrs rows with
              | .error _ => ⟨registry, false⟩
              | .ok apps => ⟨swapApps registry apps, true⟩ := by
  cases attempt with
  | noConnection => simp [Updater.round, updateApps, hpool, pure, Except.pure]
  | queryFailed => simp [Updater.round, updateApps, hpool, pure, Except.pure]
  | answered frame =>
      simp only [Updater.round, updateApps, hpool, if_true]
      cases frame.body.bind AppsBody.rows with
      | none => rfl
      | some rows =>
          cases happs : appsOf X cdrs rows with
          | error panic => simp [happs, bind, Except.bind]
          | ok apps => simp [happs, bind, Except.bind, pure, Except.pure]

/-- One refresh of a running updater whose table is the latest: it stays the
latest exactly when the attempt is one that keeps it, and then the updater stays
up. -/
theorem round_isLatest_iff {initial : HashMap String Application} {past : List (Attempt ρ)}
    {registry : SharedRegistry} (hpool : registry.hasPool = true)
    (hlatest : IsLatest X cdrs initial past registry.apps) (attempt : Attempt ρ) :
    (IsLatest X cdrs initial (past ++ [attempt])
        (Updater.round X cdrs ⟨registry, true⟩ attempt).registry.apps ↔
      Keeps cdrs registry.apps attempt) ∧
    (Keeps cdrs registry.apps attempt →
      (Updater.round X cdrs ⟨registry, true⟩ attempt).running = true) := by
  rw [isLatest_concat, round_of_running hpool]
  cases attempt with
  | noConnection => exact ⟨iff_of_true hlatest trivial, fun _ => rfl⟩
  | queryFailed => exact ⟨iff_of_true hlatest trivial, fun _ => rfl⟩
  | answered frame =>
      simp only [Attempt.rows, Keeps]
      cases frame.body.bind AppsBody.rows with
      | none =>
          refine ⟨⟨fun hnew => hlatest.unique hnew, fun hnew => ?_⟩, fun _ => rfl⟩
          rw [hnew] at hlatest
          exact hlatest
      | some rows =>
          simp only [forall_isReadable_iff (X := X)]
          cases appsOf X cdrs rows with
          | error panic => simp
          | ok apps => simp [swapApps]

/-- The round after a past in which every attempt kept the table. -/
theorem runUpdater_concat_isLatest_iff {self : SharedRegistry} (hpool : self.hasPool = true)
    {past : List (Attempt ρ)}
    (hpast : (runUpdater X cdrs self past).running = true ∧
      IsLatest X cdrs self.apps past (runUpdater X cdrs self past).registry.apps)
    (attempt : Attempt ρ) :
    (IsLatest X cdrs self.apps (past ++ [attempt])
        (runUpdater X cdrs self (past ++ [attempt])).registry.apps ↔
      Keeps cdrs (runUpdater X cdrs self past).registry.apps attempt) ∧
    (Keeps cdrs (runUpdater X cdrs self past).registry.apps attempt →
      (runUpdater X cdrs self (past ++ [attempt])).running = true) := by
  have hupdater : runUpdater X cdrs self past = ⟨(runUpdater X cdrs self past).registry, true⟩ := by
    rw [← hpast.1]
  rw [runUpdater_concat, hupdater]
  exact round_isLatest_iff ((runUpdater_frame self past).1.trans hpool) hpast.2 attempt

/-- While every attempt keeps the table, the updater stays up and the table is
the latest. -/
theorem runUpdater_of_keeps {self : SharedRegistry} (hpool : self.hasPool = true)
    {attempts : List (Attempt ρ)}
    (hkeeps : ∀ past attempt, past ++ [attempt] <+: attempts →
      Keeps cdrs (runUpdater X cdrs self past).registry.apps attempt) :
    (runUpdater X cdrs self attempts).running = true ∧
      IsLatest X cdrs self.apps attempts (runUpdater X cdrs self attempts).registry.apps := by
  induction attempts using List.reverseRecOn with
  | nil => exact ⟨rfl, rfl⟩
  | append_singleton past attempt ih =>
      have hpast := ih fun before other hbefore =>
        hkeeps before other (hbefore.trans (List.prefix_append past [attempt]))
      have hkept := hkeeps past attempt (List.prefix_refl _)
      obtain ⟨hiff, hrunning⟩ := runUpdater_concat_isLatest_iff hpool hpast attempt
      exact ⟨hrunning hkept, hiff.mpr hkept⟩

/-- The table is the latest all along exactly when every answer without rows meets an
empty table, and every row received can be read. -/
theorem runUpdater_isLatest_iff {self : SharedRegistry} (hpool : self.hasPool = true)
    (attempts : List (Attempt ρ)) :
    (∀ past, past <+: attempts →
        IsLatest X cdrs self.apps past (runUpdater X cdrs self past).registry.apps) ↔
      ∀ past attempt, past ++ [attempt] <+: attempts →
        Keeps cdrs (runUpdater X cdrs self past).registry.apps attempt := by
  constructor
  · intro hlatest
    induction attempts using List.reverseRecOn with
    | nil =>
        intro past attempt hpast
        simp at hpast
    | append_singleton attempts last ih =>
        have hkeeps := ih fun past hpast => hlatest past (hpast.trans (List.prefix_append _ _))
        intro past attempt hpast
        cases List.prefix_concat_iff.mp hpast with
        | inl heq =>
            obtain ⟨rfl, rfl⟩ := List.append_singleton_inj.mp heq
            exact (runUpdater_concat_isLatest_iff hpool (runUpdater_of_keeps hpool hkeeps) _).1.mp
              (hlatest _ hpast)
        | inr hbefore => exact hkeeps past attempt hbefore
  · intro hkeeps past hpast
    exact (runUpdater_of_keeps hpool fun before attempt hbefore =>
      hkeeps before attempt (hbefore.trans hpast)).2

/-! ### Where it fails, and where not -/

/-- The applications of a gateway with a database, after its first refresh. -/
def sharedRegistry : SharedRegistry where
  allowEmptySignature := false
  apps := Reference.apps
  hasPool := true

/-- A failed query, an answer with no applications, no connection. -/
def failures : List (Attempt (List (String × Reference.Column))) :=
  [.queryFailed, .answered ⟨some ⟨some []⟩⟩, .noConnection]

/-- The zero rows are an answer, and the failures around it keep the table. -/
theorem runUpdater_isLatest_of_failures :
    IsLatest Reference.crates Reference.cdrs sharedRegistry.apps failures
      (runUpdater Reference.crates Reference.cdrs sharedRegistry failures).registry.apps := by
  refine (runUpdater_isLatest_iff rfl failures).mpr (fun past attempt hpast => ?_) failures
    (List.prefix_refl failures)
  have hmem : attempt ∈ failures := hpast.subset (by simp)
  simp only [failures, List.mem_cons, List.not_mem_nil, or_false] at hmem
  obtain rfl | rfl | rfl := hmem
  · trivial
  · exact List.forall_mem_nil _
  · trivial

/-- An answer that cannot be decoded drops the application that was there. -/
theorem runUpdater_not_isLatest :
    ¬ IsLatest Reference.crates Reference.cdrs sharedRegistry.apps [.answered ⟨none⟩]
        (runUpdater Reference.crates Reference.cdrs sharedRegistry
          [.answered ⟨none⟩]).registry.apps := by
  intro hlatest
  have happs : (HashMap.new : HashMap String Application) = Reference.apps := hlatest
  have happ : Reference.apps Reference.appId = none := by rw [← happs, HashMap.new_get]
  rw [Reference.apps, buildApps_get] at happ
  revert happ
  decide

/-! ## Rows of the applications table -/

/-- The row is one the refresh's statement can return: the selected columns with
an id, and the other values null or text. -/
structure IsSelected (X : Crates) (cdrs : Cdrs ρ) (row : ρ) (appRow : AppRow) : Prop where
  columns : cdrs.columns row = selectedColumns
  id : ∃ id, cdrs.rByName row "id" = some id ∧ appRow.id = X.uuid.hyphenated id
  sdkToken : cdrs.byName row "sdk_token" = some appRow.token
  iosSecret : cdrs.byName row "ios_api_secret" = some appRow.iosSecret
  androidSecret : cdrs.byName row "android_api_secret" = some appRow.androidSecret
  webSecret : cdrs.byName row "web_api_secret" = some appRow.webSecret

/-- The table has the applications of the rows and no others, each under its id
with its token, and with a key for every platform whose own secret is there and
hexadecimal. -/
structure Installs (X : Crates) (appRows : List AppRow) (table : HashMap String Application) :
    Prop where
  complete : ∀ row ∈ appRows, ∃ app, table row.id = some app ∧ app.id = row.id ∧
    app.token = row.token ∧ ∀ platform, app.keyFor platform =
      (row.secretFor platform).bind fun s => (X.hex.decode (asBytes s)).map VerificationKey.mk
  sound : ∀ id app, table id = some app → ∃ row ∈ appRows, row.id = id

/-- A row decides under its own id when no other has that id. -/
theorem rowFor_of_mem {rows : List AppRow} (hunique : (rows.map AppRow.id).Nodup) {row : AppRow}
    (hrow : row ∈ rows) : rowFor rows row.id = some row := by
  induction rows using List.reverseRecOn with
  | nil => simp at hrow
  | append_singleton rows last ih =>
      rw [List.map_append, List.nodup_append] at hunique
      obtain ⟨hrows, _, hdisjoint⟩ := hunique
      rw [rowFor_concat]
      cases List.mem_append.mp hrow with
      | inl hbefore =>
          have hne : last.id ≠ row.id :=
            (hdisjoint _ (List.mem_map_of_mem hbefore) last.id (by simp)).symm
          rw [if_neg hne]
          exact ih hrows hbefore
      | inr hlast =>
          rw [List.mem_singleton.mp hlast, if_pos rfl]

/-- The fold over rows with different ids installs exactly their
applications. -/
theorem installs_buildApps {appRows : List AppRow} (hunique : (appRows.map AppRow.id).Nodup) :
    Installs X appRows (buildApps X appRows) where
  complete row hrow := by
    refine ⟨ofRow X row, ?_, rfl, rfl, fun platform => keyFor_ofRow X row platform⟩
    rw [buildApps_get, rowFor_of_mem hunique hrow]
    rfl
  sound id app happ := by
    rw [buildApps_get, Option.map_eq_some_iff] at happ
    obtain ⟨row, hrow, _⟩ := happ
    have hmem := List.mem_of_find?_eq_some hrow
    have hid := List.find?_some hrow
    exact ⟨row, List.mem_reverse.mp hmem, of_decide_eq_true hid⟩

/-- A refresh installs rows that can be read. -/
theorem updateApps_of_read {self : SharedRegistry} (hpool : self.hasPool = true) {rows : List ρ}
    {appRows : List AppRow}
    (hread : List.Forall₂ (fun row appRow => readRow X cdrs row = .ok appRow) rows appRows)
    (hunique : (appRows.map AppRow.id).Nodup) :
    ∃ self', updateApps X cdrs self (.answered ⟨some ⟨some rows⟩⟩) = .ok (self', .ok ()) ∧
      Installs X appRows self'.apps := by
  have happs := appsOf_eq_ok_iff.mpr ⟨appRows, hread, rfl⟩
  refine ⟨swapApps self (buildApps X appRows), ?_, installs_buildApps hunique⟩
  simp [updateApps, hpool, happs, bind, Except.bind, pure, Except.pure]

/-- A selected row has no column of the name its id is read by. -/
theorem IsSelected.readRow_eq {row : ρ} {appRow : AppRow} (hselected : IsSelected X cdrs row appRow)
    (hcdrs : cdrs.Documented) : readRow X cdrs row = .error .unwrap := by
  have hid : cdrs.rByName row "app_id" = none := by
    apply hcdrs.rByName_of_not_mem
    rw [hselected.columns]
    decide
  simp [readRow, hid, unwrap, bind, Except.bind]

/-- A refresh installs the applications the database answers with exactly when there
are none. -/
theorem updateApps_installs_iff (hcdrs : cdrs.Documented) {self : SharedRegistry}
    (hpool : self.hasPool = true) {rows : List ρ} {appRows : List AppRow}
    (hselected : List.Forall₂ (IsSelected X cdrs) rows appRows) :
    (∃ self', updateApps X cdrs self (.answered ⟨some ⟨some rows⟩⟩) = .ok (self', .ok ()) ∧
      Installs X appRows self'.apps) ↔ rows = [] := by
  cases hselected with
  | nil =>
      simp only [iff_true]
      exact updateApps_of_read hpool .nil List.nodup_nil
  | cons hrow hrows =>
      simp [updateApps, hpool, appsOf, hrow.readRow_eq hcdrs, bind, Except.bind]

/-- A row of the applications table. -/
def databaseRow : List (String × Reference.Column) :=
  [("id", .uuid Reference.appUuid), ("sdk_token", .text "46732a28cd44"), ("ios_api_secret", .null),
    ("android_api_secret", .null), ("web_api_secret", .null)]

theorem databaseRow_selected :
    IsSelected Reference.crates Reference.cdrs databaseRow Reference.row where
  columns := rfl
  id := ⟨Reference.appUuid, rfl, by decide +kernel⟩
  sdkToken := rfl
  iosSecret := rfl
  androidSecret := rfl
  webSecret := rfl

/-- An empty applications table is installed, one application is not. -/
theorem updateApps_installs_none :
    (∃ self', updateApps Reference.crates Reference.cdrs sharedRegistry
        (.answered ⟨some ⟨some []⟩⟩) = .ok (self', .ok ()) ∧
      Installs Reference.crates [] self'.apps) ∧
    ¬ ∃ self', updateApps Reference.crates Reference.cdrs sharedRegistry
        (.answered ⟨some ⟨some [databaseRow]⟩⟩) = .ok (self', .ok ()) ∧
      Installs Reference.crates [Reference.row] self'.apps :=
  ⟨(updateApps_installs_iff Reference.cdrs_documented rfl .nil).mpr rfl,
    (updateApps_installs_iff Reference.cdrs_documented rfl
      (.cons databaseRow_selected .nil)).not.mpr (List.cons_ne_nil _ _)⟩

/-- The refresh panics on the one row. -/
theorem updateApps_databaseRow :
    IsSelected Reference.crates Reference.cdrs databaseRow Reference.row ∧
      updateApps Reference.crates Reference.cdrs sharedRegistry
        (.answered ⟨some ⟨some [databaseRow]⟩⟩) = .error .unwrap :=
  ⟨databaseRow_selected, rfl⟩

end XorcGateway.AppRegistry
