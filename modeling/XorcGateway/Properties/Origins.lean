/-
# Which configured origins are honoured

Each `[[origins]]` entry is inserted into the table under its application, and a
second entry of the same application replaces the first. So an origin is
honoured, in whatever order the entries are written, exactly when the entries of
its application agree on it.
-/

import XorcGateway.Reference

namespace XorcGateway

open Rust

/-- The configured entries of the application. -/
def Config.IsOriginEntry (config : Config) (appId : String) (entry : OriginConfig) : Prop :=
  entry ∈ config.origins.getD [] ∧ entry.appId = appId

/-- The origin is valid for the application if an entry lists it, and whether it
is valid does not depend on the order of the entries. -/
structure Cors.Honours (cors : Cors) (config : Config) (appId origin : String) : Prop where
  listed : (∃ entry, config.IsOriginEntry appId entry ∧ origin ∈ entry.allowed) →
    cors.validOrigin appId (some origin) = true
  order : ∀ config' cors', Cors.new config' = some cors' →
    (config'.origins.getD []).Perm (config.origins.getD []) →
      cors'.validOrigin appId (some origin) = cors.validOrigin appId (some origin)

namespace Cors

variable {config : Config} {cors : Cors} {appId origin : String}

/-- An origin that is valid is listed by some entry. -/
theorem exists_entry_of_validOrigin (hnew : Cors.new config = some cors)
    (hvalid : cors.validOrigin appId (some origin) = true) :
    ∃ entry, config.IsOriginEntry appId entry ∧ origin ∈ entry.allowed := by
  obtain ⟨o, appOrigins, ho, hallowed, hmem⟩ := validOrigin_iff.mp hvalid
  obtain rfl := Option.some.inj ho
  rw [allowedOrigins_of_new hnew] at hallowed
  obtain ⟨entry, hentry, happId, rfl⟩ := HashMap.exists_mem_of_foldl_insert_get hallowed
  exact ⟨entry, ⟨hentry, happId⟩, hmem⟩

/-- Where all entries of the application list the origin, it is valid if there is
such an entry. -/
theorem validOrigin_iff_of_all (hnew : Cors.new config = some cors)
    (hall : ∀ entry, config.IsOriginEntry appId entry → origin ∈ entry.allowed) :
    cors.validOrigin appId (some origin) = true ↔ ∃ entry, config.IsOriginEntry appId entry := by
  constructor
  · intro hvalid
    obtain ⟨entry, hentry, _⟩ := exists_entry_of_validOrigin hnew hvalid
    exact ⟨entry, hentry⟩
  · rintro ⟨entry, hentry⟩
    -- some entry decides, and it lists the origin as they all do
    have hsome : (allowedOriginsOf (config.origins.getD []) appId).isSome :=
      HashMap.foldl_insert_get_isSome_iff.mpr ⟨entry, hentry⟩
    obtain ⟨appOrigins, hallowed⟩ := Option.isSome_iff_exists.mp hsome
    obtain ⟨last, hlast, happId, rfl⟩ := HashMap.exists_mem_of_foldl_insert_get hallowed
    rw [← allowedOrigins_of_new hnew] at hallowed
    exact validOrigin_iff.mpr ⟨origin, last.allowed, rfl, hallowed, hall last ⟨hlast, happId⟩⟩

/-- Any entry of the application decides in some order of the entries. -/
theorem exists_order_of_entry (hnew : Cors.new config = some cors) {entry : OriginConfig}
    (hentry : config.IsOriginEntry appId entry) :
    ∃ config' cors', Cors.new config' = some cors' ∧
      (config'.origins.getD []).Perm (config.origins.getD []) ∧
      (cors'.validOrigin appId (some origin) = true ↔ origin ∈ entry.allowed) := by
  obtain ⟨hmem, rfl⟩ := hentry
  obtain ⟨origins', hperm, hlast⟩ :=
    HashMap.exists_perm_foldl_insert_get OriginConfig.appId OriginConfig.allowed hmem
  obtain ⟨corsConfig, hcors, rfl⟩ := Option.map_eq_some_iff.mp hnew
  have hnew' : Cors.new { config with origins := some origins' } = some {
      allowedOrigins := allowedOriginsOf origins'
      allowedMethods := corsConfig.allowedMethods
      allowedHeaders := corsConfig.allowedHeaders } := by
    simp [Cors.new, hcors]
  refine ⟨_, _, hnew', hperm, ?_⟩
  rw [validOrigin_iff]
  constructor
  · rintro ⟨o, appOrigins, ho, hallowed, hlisted⟩
    obtain rfl := Option.some.inj ho
    obtain rfl := Option.some.inj (hlast.symm.trans hallowed)
    exact hlisted
  · intro hlisted
    exact ⟨origin, entry.allowed, rfl, hlast, hlisted⟩

/-- Configurations with the same entries have the same of an application. -/
theorem isOriginEntry_congr {config' : Config}
    (hperm : (config'.origins.getD []).Perm (config.origins.getD [])) (entry : OriginConfig) :
    config'.IsOriginEntry appId entry ↔ config.IsOriginEntry appId entry :=
  and_congr_left fun _ => hperm.mem_iff

/-- An origin is honoured for an application exactly when all of the application's
entries list it or none does. -/
theorem honours_iff (hnew : Cors.new config = some cors) :
    cors.Honours config appId origin ↔
      (∀ entry, config.IsOriginEntry appId entry → origin ∈ entry.allowed) ∨
        ∀ entry, config.IsOriginEntry appId entry → origin ∉ entry.allowed := by
  constructor
  · intro hhonours
    by_cases hlisted : ∃ entry, config.IsOriginEntry appId entry ∧ origin ∈ entry.allowed
    · left
      intro entry hentry
      obtain ⟨config', cors', hnew', hperm, hdecides⟩ := exists_order_of_entry hnew hentry
      apply hdecides.mp
      rw [hhonours.order config' cors' hnew' hperm]
      exact hhonours.listed hlisted
    · right
      intro entry hentry hmem
      exact hlisted ⟨entry, hentry, hmem⟩
  · rintro (hall | hnone)
    · refine ⟨fun hlisted => ?_, fun config' cors' hnew' hperm => ?_⟩
      · obtain ⟨entry, hentry, _⟩ := hlisted
        exact (validOrigin_iff_of_all hnew hall).mpr ⟨entry, hentry⟩
      · have hall' : ∀ entry, config'.IsOriginEntry appId entry → origin ∈ entry.allowed :=
          fun entry hentry => hall entry ((isOriginEntry_congr hperm entry).mp hentry)
        rw [Bool.eq_iff_iff, validOrigin_iff_of_all hnew hall, validOrigin_iff_of_all hnew' hall']
        exact exists_congr (isOriginEntry_congr hperm)
    · have hinvalid : ∀ config' cors', Cors.new config' = some cors' →
          (config'.origins.getD []).Perm (config.origins.getD []) →
            cors'.validOrigin appId (some origin) = false := by
        intro config' cors' hnew' hperm
        rw [Bool.eq_false_iff]
        intro hvalid
        obtain ⟨entry, hentry, hmem⟩ := exists_entry_of_validOrigin hnew' hvalid
        exact hnone entry ((isOriginEntry_congr hperm entry).mp hentry) hmem
      refine ⟨fun hlisted => ?_, fun config' cors' hnew' hperm => ?_⟩
      · obtain ⟨entry, hentry, hmem⟩ := hlisted
        exact absurd hmem (hnone entry hentry)
      · rw [hinvalid config' cors' hnew' hperm, hinvalid config cors hnew (List.Perm.refl _)]

/-! ### An application with two entries -/

/-- Both entries list the shop, only the first one lists the blog. -/
def twoEntries : List OriginConfig :=
  [{ appId := Reference.appId, allowed := ["https://blog.example.com", "https://shop.example.com"] },
    { appId := Reference.appId, allowed := ["https://shop.example.com"] }]

def twoEntriesConfig : Config :=
  { Reference.corsGlobals.config with origins := some twoEntries }

def twoEntriesCors : Cors where
  allowedMethods := "POST,OPTIONS"
  allowedHeaders := "Content-Type"
  allowedOrigins := allowedOriginsOf twoEntries

/-- The origin of both entries is honoured. -/
theorem shop_honoured :
    twoEntriesCors.Honours twoEntriesConfig Reference.appId "https://shop.example.com" := by
  have hall : ∀ entry ∈ twoEntries, "https://shop.example.com" ∈ entry.allowed := by decide
  exact (honours_iff rfl).mpr (Or.inl fun entry hentry => hall entry hentry.1)

/-- That of the first entry alone is not: it is listed, and refused. -/
theorem blog_not_honoured :
    Cors.new twoEntriesConfig = some twoEntriesCors ∧
    (∃ entry, twoEntriesConfig.IsOriginEntry Reference.appId entry ∧
      "https://blog.example.com" ∈ entry.allowed) ∧
    twoEntriesCors.validOrigin Reference.appId (some "https://blog.example.com") = false ∧
    ¬ twoEntriesCors.Honours twoEntriesConfig Reference.appId "https://blog.example.com" := by
  have hlisted : ∃ entry, twoEntriesConfig.IsOriginEntry Reference.appId entry ∧
      "https://blog.example.com" ∈ entry.allowed :=
    ⟨_, ⟨List.mem_cons_self, rfl⟩, by decide⟩
  have hinvalid : twoEntriesCors.validOrigin Reference.appId (some "https://blog.example.com") =
      false := by decide
  refine ⟨rfl, hlisted, hinvalid, fun hhonours => ?_⟩
  cases hinvalid.symm.trans (hhonours.listed hlisted)

end Cors

end XorcGateway
