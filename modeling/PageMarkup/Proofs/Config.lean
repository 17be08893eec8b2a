import PageMarkup.Config
import PageMarkup.Proofs.Toml.Lines

/-!
# Configurations that were saved

A configuration is saved with its path as it is meant, and a saved file is read like any other:
every other field is read back as it is, and the path is taken as written once more.  So a
configuration comes back from its file just where taking its path as written changes nothing, which
is so for every path that refers to nothing and for every path that names a missing variable, but
not for a path with a dollar sign that stands for itself.
-/

namespace PageMarkup

open Text

namespace Expansion

variable {environment : Environment}

/-- A path that refers to nothing: it has no dollar sign and begins with no tilde. -/
def IsPlain (path : List Char) : Prop :=
  '$' ∉ path ∧ path.head? ≠ some '~'

/-- Without a dollar sign there is nothing to replace. -/
theorem variables?_of_not_mem {path : List Char} (h : '$' ∉ path) :
    variables? environment path = some path := by
  have hnone : ∀ c ∈ path, ∀ cs, readReference (c :: cs) = none := by
    intro c hc cs
    have hne : c ≠ '$' := by
      rintro rfl
      exact h hc
    rw [readReference]
    · simp [hne]
    · simp [hne]
    · simp [hne]
  have hscan := scan_append_of_forall hnone []
  rw [List.append_nil, scan_nil, List.append_nil] at hscan
  have hparts : ∀ cs : List Char, (cs.map Piece.char).mapM (partValue? environment) =
      some (cs.map fun c => [c]) := by
    intro cs
    induction cs with
    | nil => rfl
    | cons c cs ih => simp [partValue?, ih]
  have hflatten : (path.map fun c => [c]).flatten = path := by
    simp [← List.flatMap_def]
  rw [variables?, hscan, hparts, Option.map_some, hflatten]

/-- A path that refers to nothing is meant as it is written. -/
theorem expand_of_isPlain {path : String} (h : IsPlain path.toList) :
    expand environment path = path := by
  rw [expand, variables?_of_not_mem h.1]
  simp [h.2]

/-- A path that names a missing variable stays as it is written. -/
theorem expand_of_missing {path : String} (h : variables? environment path.toList = none) :
    expand environment path = path := by
  rw [expand, h]

end Expansion

namespace Config

variable {environment : Environment}

/-! ### Fields in reach -/

/-- The numbers of a configuration have 64 bits. -/
def IsInReach (config : Config) : Prop :=
  config.payloadLimit < 2 ^ 64 ∧ config.site.timeout < 2 ^ 64

theorem getD_lt {value : Option Toml} {found : Option Nat} {start : Nat} (hstart : start < 2 ^ 64)
    (h : Toml.optional? Toml.unsigned64? value = some found) : found.getD start < 2 ^ 64 := by
  cases value with
  | none =>
    obtain rfl : none = found := Option.some.inj h
    exact hstart
  | some value =>
    obtain ⟨n, hn, rfl⟩ := Option.map_eq_some_iff.mp h
    unfold Toml.unsigned64? at hn
    split at hn
    · split_ifs at hn with hlt
      exact Option.some.inj hn ▸ hlt
    · exact absurd hn (by simp)

theorem timeout_lt_of_ofValues? {values : List (Option Toml)} {site : SiteConfig}
    (h : SiteConfig.ofValues? values = some site) : site.timeout < 2 ^ 64 := by
  unfold SiteConfig.ofValues? at h
  split at h
  · simp only [Option.bind_eq_bind, Option.bind_eq_some_iff, Option.pure_def, Option.some.injEq]
      at h
    obtain ⟨_, _, _, _, _, _, _, _, timeout, htimeout, rfl⟩ := h
    exact getD_lt (by decide) htimeout
  · exact absurd h (by simp)

theorem timeout_lt_of_ofToml? {value : Toml} {site : SiteConfig}
    (h : SiteConfig.ofToml? value = some site) : site.timeout < 2 ^ 64 := by
  unfold SiteConfig.ofToml? at h
  split at h
  · split_ifs at h
    exact timeout_lt_of_ofValues? h
  · exact timeout_lt_of_ofValues? h
  · exact absurd h (by simp)

theorem isInReach_of_ofToml? {fields : Toml.Fields} {config : Config}
    (h : ofToml? fields = some config) : config.IsInReach := by
  unfold ofToml? at h
  split_ifs at h
  · exact absurd h (by simp)
  simp only [Option.bind_eq_bind, Option.bind_eq_some_iff, Option.pure_def, Option.some.injEq] at h
  obtain ⟨_, _, _, _, limit, hlimit, value, _, site, hsite, rfl⟩ := h
  exact ⟨getD_lt (by decide) hlimit, timeout_lt_of_ofToml? hsite⟩

/-- What is read has its numbers in reach. -/
theorem isInReach_of_read? {source : String} {config : Config}
    (h : read? environment source = some config) : config.IsInReach := by
  simp only [read?, Option.bind_eq_bind, Option.bind_eq_some_iff, Option.some.injEq] at h
  obtain ⟨fields, -, written, hwritten, rfl⟩ := h
  have hreach := isInReach_of_ofToml? hwritten
  exact ⟨hreach.1, hreach.2⟩

/-! ### Reading what was printed -/

open Toml (Spells IsBareName IsLineValue)

/-- Give a key a text, if there is one. -/
def withOptional (name : String) (value : Option String) (fields : Toml.Fields) : Toml.Fields :=
  match value with
  | none => fields
  | some text => Dict.insert name (.text text) fields

theorem get?_withOptional_self {name : String} {fields : Toml.Fields} (value : Option String)
    (h : Dict.get? name fields = none) :
    Dict.get? name (withOptional name value fields) = value.map .text := by
  cases value with
  | none => exact h
  | some text => exact Dict.get?_insert_self _ _ _

theorem get?_withOptional_of_ne {name other : String} (hne : other ≠ name) (value : Option String)
    (fields : Toml.Fields) :
    Dict.get? other (withOptional name value fields) = Dict.get? other fields := by
  cases value with
  | none => rfl
  | some text => exact Dict.get?_insert_of_ne hne _ _

theorem fieldsInReach_withOptional {name : String} {fields : Toml.Fields} (value : Option String)
    (h : Toml.fieldsInReach fields = true) :
    Toml.fieldsInReach (withOptional name value fields) = true := by
  cases value with
  | none => exact h
  | some text => exact Toml.fieldsInReach_insert rfl h

section Lines

variable {name header : String} {fields inner spelt : Toml.Fields} {rest : List Char}

theorem spells_fieldLine {draft : Toml.Draft} {source : List Char} {value : Toml}
    {assigned : Toml.Fields} (hname : IsBareName name) (hvalue : IsLineValue source value)
    (hassign : Toml.assignAt draft.header [name] value draft.fields = some assigned)
    (h : Spells { draft with fields := assigned } rest spelt) :
    Spells draft (fieldLine name source ++ rest) spelt := by
  have hline := Spells.field hname hvalue hassign h
  simpa [fieldLine] using hline

theorem spells_innerLine {source : List Char} {value : Toml} (hname : IsBareName name)
    (hvalue : IsLineValue source value) (hnone : Dict.get? name inner = none)
    (h : Spells
      ⟨Dict.insert header (.table .header (Dict.insert name value inner)) fields, [header]⟩
      rest spelt) :
    Spells ⟨Dict.insert header (.table .header inner) fields, [header]⟩
      (fieldLine name source ++ rest) spelt := by
  have hline := Spells.innerField hname hvalue hnone h
  simpa [fieldLine] using hline

theorem spells_optionalLine {value : Option String} (hname : IsBareName name)
    (hnone : Dict.get? name inner = none)
    (h : Spells
      ⟨Dict.insert header (.table .header (withOptional name value inner)) fields, [header]⟩
      rest spelt) :
    Spells ⟨Dict.insert header (.table .header inner) fields, [header]⟩
      (print.optionalLine name value ++ rest) spelt := by
  cases value with
  | none => exact h
  | some text => exact spells_innerLine hname (Toml.isLineValue_string text) hnone h

end Lines

variable {config : Config}

/-- The fields of a configuration before the first header. -/
def topFields (config : Config) : Toml.Fields :=
  Dict.insert "log_payload_limit" (.integer config.payloadLimit)
    (Dict.insert "store_path" (.text config.storePath) [])

/-- The fields for the site. -/
def siteFields (site : SiteConfig) : Toml.Fields :=
  Dict.insert "timeout_secs" (.integer site.timeout)
    (withOptional "app_password_env" site.passwordVariable
      (withOptional "username" site.username (Dict.insert "base_url" (.text site.baseUrl) [])))

/-- A printed configuration spells its fields. -/
theorem toml_read?_print (h : config.IsInReach) :
    Toml.read? config.print = some
      (Dict.insert "site" (.table .header (siteFields config.site)) config.topFields) := by
  have hlimit := Toml.isLineValue_toDigits (show config.payloadLimit < 2 ^ 128 by
    have := h.1
    omega)
  have htimeout := Toml.isLineValue_toDigits (show config.site.timeout < 2 ^ 128 by
    have := h.2
    omega)
  have hshape : config.print.toList = fieldLine "store_path" (Toml.string config.storePath) ++
      (fieldLine "log_payload_limit" (Nat.toDigits 10 config.payloadLimit) ++
        ('\n' :: ('[' :: "site".toList ++ [']'] ++ '\n' ::
          (fieldLine "base_url" (Toml.string config.site.baseUrl) ++
            (print.optionalLine "username" config.site.username ++
              (print.optionalLine "app_password_env" config.site.passwordVariable ++
                (fieldLine "timeout_secs" (Nat.toDigits 10 config.site.timeout) ++ []))))))) := by
    simp [print]
  refine Spells.read? ?_ (by rw [hshape]; simp [fieldLine])
  rw [hshape]
  -- line by line; that no key is given twice is what each line leaves to be seen
  refine spells_fieldLine (by decide) (Toml.isLineValue_string _)
    (Toml.assignAt_nil _ (Dict.get?_nil _)) ?_
  refine spells_fieldLine (by decide) hlimit (Toml.assignAt_nil _ ?_) ?_
  · rw [Dict.get?_insert_of_ne (by decide), Dict.get?_nil]
  refine Spells.blank (Spells.opened (by decide) (Toml.openTable_singleton ?_) ?_)
  · rw [Dict.get?_insert_of_ne (by decide), Dict.get?_insert_of_ne (by decide), Dict.get?_nil]
  refine spells_innerLine (by decide) (Toml.isLineValue_string _) (Dict.get?_nil _) ?_
  refine spells_optionalLine (by decide) ?_ ?_
  · rw [Dict.get?_insert_of_ne (by decide), Dict.get?_nil]
  refine spells_optionalLine (by decide) ?_ ?_
  · rw [get?_withOptional_of_ne (by decide), Dict.get?_insert_of_ne (by decide), Dict.get?_nil]
  refine spells_innerLine (by decide) htimeout ?_ (Toml.spells_nil _)
  rw [get?_withOptional_of_ne (by decide), get?_withOptional_of_ne (by decide),
    Dict.get?_insert_of_ne (by decide), Dict.get?_nil]

theorem unsigned64?_integer {n : Nat} (h : n < 2 ^ 64) :
    Toml.unsigned64? (.integer n) = some n := if_pos h

/-- A text that may be missing is found as it is. -/
theorem optional?_map_text (value : Option String) :
    Toml.optional? Toml.text? (value.map .text) = some value := by
  cases value with
  | none => rfl
  | some text => rfl

/-- The fields of a site by name. -/
theorem map_get?_siteFields (site : SiteConfig) :
    SiteConfig.fieldNames.map (Dict.get? · (siteFields site)) =
      [some (.text site.baseUrl), site.username.map .text, site.passwordVariable.map .text,
        some (.integer site.timeout)] := by
  have hbase : Dict.get? "base_url" (siteFields site) = some (.text site.baseUrl) := by
    rw [siteFields, Dict.get?_insert_of_ne (by decide), get?_withOptional_of_ne (by decide),
      get?_withOptional_of_ne (by decide), Dict.get?_insert_self]
  have hname : Dict.get? "username" (siteFields site) = site.username.map .text := by
    rw [siteFields, Dict.get?_insert_of_ne (by decide), get?_withOptional_of_ne (by decide)]
    refine get?_withOptional_self _ ?_
    rw [Dict.get?_insert_of_ne (by decide), Dict.get?_nil]
  have hpassword : Dict.get? "app_password_env" (siteFields site) =
      site.passwordVariable.map .text := by
    rw [siteFields, Dict.get?_insert_of_ne (by decide)]
    refine get?_withOptional_self _ ?_
    rw [get?_withOptional_of_ne (by decide), Dict.get?_insert_of_ne (by decide), Dict.get?_nil]
  have htimeout : Dict.get? "timeout_secs" (siteFields site) = some (.integer site.timeout) := by
    rw [siteFields, Dict.get?_insert_self]
  simp [SiteConfig.fieldNames, hbase, hname, hpassword, htimeout]

/-- A site is told from its fields. -/
theorem site_ofToml?_fields {site : SiteConfig} (h : site.timeout < 2 ^ 64) :
    SiteConfig.ofToml? (.table .header (siteFields site)) = some site := by
  have hreach : Toml.fieldsInReach (siteFields site) = true :=
    Toml.fieldsInReach_insert rfl <| fieldsInReach_withOptional _ <|
      fieldsInReach_withOptional _ <| Toml.fieldsInReach_insert rfl rfl
  have htimeout : Toml.optional? Toml.unsigned64? (some (.integer site.timeout)) =
      some (some site.timeout) := by
    rw [Toml.optional?, unsigned64?_integer h]
    rfl
  rw [SiteConfig.ofToml?, if_pos hreach, map_get?_siteFields, SiteConfig.ofValues?,
    optional?_map_text, optional?_map_text, htimeout]
  rfl

/-- A configuration is told from its fields. -/
theorem ofToml?_fields (h : config.IsInReach) :
    ofToml? (Dict.insert "site" (.table .header (siteFields config.site)) config.topFields) =
      some config := by
  have hsite : Dict.get? "site" config.topFields = none := by
    rw [topFields, Dict.get?_insert_of_ne (by decide), Dict.get?_insert_of_ne (by decide),
      Dict.get?_nil]
  have hreach : Toml.fieldsInReach config.topFields = true :=
    Toml.fieldsInReach_insert rfl (Toml.fieldsInReach_insert rfl rfl)
  have hpath : Dict.get? "store_path"
      (Dict.insert "site" (.table .header (siteFields config.site)) config.topFields) =
      some (.text config.storePath) := by
    rw [Dict.get?_insert_of_ne (by decide), topFields, Dict.get?_insert_of_ne (by decide),
      Dict.get?_insert_self]
  have hlimit : Dict.get? "log_payload_limit"
      (Dict.insert "site" (.table .header (siteFields config.site)) config.topFields) =
      some (.integer config.payloadLimit) := by
    rw [Dict.get?_insert_of_ne (by decide), topFields, Dict.get?_insert_self]
  rw [ofToml?, Dict.erase_insert _ hsite, hreach, hpath, hlimit, Dict.get?_insert_self]
  simp [Toml.text?, Toml.optional?, unsigned64?_integer h.1, site_ofToml?_fields h.2]

/-- A printed configuration is read as what it is, but that its path is taken as written. -/
theorem read?_print (h : config.IsInReach) :
    read? environment config.print =
      some { config with storePath := Expansion.expand environment config.storePath } := by
  rw [read?, toml_read?_print h]
  simp [ofToml?_fields h]

/-! ### Saving and loading -/

/-- A configuration that was loaded and saved is loaded again with every field as it was, but for
its path, which is taken as written once more.  It comes back as it was just where this changes
nothing; so does every configuration whose path refers to nothing or names a missing variable. -/
theorem load_print {path source : String}
    (h : load environment path (some (.text source)) = .ok (some config)) :
    load environment path (some (.text config.print)) =
        .ok (some { config with storePath := Expansion.expand environment config.storePath }) ∧
      (load environment path (some (.text config.print)) = .ok (some config) ↔
        Expansion.expand environment config.storePath = config.storePath) ∧
      (Expansion.IsPlain config.storePath.toList ∨
          Expansion.variables? environment config.storePath.toList = none →
        load environment path (some (.text config.print)) = .ok (some config)) := by
  have hread : read? environment source = some config := by
    rw [load] at h
    cases hfound : read? environment source with
    | none =>
      rw [hfound] at h
      cases h
    | some found =>
      rw [hfound] at h
      exact Except.ok.inj h
  have hload : load environment path (some (.text config.print)) =
      .ok (some { config with storePath := Expansion.expand environment config.storePath }) := by
    rw [load, read?_print (isInReach_of_read? hread)]
  have hiff : load environment path (some (.text config.print)) = .ok (some config) ↔
      Expansion.expand environment config.storePath = config.storePath := by
    rw [hload]
    constructor
    · intro heq
      exact congrArg storePath (Option.some.inj (Except.ok.inj heq))
    · intro heq
      rw [heq]
  refine ⟨hload, hiff, ?_⟩
  rintro (hplain | hmissing)
  · exact hiff.mpr (Expansion.expand_of_isPlain hplain)
  · exact hiff.mpr (Expansion.expand_of_missing hmissing)

/-- A path may name a variable, whose value need not refer to anything. -/
theorem load_print_of_variable :
    load [("ROOT", "/srv")] "config.toml" (some (.text
        "store_path = \"$ROOT/pages\"\n[site]\nbase_url = \"https://x.test\"\n")) =
        .ok (some { storePath := "/srv/pages", site := { baseUrl := "https://x.test" } }) ∧
      load [("ROOT", "/srv")] "config.toml" (some (.text
          (print { storePath := "/srv/pages", site := { baseUrl := "https://x.test" } }))) =
        .ok (some { storePath := "/srv/pages", site := { baseUrl := "https://x.test" } }) := by
  have hload : load [("ROOT", "/srv")] "config.toml" (some (.text
      "store_path = \"$ROOT/pages\"\n[site]\nbase_url = \"https://x.test\"\n")) =
      .ok (some { storePath := "/srv/pages", site := { baseUrl := "https://x.test" } }) := by
    decide +kernel
  exact ⟨hload, (load_print hload).2.2 (.inl (by unfold Expansion.IsPlain; decide))⟩

/-- A doubled dollar sign is one in the path that is meant and saved, and that one begins a
reference when the saved file is read. -/
theorem load_print_of_doubled :
    load [("HOME", "/home/me")] "config.toml" (some (.text
        "store_path = \"$$HOME/pages\"\n[site]\nbase_url = \"https://x.test\"\n")) =
        .ok (some { storePath := "$HOME/pages", site := { baseUrl := "https://x.test" } }) ∧
      load [("HOME", "/home/me")] "config.toml" (some (.text
          (print { storePath := "$HOME/pages", site := { baseUrl := "https://x.test" } }))) =
        .ok (some { storePath := "/home/me/pages", site := { baseUrl := "https://x.test" } }) := by
  have hreach : IsInReach
      { storePath := "$HOME/pages", site := { baseUrl := "https://x.test" } } := by
    unfold IsInReach
    decide
  refine ⟨by decide +kernel, ?_⟩
  rw [load, read?_print hreach]
  decide +kernel

end Config

end PageMarkup
