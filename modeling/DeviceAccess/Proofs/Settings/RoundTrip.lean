import DeviceAccess.Proofs.Document.Record
import DeviceAccess.Proofs.KeyMap
import DeviceAccess.Proofs.Toml.Building
import DeviceAccess.Settings.Document

/-!
# Written settings read back

The file with some settings is read as just these settings, whatever they are: each text with all of
its characters, each name of a selector, any number of private hosts, and what is not set.

Between settings and file stands the document: the sections of a file build it, and the settings are
read from it section by section.

- `ofValue?_present` reads the settings from their document.
- `builds_sections` builds the tables of the document from the sections of the file.
- `parse_text` puts both together.
-/

namespace DeviceAccess.Settings

open Toml Record

/-! ## §1 Fields -/

/-- The fields of the choices of the user. -/
def accessFields (a : AccessChoice) : List (String × Option Value) :=
  [("device_certificate_authentication", some (.bool a.authentication)),
    ("device_certificate_selector", a.selector.map Value.string),
    ("private_service_connect_endpoint", a.privateEndpoint.map Value.string),
    ("psc_overrides", if a.overrides.isEmpty then none else some (.array (a.overrides.map fun o =>
      .object (present (overrideFields o)))))]
where
  /-- The fields of the private host of one service. -/
  overrideFields (o : ServiceOverride) : List (String × Option Value) :=
    [("canonical_host", some (.string o.service)), ("psc_host", some (.string o.privateHost))]

/-- The fields of what an administrator sets. -/
def ruleFields (r : AccessRule) : List (String × Option Value) :=
  [("device_certificate_authentication", r.authentication.map Value.bool),
    ("device_certificate_selector", r.selector.map Value.string),
    ("private_service_connect_endpoint", r.privateEndpoint.map Value.string)]

/-- The fields of the named selectors: a scope without any is not there. -/
def policyFields (p : PolicyLists) : List (String × Option Value) :=
  [("machine", selectorsValue p.machine), ("user", selectorsValue p.user)]
where
  /-- The table of the named selectors of a scope. -/
  selectorsValue (selectors : KeyMap String) : Option Value :=
    if selectors.isEmpty then none
    else some (.object (selectors.entries.map fun entry => (entry.1, Value.string entry.2)))

/-- The fields of the helper. -/
def helperFields (h : HelperSettings) : List (String × Option Value) :=
  [("enabled", some (.bool h.enabled)), ("host_name", some (.string h.hostName)),
    ("extension_id", some (.string h.extensionId)),
    ("manifest_path", h.manifestPath.map Value.string),
    ("executable", h.executable.map Value.string), ("min_version", h.minVersion.map Value.string)]

/-- The fields of logging. -/
def logFields (l : LogSettings) : List (String × Option Value) :=
  [("level", some (.string l.level.name)), ("json_format", some (.bool l.asJson)),
    ("path", l.path.map Value.string)]

/-- The sections of settings, each with its fields. -/
def documentFields (s : Settings) : List (String × Option Value) :=
  [("access", some (.object (present (accessFields s.access)))),
    ("policy", some (.object (present (policyFields s.policy)))),
    ("machine_policy", some (.object (present (ruleFields s.machineRule)))),
    ("user_policy", some (.object (present (ruleFields s.userRule)))),
    ("helper", some (.object (present (helperFields s.helper)))),
    ("logging", some (.object (present (logFields s.log))))]

theorem names_overrideFields (o : ServiceOverride) :
    (accessFields.overrideFields o).map Prod.fst = ["canonical_host", "psc_host"] := rfl

theorem names_accessFields (a : AccessChoice) :
    (accessFields a).map Prod.fst = ["device_certificate_authentication",
      "device_certificate_selector", "private_service_connect_endpoint", "psc_overrides"] := rfl

theorem names_ruleFields (r : AccessRule) :
    (ruleFields r).map Prod.fst = ["device_certificate_authentication",
      "device_certificate_selector", "private_service_connect_endpoint"] := rfl

theorem names_policyFields (p : PolicyLists) :
    (policyFields p).map Prod.fst = ["machine", "user"] := rfl

theorem names_helperFields (h : HelperSettings) :
    (helperFields h).map Prod.fst = ["enabled", "host_name", "extension_id", "manifest_path",
      "executable", "min_version"] := rfl

theorem names_logFields (l : LogSettings) :
    (logFields l).map Prod.fst = ["level", "json_format", "path"] := rfl

theorem names_documentFields (s : Settings) :
    (documentFields s).map Prod.fst = ["access", "policy", "machine_policy", "user_policy",
      "helper", "logging"] := rfl

/-! ## §2 Documents read back -/

theorem fieldsOf?_present {names : List String} {fields : List (String × Option Value)}
    (hnames : fields.map Prod.fst = names) (hnodup : names.Nodup) :
    fieldsOf? names (.object (present fields)) = some (fields.map Prod.snd) := by
  subst hnames
  exact fields?_present records hnodup

@[simp] theorem string?_string (text : String) : (Value.string text).string? = some text := rfl

@[simp] theorem bool?_bool (b : Bool) : (Value.bool b).bool? = some b := rfl

@[simp] theorem orDefault?_some {β : Type} (fallback : β) (read : Value → Option β) (v : Value) :
    orDefault? fallback read (some v) = read v := rfl

theorem optional?_map {β : Type} {read : Value → Option β} {write : β → Value}
    (h : ∀ b, read (write b) = some b) (o : Option β) :
    optional? read (o.map write) = some o := by
  cases o with
  | none => rfl
  | some b => simp [optional?, orDefault?, h]

@[simp] theorem optional?_map_string (o : Option String) :
    optional? Value.string? (o.map Value.string) = some o := optional?_map string?_string o

@[simp] theorem optional?_map_bool (o : Option Bool) :
    optional? Value.bool? (o.map Value.bool) = some o := optional?_map bool?_bool o

/-- What is left out where it is the default reads back as the default. -/
theorem orDefault?_unless {β : Type} {read : Value → Option β} {fallback b : β} {skip : Bool}
    {v : Value} (hskip : skip = true → b = fallback) (hread : read v = some b) :
    orDefault? fallback read (if skip then none else some v) = some b := by
  cases skip with
  | true => simp [orDefault?, hskip rfl]
  | false => simpa [orDefault?] using hread

theorem override?_present (o : ServiceOverride) :
    override? (.object (present (accessFields.overrideFields o))) = some o := by
  have hfields := fieldsOf?_present (names_overrideFields o) (by decide)
  simp only [override?, hfields]
  simp [accessFields.overrideFields]

theorem overrides?_map (os : List ServiceOverride) :
    overrides? (.array (os.map fun o => .object (present (accessFields.overrideFields o)))) =
      some os := by
  rw [overrides?, mapM_eq_some_iff, List.forall₂_map_left_iff, List.forall₂_same]
  exact fun o _ => override?_present o

theorem access?_present (a : AccessChoice) :
    access? (.object (present (accessFields a))) = some a := by
  have hfields := fieldsOf?_present (names_accessFields a) (by decide)
  have hempty : a.overrides.isEmpty = true → a.overrides = [] := List.isEmpty_iff.mp
  have hoverrides := orDefault?_unless hempty (overrides?_map a.overrides)
  simp only [access?, hfields]
  simp [accessFields, -List.isEmpty_iff, hoverrides]

theorem rule?_present (r : AccessRule) : rule? (.object (present (ruleFields r))) = some r := by
  have hfields := fieldsOf?_present (names_ruleFields r) (by decide)
  simp only [rule?, hfields]
  simp [ruleFields]

theorem texts?_entries (selectors : KeyMap String) :
    texts? (.object (selectors.entries.map fun entry => (entry.1, Value.string entry.2))) =
      some selectors := by
  have hmembers : (selectors.entries.map fun entry => (entry.1, Value.string entry.2)).mapM
      (KeyMap.readMember? Value.string?) = some selectors.entries := by
    rw [mapM_eq_some_iff, List.forall₂_map_left_iff, List.forall₂_same]
    exact fun _ _ => rfl
  rw [texts?, KeyMap.ofMembers?, hmembers, Option.map_some, KeyMap.ofList_entries]

theorem selectors_of_isEmpty {selectors : KeyMap String} (h : selectors.isEmpty = true) :
    selectors = .empty := by
  obtain ⟨entries, _⟩ := selectors
  obtain rfl : entries = [] := List.isEmpty_iff.mp h
  rfl

theorem policy?_present (p : PolicyLists) :
    policy? (.object (present (policyFields p))) = some p := by
  have hfields := fieldsOf?_present (names_policyFields p) (by decide)
  have hselectors (selectors : KeyMap String) :
      orDefault? .empty texts? (policyFields.selectorsValue selectors) = some selectors :=
    orDefault?_unless selectors_of_isEmpty (texts?_entries selectors)
  simp only [policy?, hfields]
  simp [policyFields, hselectors]

theorem helper?_present (h : HelperSettings) :
    helper? (.object (present (helperFields h))) = some h := by
  have hfields := fieldsOf?_present (names_helperFields h) (by decide)
  simp only [helper?, hfields]
  simp [helperFields]

theorem level?_name (level : LogLevel) : level? (Value.string level.name) = some level := by
  cases level <;> decide

theorem log?_present (l : LogSettings) : log? (.object (present (logFields l))) = some l := by
  have hfields := fieldsOf?_present (names_logFields l) (by decide)
  simp only [log?, hfields]
  simp [logFields, level?_name]

theorem ofValue?_present (s : Settings) :
    ofValue? (.object (present (documentFields s))) = some s := by
  have hfields := fieldsOf?_present (names_documentFields s) (by decide)
  simp only [ofValue?, hfields]
  simp [documentFields, access?_present, policy?_present, rule?_present, helper?_present,
    log?_present]

/-! ## §3 Sections -/

/-- The entries of a section are those of its fields that are set. -/
def HasFields (entries : List (String × Plain)) (fields : List (String × Option Value)) : Prop :=
  entries.map (fun entry => (entry.1, entry.2.toValue)) = present fields

theorem hasFields_boolEntry (key : String) (b : Option Bool) :
    HasFields (boolEntry key b) [(key, b.map Value.bool)] := by
  cases b <;> rfl

theorem hasFields_textEntry (key : String) (s : Option String) :
    HasFields (textEntry key s) [(key, s.map Value.string)] := by
  cases s <;> rfl

section

variable {entries more : List (String × Plain)} {fields others : List (String × Option Value)}

theorem HasFields.append (h : HasFields entries fields) (hmore : HasFields more others) :
    HasFields (entries ++ more) (fields ++ others) := by
  unfold HasFields at *
  rw [List.map_append, h, hmore, present_append]

theorem HasFields.members (h : HasFields entries fields) :
    Table.valueOf.members (written entries) = present fields := (members_written entries).trans h

theorem HasFields.names_sublist (h : HasFields entries fields) :
    (entries.map Prod.fst).Sublist (fields.map Prod.fst) := by
  have hnames : entries.map Prod.fst = (present fields).map Prod.fst := by
    rw [← h, List.map_map]
    rfl
  rw [hnames]
  exact map_fst_present_sublist fields

theorem HasFields.nodup (h : HasFields entries fields) {names : List String}
    (hnames : fields.map Prod.fst = names) (hnodup : names.Nodup) :
    (entries.map Prod.fst).Nodup := h.names_sublist.nodup (hnames ▸ hnodup)

theorem HasFields.isNew (h : HasFields entries fields) {names : List String}
    (hnames : fields.map Prod.fst = names) {key : String} (hkey : key ∉ names) :
    (written entries).IsNew key := by
  rw [Entries.IsNew, map_fst_written]
  exact fun hmem => hkey (hnames ▸ h.names_sublist.subset hmem)

end

/-- The entries of the choices of the user, without private hosts of services. -/
def accessEntries (a : AccessChoice) : List (String × Plain) :=
  boolEntry "device_certificate_authentication" (some a.authentication) ++
    textEntry "device_certificate_selector" a.selector ++
    textEntry "private_service_connect_endpoint" a.privateEndpoint

/-- The entries of the private host of one service. -/
def overrideEntries (o : ServiceOverride) : List (String × Plain) :=
  textEntry "canonical_host" (some o.service) ++ textEntry "psc_host" (some o.privateHost)

theorem hasFields_accessEntries (a : AccessChoice) :
    HasFields (accessEntries a) ((accessFields a).take 3) :=
  ((hasFields_boolEntry _ _).append (hasFields_textEntry _ _)).append (hasFields_textEntry _ _)

theorem hasFields_overrideEntries (o : ServiceOverride) :
    HasFields (overrideEntries o) (accessFields.overrideFields o) :=
  (hasFields_textEntry _ _).append (hasFields_textEntry _ _)

theorem hasFields_ruleSection (name : String) (r : AccessRule) :
    HasFields (ruleSection name r).entries (ruleFields r) :=
  ((hasFields_boolEntry _ _).append (hasFields_textEntry _ _)).append (hasFields_textEntry _ _)

theorem hasFields_helperSection (h : HelperSettings) :
    HasFields (helperSection h).entries (helperFields h) :=
  (((((hasFields_boolEntry _ _).append (hasFields_textEntry _ _)).append
    (hasFields_textEntry _ _)).append (hasFields_textEntry _ _)).append
    (hasFields_textEntry _ _)).append (hasFields_textEntry _ _)

theorem hasFields_logSection (l : LogSettings) :
    HasFields (logSection l).entries (logFields l) :=
  ((hasFields_textEntry _ _).append (hasFields_boolEntry _ _)).append (hasFields_textEntry _ _)

/-- The section with a record adds a table with its fields. -/
theorem builds_topSection {name : String} {before : Entries} (hname : before.IsNew name)
    {entries : List (String × Plain)} {fields : List (String × Option Value)}
    (h : HasFields entries fields) {names : List String} (hnames : fields.map Prod.fst = names)
    (hnodup : names.Nodup) :
    Builds before [topSection name entries]
      (before ++ [(name, .table .named (written entries))]) :=
  builds_table hname (h.nodup hnames hnodup)

/-- The table of the choices of the user: private hosts of services stand in a list behind them. -/
def accessTable (a : AccessChoice) : Entries :=
  written (accessEntries a) ++
    listEntry "psc_overrides" (a.overrides.map fun o => written (overrideEntries o))

theorem builds_accessSections (a : AccessChoice) :
    Builds [] (accessSections a) [("access", .table .named (accessTable a))] := by
  have hnew : Entries.IsNew "access" [] := by simp [Entries.IsNew]
  have hnames : ((accessFields a).take 3).map Prod.fst = ["device_certificate_authentication",
    "device_certificate_selector", "private_service_connect_endpoint"] := rfl
  have hfields := hasFields_accessEntries a
  have htable := builds_topSection hnew hfields hnames (by decide)
  have hoverrides : ∀ entries ∈ a.overrides.map overrideEntries, (entries.map Prod.fst).Nodup := by
    intro entries hentries
    obtain ⟨o, -, rfl⟩ := List.mem_map.mp hentries
    exact (hasFields_overrideEntries o).nodup (names_overrideFields o) (by decide)
  have hkey : (written (accessEntries a)).IsNew "psc_overrides" :=
    hfields.isNew hnames (by decide)
  -- the list begins with the first private host, and without any it is not there
  have hlists := builds_lists hnew hkey hoverrides []
  have hempty : listEntry "psc_overrides" [] = [] := rfl
  rw [hempty, List.append_nil, List.nil_append, List.nil_append, List.map_map,
    List.map_map] at hlists
  exact htable.append hlists

theorem members_accessTable (a : AccessChoice) :
    Table.valueOf.members (accessTable a) = present (accessFields a) := by
  have hsplit : accessFields a = (accessFields a).take 3 ++ (accessFields a).drop 3 :=
    (List.take_append_drop 3 _).symm
  rw [accessTable, members_append, (hasFields_accessEntries a).members, hsplit, present_append]
  congr 1
  have hoverride (o : ServiceOverride) := (hasFields_overrideEntries o).members
  cases hoverrides : a.overrides with
  | nil => simp [listEntry, accessFields, present, hoverrides, Table.valueOf.members]
  | cons o rest =>
    simp [listEntry, accessFields, present, hoverrides, Table.valueOf.members, Table.valueOf,
      lists_eq_map, hoverride]

/-- The entries of the named selectors of a scope. -/
def selectorEntries (selectors : KeyMap String) : List (String × Plain) :=
  selectors.entries.map fun (name, text) => (name, Plain.string text)

/-- The table of the named selectors of a scope, if it has any. -/
def scopeTable (scope : Scope) (selectors : KeyMap String) : Entries :=
  if selectors.isEmpty then []
  else [(scope.text, .table .named (written (selectorEntries selectors)))]

theorem builds_scopeSections {before inside : Entries} (hname : before.IsNew "policy")
    (scope : Scope) (hkey : inside.IsNew scope.text) (selectors : KeyMap String) :
    Builds (before ++ wayEntry "policy" inside) (scopeSections scope selectors)
      (before ++ wayEntry "policy" (inside ++ scopeTable scope selectors)) := by
  unfold scopeSections scopeTable
  split
  · rw [List.append_nil]
    exact .nil
  · have hkeys : (selectorEntries selectors).map Prod.fst = selectors.keys := by
      rw [selectorEntries, List.map_map]
      rfl
    exact builds_inside hname hkey (hkeys ▸ selectors.nodup_keys)

theorem builds_policySections {before : Entries} (hname : before.IsNew "policy")
    (p : PolicyLists) :
    ∃ origin, Builds before (policySections p) (before ++
      [("policy", .table origin (scopeTable .machine p.machine ++ scopeTable .user p.user))]) := by
  have hfirst : Entries.IsNew Scope.machine.text [] := by simp [Entries.IsNew]
  have hsecond : (scopeTable .machine p.machine).IsNew Scope.user.text := by
    unfold scopeTable
    split <;> simp [Entries.IsNew, Scope.text]
  have hmachine := builds_scopeSections hname .machine hfirst p.machine
  have huser := builds_scopeSections hname .user hsecond p.user
  by_cases hempty : p.machine.isEmpty = true ∧ p.user.isEmpty = true
  -- without selectors no header leads through the table, and it has one of its own
  · have htable : Builds before [topSection "policy" []]
        (before ++ [("policy", .table .named [])]) := builds_table hname .nil
    exact ⟨.named, by simpa [policySections, scopeSections, scopeTable, hempty] using htable⟩
  · have htables : scopeTable .machine p.machine ++ scopeTable .user p.user ≠ [] := by
      simpa [scopeTable, imp_iff_not_or, not_and_or] using hempty
    have hsections : policySections p =
        scopeSections .machine p.machine ++ scopeSections .user p.user := by
      refine if_neg ?_
      simpa [scopeSections, imp_iff_not_or, not_and_or] using hempty
    have hboth := hmachine.append huser
    rw [wayEntry_of_ne_nil _ htables, wayEntry, List.append_nil] at hboth
    exact ⟨.implied, hsections ▸ hboth⟩

theorem members_scopeTable (p : PolicyLists) :
    Table.valueOf.members (scopeTable .machine p.machine ++ scopeTable .user p.user) =
      present (policyFields p) := by
  have hscope (scope : Scope) (selectors : KeyMap String) :
      Table.valueOf.members (scopeTable scope selectors) =
        present [(scope.text, policyFields.selectorsValue selectors)] := by
    unfold scopeTable policyFields.selectorsValue
    split
    · rfl
    · simp [Table.valueOf.members, Table.valueOf, members_written, selectorEntries, present,
        Plain.toValue]
  rw [members_append, hscope, hscope, ← present_append]
  rfl

/-- The tables that a written file builds. -/
def tables (s : Settings) (origin : Origin) : Entries :=
  [("access", .table .named (accessTable s.access)),
    ("policy", .table origin
      (scopeTable .machine s.policy.machine ++ scopeTable .user s.policy.user)),
    ("machine_policy",
      .table .named (written (ruleSection "machine_policy" s.machineRule).entries)),
    ("user_policy", .table .named (written (ruleSection "user_policy" s.userRule).entries)),
    ("helper", .table .named (written (helperSection s.helper).entries)),
    ("logging", .table .named (written (logSection s.log).entries))]

theorem builds_ruleSection {before : Entries} {name : String} (hname : before.IsNew name)
    (r : AccessRule) :
    Builds before [ruleSection name r]
      (before ++ [(name, .table .named (written (ruleSection name r).entries))]) :=
  builds_topSection hname (hasFields_ruleSection name r) (names_ruleFields r) (by decide)

theorem builds_sections (s : Settings) : ∃ origin, Builds [] s.sections (tables s origin) := by
  have haccess := builds_accessSections s.access
  have hpolicyNew : Entries.IsNew "policy" [("access", .table .named (accessTable s.access))] := by
    simp [Entries.IsNew]
  obtain ⟨origin, hpolicy⟩ := builds_policySections hpolicyNew s.policy
  -- each of the other sections stands behind those that are written before it
  have hmachineNew : Entries.IsNew "machine_policy" ((tables s origin).take 2) := by
    simp [tables, Entries.IsNew]
  have huserNew : Entries.IsNew "user_policy" ((tables s origin).take 3) := by
    simp [tables, Entries.IsNew]
  have hhelperNew : Entries.IsNew "helper" ((tables s origin).take 4) := by
    simp [tables, Entries.IsNew]
  have hlogNew : Entries.IsNew "logging" ((tables s origin).take 5) := by
    simp [tables, Entries.IsNew]
  have hmachine := builds_ruleSection hmachineNew s.machineRule
  have huser := builds_ruleSection huserNew s.userRule
  have hhelper := builds_topSection hhelperNew (hasFields_helperSection s.helper)
    (names_helperFields s.helper) (by decide)
  have hlog := builds_topSection hlogNew (hasFields_logSection s.log) (names_logFields s.log)
    (by decide)
  have hrest := hmachine.append (huser.append (hhelper.append hlog))
  exact ⟨origin, (haccess.append hpolicy).append hrest⟩

theorem members_tables (s : Settings) (origin : Origin) :
    Table.valueOf.members (tables s origin) = present (documentFields s) := by
  simp [tables, Table.valueOf.members, Table.valueOf, members_accessTable, members_scopeTable,
    (hasFields_ruleSection _ _).members, (hasFields_helperSection _).members,
    (hasFields_logSection _).members, documentFields, present]

/-- **A written file is read as the document of the settings.** -/
theorem parse?_text (s : Settings) :
    Toml.parse? s.text = some (.object (present (documentFields s))) := by
  obtain ⟨origin, hbuilds⟩ := builds_sections s
  rw [text, parse?_of_builds hbuilds, members_tables]

/-- **Written settings are read back as they were.** -/
theorem parse_text (s : Settings) : parse s.text = .ok s := by
  rw [parse, parse?_text, Option.bind_some, ofValue?_present]

end DeviceAccess.Settings
