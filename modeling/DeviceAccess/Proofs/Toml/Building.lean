import Mathlib
import DeviceAccess.Proofs.Toml.Lines

/-!
# Tables that written sections build

What the statements of sections make of the tables that are there. A section adds at the end: under
a key of its own, in the table that was added last, or as one more table of a list in it.

- `IsPlace` says that a path leads to one table, with all others around it; `IsPlace.put`,
  `IsPlace.name` and `IsPlace.extend` are what the three kinds of statements do there.
- `Builds` says what a run of sections adds to the top level, with a law for each kind of section.
- `parse?_of_builds` reads a file whose sections build something.
-/

namespace DeviceAccess.Toml

open Table

/-! ## §1 Entries -/

/-- Entries in the making. -/
abbrev Entries := List (String × Entry)

/-- The key is none of those of the entries. -/
def Entries.IsNew (key : String) (entries : Entries) : Prop := key ∉ entries.map Prod.fst

variable {key : String} {before entries : Entries}

/-- Entries before the one that is changed stay as they are. -/
theorem alter_append (hkey : before.IsNew key) (f : Option Entry → Option Entry)
    (after : Entries) : alter f key (before ++ after) = (alter f key after).map (before ++ ·) := by
  induction before with
  | nil => exact Option.map_id'.symm
  | cons entry rest ih =>
    obtain ⟨k, e⟩ := entry
    simp only [Entries.IsNew, List.map_cons, List.mem_cons, not_or] at hkey
    obtain ⟨hne, hrest⟩ := hkey
    have hother : (k == key) = false := by simpa using Ne.symm hne
    simp only [List.cons_append, alter, hother, Bool.false_eq_true, if_false, ih hrest]
    cases alter f key after <;> rfl

/-- Changing what is not there adds it at the end. -/
theorem alter_new (hkey : before.IsNew key) (f : Option Entry → Option Entry) :
    alter f key before = (f none).map fun e => before ++ [(key, e)] := by
  have hend := alter_append hkey f []
  rw [List.append_nil] at hend
  rw [hend]
  cases h : f none <;> simp [alter, h]

theorem alter_last (hkey : before.IsNew key) (f : Option Entry → Option Entry) (e : Entry) :
    alter f key (before ++ [(key, e)]) = (f (some e)).map fun e' => before ++ [(key, e')] := by
  rw [alter_append hkey]
  cases h : f (some e) <;> simp [alter, h]

theorem alterLast_append {α : Type} (f : α → Option α) (xs : List α) (x : α) :
    alterLast f (xs ++ [x]) = (f x).map fun y => xs ++ [y] := by
  induction xs with
  | nil => rfl
  | cons first rest ih =>
    cases rest with
    | nil => cases h : f x <;> simp [alterLast, h]
    | cons next rest =>
      simp only [List.cons_append, alterLast] at ih ⊢
      rw [ih]
      cases f x <;> rfl

/-! ## §2 Places -/

/-- In a table with origin `outer` the path leads to a table with origin `inner`: whatever is done
to its entries is done there, and `plug` puts them back. -/
def IsPlace (outer : Origin) (path : List String) (inner : Origin) (plug : Entries → Entries) :
    Prop :=
  ∀ (f : Table → Option Table) (entries changed : Entries),
    f ⟨inner, entries⟩ = some ⟨inner, changed⟩ →
      descend .implied f path ⟨outer, plug entries⟩ = some ⟨outer, plug changed⟩

variable {outer inner : Origin} {path : List String} {plug : Entries → Entries}

theorem IsPlace.here : IsPlace inner [] inner id := fun _ _ _ h => h

theorem IsPlace.table {o : Origin} (h : IsPlace o path inner plug) (hkey : before.IsNew key) :
    IsPlace outer (key :: path) inner fun inside => before ++ [(key, .table o (plug inside))] := by
  intro f entries changed hf
  simp [descend, alter_last hkey, h f entries changed hf]

theorem IsPlace.list (h : IsPlace .named path inner plug) (hkey : before.IsNew key)
    (tables : List Entries) :
    IsPlace outer (key :: path) inner fun inside =>
      before ++ [(key, .list (tables ++ [plug inside]))] := by
  intro f entries changed hf
  simp [descend, alter_last hkey, alterLast_append, h f entries changed hf]

/-- A table on the way that is not there is made, and was empty. -/
theorem descend_new (hkey : before.IsNew key) (f : Table → Option Table) (path : List String) :
    descend .implied f (key :: path) ⟨outer, before⟩ =
      descend .implied f (key :: path) ⟨outer, before ++ [(key, .table .implied [])]⟩ := by
  simp [descend, alter_new hkey, alter_last hkey, Table.new]

/-! ## §3 Statements -/

theorem IsPlace.putIn (h : IsPlace outer path .named plug) (hkey : entries.IsNew key) (v : Value) :
    Table.putIn path [key] v ⟨outer, plug entries⟩ =
      some ⟨outer, plug (entries ++ [(key, .value v)])⟩ := by
  apply h
  simp [put, descend, alter_new hkey]

theorem IsPlace.name (h : IsPlace outer path inner plug) (hkey : entries.IsNew key) :
    Table.name (path ++ [key]) ⟨outer, plug entries⟩ =
      some ⟨outer, plug (entries ++ [(key, .table .named [])])⟩ := by
  simp only [Table.name, List.reverse_append, List.reverse_singleton, List.singleton_append,
    List.reverse_reverse]
  apply h
  simp [alter_new hkey]

/-- A list that is not written as long as it is empty. -/
def listEntry (key : String) : List Entries → Entries
  | [] => []
  | tables => [(key, .list tables)]

theorem IsPlace.extend (h : IsPlace outer path inner plug) (hkey : entries.IsNew key)
    (tables : List Entries) :
    Table.extend (path ++ [key]) ⟨outer, plug (entries ++ listEntry key tables)⟩ =
      some ⟨outer, plug (entries ++ listEntry key (tables ++ [[]]))⟩ := by
  simp only [Table.extend, List.reverse_append, List.reverse_singleton, List.singleton_append,
    List.reverse_reverse]
  apply h
  cases tables with
  | nil => simp [listEntry, alter_new hkey]
  | cons t rest => simp [listEntry, alter_last hkey]

/-! ## §4 Sections -/

/-- What the entries of a section are in a table. -/
def written (fields : List (String × Plain)) : Entries :=
  fields.map fun field => (field.1, .value field.2.toValue)

theorem map_fst_written (fields : List (String × Plain)) :
    (written fields).map Prod.fst = fields.map Prod.fst := by
  rw [written, List.map_map]
  rfl

theorem IsPlace.foldlM_entries (h : IsPlace outer path .named plug)
    {fields : List (String × Plain)}
    (hnodup : (entries.map Prod.fst ++ fields.map Prod.fst).Nodup) :
    (fields.map entryStatement).foldlM Building.step ⟨⟨outer, plug entries⟩, path⟩ =
      some ⟨⟨outer, plug (entries ++ written fields)⟩, path⟩ := by
  -- each entry stands behind those that were put there before it
  induction fields generalizing entries with
  | nil => simp [written]
  | cons field rest ih =>
    obtain ⟨key, p⟩ := field
    have hkey : entries.IsNew key := by
      intro hmem
      exact (List.nodup_append.mp hnodup).2.2 key hmem key List.mem_cons_self rfl
    have hstep : Building.step ⟨⟨outer, plug entries⟩, path⟩ (entryStatement (key, p)) =
        some ⟨⟨outer, plug (entries ++ [(key, .value p.toValue)])⟩, path⟩ := by
      simp [Building.step, entryStatement, h.putIn hkey]
    have hnext : ((entries ++ [(key, Entry.value p.toValue)]).map Prod.fst ++
        rest.map Prod.fst).Nodup := by
      simpa using hnodup
    have hrest := ih hnext
    rw [List.map_cons, List.foldlM_cons, hstep]
    simpa [written] using hrest

/-- From a top level with the entries `before`, the sections lead to one with the entries
`after`. -/
structure Builds (before : Entries) (sections : List Section) (after : Entries) : Prop where
  paths : ∀ s ∈ sections, s.path ≠ []
  run : ∀ header, ∃ last, (sections.flatMap Section.statements).foldlM Building.step
    ⟨⟨.named, before⟩, header⟩ = some ⟨⟨.named, after⟩, last⟩

theorem Builds.nil : Builds before [] before where
  paths := by simp
  run header := ⟨header, rfl⟩

theorem Builds.append {middle after : Entries} {first second : List Section}
    (hfirst : Builds before first middle) (hsecond : Builds middle second after) :
    Builds before (first ++ second) after where
  paths s hs := (List.mem_append.mp hs).elim (hfirst.paths s) (hsecond.paths s)
  run header := by
    obtain ⟨between, hbetween⟩ := hfirst.run header
    obtain ⟨last, hlast⟩ := hsecond.run between
    refine ⟨last, ?_⟩
    rw [List.flatMap_append, List.foldlM_append, hbetween]
    exact hlast

/-- The table that the header of a section makes. -/
def Section.make (s : Section) (t : Table) : Option Table :=
  if s.doubled then t.extend s.path else t.name s.path

theorem step_headStatement (s : Section) (t : Table) (header : List String) :
    Building.step ⟨t, header⟩ s.headStatement = (s.make t).map fun root => ⟨root, s.path⟩ := by
  unfold Section.headStatement Section.make
  split <;> rfl

/-- A section whose header makes an empty table fills it. -/
theorem builds_section {s : Section} (hpath : s.path ≠ [])
    (hplace : IsPlace .named s.path .named plug)
    (hmade : s.make ⟨.named, before⟩ = some ⟨.named, plug []⟩)
    (hnodup : (s.entries.map Prod.fst).Nodup) :
    Builds before [s] (plug (written s.entries)) where
  paths t ht := by
    rw [List.mem_singleton.mp ht]
    exact hpath
  run header := by
    have hempty : (([] : Entries).map Prod.fst ++ s.entries.map Prod.fst).Nodup := hnodup
    refine ⟨s.path, ?_⟩
    rw [List.flatMap_singleton, Section.statements, List.foldlM_cons, step_headStatement, hmade]
    exact hplace.foldlM_entries hempty

variable {name : String} {fields : List (String × Plain)}

/-- The place of a table that was added last. -/
theorem isPlace_last (hname : before.IsNew name) (o : Origin) :
    IsPlace .named [name] o fun inside => before ++ [(name, .table o inside)] :=
  IsPlace.here.table hname

theorem builds_table (hname : before.IsNew name) (hnodup : (fields.map Prod.fst).Nodup) :
    Builds before [⟨[name], false, fields⟩]
      (before ++ [(name, .table .named (written fields))]) :=
  builds_section (s := ⟨[name], false, fields⟩) (List.cons_ne_nil name [])
    (isPlace_last hname .named) (IsPlace.here.name hname) hnodup

theorem listEntry_append (key : String) (tables : List Entries) (t : Entries) :
    listEntry key (tables ++ [t]) = [(key, .list (tables ++ [t]))] := by
  cases tables <;> rfl

/-- Doubled sections add to a list in the table that was added last. -/
theorem builds_lists (hname : before.IsNew name) (hkey : entries.IsNew key)
    {lists : List (List (String × Plain))}
    (hnodup : ∀ fields ∈ lists, (fields.map Prod.fst).Nodup) (tables : List Entries) :
    Builds (before ++ [(name, .table .named (entries ++ listEntry key tables))])
      (lists.map fun fields => ⟨[name, key], true, fields⟩)
      (before ++ [(name, .table .named
        (entries ++ listEntry key (tables ++ lists.map written)))]) := by
  induction lists generalizing tables with
  | nil => simpa using Builds.nil
  | cons fields rest ih =>
    have hplace : IsPlace .named [name, key] .named fun inside =>
        before ++ [(name, .table .named (entries ++ [(key, .list (tables ++ [inside]))]))] :=
      (IsPlace.here.list hkey tables).table hname
    have hmade := (isPlace_last hname .named).extend hkey tables
    rw [listEntry_append] at hmade
    have hfirst := builds_section (s := ⟨[name, key], true, fields⟩)
      (List.cons_ne_nil name [key]) hplace hmade (hnodup fields List.mem_cons_self)
    have hrest := ih (fun other hother => hnodup other (List.mem_cons_of_mem fields hother))
      (tables ++ [written fields])
    rw [listEntry_append] at hrest
    simpa using hfirst.append hrest

/-- A table that is on the way only is not there as long as nothing is in it. -/
def wayEntry (name : String) : Entries → Entries
  | [] => []
  | inside => [(name, .table .implied inside)]

theorem wayEntry_of_ne_nil (name : String) (h : entries ≠ []) :
    wayEntry name entries = [(name, .table .implied entries)] := by
  cases entries with
  | nil => exact absurd rfl h
  | cons entry rest => rfl

/-- A section with a path of two names adds to a table that is on the way only. -/
theorem builds_inside (hname : before.IsNew name) (hkey : entries.IsNew key)
    (hnodup : (fields.map Prod.fst).Nodup) :
    Builds (before ++ wayEntry name entries) [⟨[name, key], false, fields⟩]
      (before ++ wayEntry name (entries ++ [(key, .table .named (written fields))])) := by
  have hplace : IsPlace .named [name, key] .named fun inside =>
      before ++ [(name, .table .implied (entries ++ [(key, .table .named inside)]))] :=
    (IsPlace.here.table hkey).table hname
  have hlast := (isPlace_last hname .implied).name hkey
  have hmade : Table.name [name, key] ⟨.named, before ++ wayEntry name entries⟩ =
      some ⟨.named, before ++
        [(name, .table .implied (entries ++ [(key, .table .named [])]))]⟩ := by
    cases entries with
    | nil =>
      -- the first section makes the table on the way
      have hway : Table.name [name, key] ⟨.named, before⟩ =
          Table.name [name, key] ⟨.named, before ++ [(name, .table .implied [])]⟩ :=
        descend_new hname _ []
      rw [wayEntry, List.append_nil, hway]
      exact hlast
    | cons entry rest => exact hlast
  have hinside : entries ++ [(key, .table .named (written fields))] ≠ [] :=
    List.append_ne_nil_of_right_ne_nil entries (List.cons_ne_nil _ _)
  rw [wayEntry_of_ne_nil name hinside]
  exact builds_section (s := ⟨[name, key], false, fields⟩) (List.cons_ne_nil name [key]) hplace
    hmade hnodup

/-! ## §5 Documents -/

theorem members_append (first second : Entries) :
    valueOf.members (first ++ second) = valueOf.members first ++ valueOf.members second := by
  induction first with
  | nil => rfl
  | cons entry rest ih => simp [valueOf.members, ih]

theorem members_written (fields : List (String × Plain)) :
    valueOf.members (written fields) = fields.map fun field => (field.1, field.2.toValue) := by
  induction fields with
  | nil => rfl
  | cons field rest ih =>
    have hrest : valueOf.members (written (field :: rest)) =
        (field.1, field.2.toValue) :: valueOf.members (written rest) := rfl
    rw [hrest, ih, List.map_cons]

theorem lists_eq_map (tables : List Entries) :
    valueOf.lists tables = tables.map fun t => .object (valueOf.members t) := by
  induction tables with
  | nil => rfl
  | cons t rest ih => simp [valueOf.lists, ih]

/-- The document of a file is what its sections build. -/
theorem parse?_of_builds {sections : List Section} {after : Entries}
    (h : Builds [] sections after) :
    parse? (writeSections sections) = some (.object (valueOf.members after)) := by
  obtain ⟨last, hlast⟩ := h.run []
  have hbuilt : (sections.flatMap Section.statements).foldlM Building.step
      ⟨Table.new .named, []⟩ = some ⟨⟨.named, after⟩, last⟩ := hlast
  rw [parse?_writeSections h.paths, documentOf?, hbuilt]
  rfl

end DeviceAccess.Toml
