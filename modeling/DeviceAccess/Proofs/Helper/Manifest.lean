import Mathlib
import DeviceAccess.Helper.Manifest
import DeviceAccess.Proofs.Document.Record
import DeviceAccess.Proofs.Files
import DeviceAccess.Proofs.Json.Strict

/-!
# Which manifest names the helper

A manifest counts if its document can be read, if it is of the standard kind and for the host that is
looked for, and if the extension may talk to the helper. The helper is the program of the first
manifest that counts; whatever is wrong with the ones before it, they are passed over.

- `Manifest.IsWritten` says what the document of a manifest looks like, in both of its forms.
- `ManifestSearch.Fits` lists all that is asked of the manifest at a path.
- `Manifest.RunsFrom` says where the program of a manifest is.
- `ManifestSearch.locate_first` puts them together.
-/

namespace DeviceAccess

open Record Text

namespace Manifest

/-! ## §1 Documents -/

/-- A text in quotes and its meaning. -/
inductive IsText : Json.Shape → String → Prop where
  | quoted {spelling : List Char} {text : String} (h : Json.key? spelling = some text) :
      IsText (.leaf (.string spelling)) text

/-- The extensions that are listed. Where there is no list there are none. -/
inductive AreOrigins : Option Json.Shape → List String → Prop where
  | missing : AreOrigins none []
  | listed {items : List Json.Shape} {origins : List String}
      (h : List.Forall₂ IsText items origins) : AreOrigins (some (.array items)) origins

/-- A document with the fields of a manifest, of which only the origins may be missing. -/
inductive HasFields : Json.Shape → (name path kind : Json.Shape) → (origins : Option Json.Shape) →
    Prop where
  /-- Each field is there once, and so may be others, as long as their keys can be read. -/
  | object {members : List (List Char × Json.Shape)} {name path kind : Json.Shape}
      {origins : Option Json.Shape} (hkeys : ∀ m ∈ members, (Json.key? m.1).isSome)
      (hname : valuesOf Json.key? "name" members = [name])
      (hpath : valuesOf Json.key? "path" members = [path])
      (hkind : valuesOf Json.key? "type" members = [kind])
      (horigins : valuesOf Json.key? "allowed_origins" members = origins.toList) :
      HasFields (.object members) name path kind origins
  /-- The fields stand in their order. -/
  | array (name path kind : Json.Shape) (origins : Option Json.Shape) :
      HasFields (.array ([name, path, kind] ++ origins.toList)) name path kind origins

/-- The document is that of the manifest. -/
def IsWritten (m : Manifest) (document : Json.Shape) : Prop :=
  ∃ name path kind origins, HasFields document name path kind origins ∧ IsText name m.name ∧
    IsText path m.path ∧ IsText kind m.kind ∧ AreOrigins origins m.allowedOrigins

theorem string?_eq_some_iff {shape : Json.Shape} {text : String} :
    Json.Shape.string? shape = some text ↔ IsText shape text := by
  constructor
  · intro h
    cases shape with
    | leaf s =>
      cases s with
      | string spelling => exact .quoted h
      | null => cases h
      | bool b => cases h
      | number spelling => cases h
    | array items => cases h
    | object members => cases h
  · rintro ⟨h⟩
    exact h

theorem origins_eq_some_iff {shape : Option Json.Shape} {origins : List String} :
    orDefault? [] texts? shape = some origins ↔ AreOrigins shape origins := by
  constructor
  · intro h
    cases shape with
    | none =>
      cases h
      exact .missing
    | some t =>
      cases t with
      | leaf s => cases h
      | array items =>
        have hitems := mapM_eq_some_iff.mp h
        exact .listed (hitems.imp fun _ _ => string?_eq_some_iff.mp)
      | object members => cases h
  · intro h
    cases h with
    | missing => rfl
    | listed h => exact mapM_eq_some_iff.mpr (h.imp fun _ _ => string?_eq_some_iff.mpr)

theorem admitsKey_once (names : List String) (key : Option String) :
    admitsKey .once names key = key.isSome := by
  cases key <;> rfl

/-- The names of the fields. -/
def fieldNames : List String := ["name", "path", "type", "allowed_origins"]

/-- The fields of an object are what stands under their names. -/
theorem fields?_object_iff {members : List (List Char × Json.Shape)} {name path kind : Json.Shape}
    {origins : Option Json.Shape} :
    fields? .once Json.key? fieldNames (.object members) =
        some [some name, some path, some kind, origins] ↔
      (∀ m ∈ members, (Json.key? m.1).isSome) ∧ valuesOf Json.key? "name" members = [name] ∧
        valuesOf Json.key? "path" members = [path] ∧ valuesOf Json.key? "type" members = [kind] ∧
        valuesOf Json.key? "allowed_origins" members = origins.toList := by
  have hrules : RecordRules.once.repeats = false := rfl
  simp only [fields?, Option.ite_none_right_eq_some, List.all_eq_true, admitsKey_once,
    fieldNames, mapM_eq_some_iff, List.forall₂_cons, field?_eq_some_iff hrules, Option.toList_some,
    List.forall₂_nil_left_iff, and_true]

/-- The fields of an array are its items in order. -/
theorem fields?_array_iff {items : List Json.Shape} {name path kind : Json.Shape}
    {origins : Option Json.Shape} :
    fields? .once Json.key? fieldNames (.array items) =
        some [some name, some path, some kind, origins] ↔
      items = [name, path, kind] ++ origins.toList := by
  constructor
  · intro h
    have hitems : items.length ≤ 4 ∧ [items[0]?, items[1]?, items[2]?, items[3]?] =
        [some name, some path, some kind, origins] := by
      simpa [fields?, RecordRules.once, fieldNames, List.range_succ] using h
    obtain ⟨hlength, hfields⟩ := hitems
    -- three items lack the origins, fewer lack more, and a fifth would be too many
    rcases items with _ | ⟨a, _ | ⟨b, _ | ⟨c, _ | ⟨d, rest⟩⟩⟩⟩
    · simp at hfields
    · simp at hfields
    · simp at hfields
    · cases hfields
      rfl
    · have hrest : rest.length = 0 := by
        simp only [List.length_cons] at hlength
        omega
      rw [List.length_eq_zero_iff.mp hrest]
      cases hfields
      rfl
  · rintro rfl
    cases origins <;> rfl

/-- The four fields of a document, of which the first three must be there. -/
theorem fields?_eq_some_iff {document name path kind : Json.Shape} {origins : Option Json.Shape} :
    fields? .once Json.key? fieldNames document =
        some [some name, some path, some kind, origins] ↔
      HasFields document name path kind origins := by
  constructor
  · intro h
    cases document with
    | leaf s => cases h
    | array items =>
      rw [fields?_array_iff.mp h]
      exact .array name path kind origins
    | object members =>
      obtain ⟨hkeys, hname, hpath, hkind, horigins⟩ := fields?_object_iff.mp h
      exact .object hkeys hname hpath hkind horigins
  · intro h
    cases h with
    | object hkeys hname hpath hkind horigins =>
      exact fields?_object_iff.mpr ⟨hkeys, hname, hpath, hkind, horigins⟩
    | array name path kind origins => exact fields?_array_iff.mpr rfl

/-- **A manifest is read** from its document, and from nothing else. -/
theorem ofShape?_eq_some_iff {m : Manifest} {document : Json.Shape} :
    ofShape? document = some m ↔ m.IsWritten document := by
  simp only [ofShape?, Option.bind_eq_bind, Option.bind_eq_some_iff]
  constructor
  · rintro ⟨fields, hfields, hm⟩
    split at hm
    · rename_i name path kind origins
      simp only [Option.bind_eq_some_iff, Option.pure_def, Option.some_inj] at hm
      obtain ⟨_, hname, _, hpath, _, hkind, _, horigins, rfl⟩ := hm
      exact ⟨name, path, kind, origins, fields?_eq_some_iff.mp hfields, string?_eq_some_iff.mp hname,
        string?_eq_some_iff.mp hpath, string?_eq_some_iff.mp hkind, origins_eq_some_iff.mp horigins⟩
    · cases hm
  · rintro ⟨name, path, kind, origins, hfields, hname, hpath, hkind, horigins⟩
    refine ⟨_, fields?_eq_some_iff.mpr hfields, ?_⟩
    simp [string?_eq_some_iff.mpr hname, string?_eq_some_iff.mpr hpath, string?_eq_some_iff.mpr hkind,
      origins_eq_some_iff.mpr horigins]

theorem parse?_eq_some_iff {text : String} {m : Manifest} :
    parse? text = some m ↔
      ∃ document, Json.shape? text.toList = some document ∧ m.IsWritten document := by
  simp only [parse?, Option.bind_eq_some_iff, ofShape?_eq_some_iff]

/-- A manifest is loaded from a file with its document, if it is of the standard kind. -/
theorem load_eq_ok_iff {files : Files} {path : String} {m : Manifest} :
    load files path = .ok m ↔
      (∃ text document, files.HasText path text ∧ Json.shape? text.toList = some document ∧
        m.IsWritten document) ∧ m.kind = standardKind := by
  have hload : load files path = .ok m ↔
      ∃ text, files.readText path = .ok text ∧ parse? text = some m ∧ m.kind = standardKind := by
    rw [load, bind_eq_ok_iff]
    refine exists_congr fun text => and_congr mapError_eq_ok_iff ?_
    cases parse? text with
    | none => simp [throw, throwThe, MonadExceptOf.throw]
    | some read =>
      by_cases hkind : read.kind = standardKind
      · simp only [hkind, if_true, pure_eq_ok_iff, Option.some_inj]
        exact ⟨fun hm => ⟨hm, hm ▸ hkind⟩, fun hm => hm.1⟩
      · simp only [hkind, if_false, throw, throwThe, MonadExceptOf.throw, reduceCtorEq,
          Option.some_inj, false_iff]
        rintro ⟨rfl, hm⟩
        exact hkind hm
  rw [hload]
  simp only [Files.readText_eq_ok_iff, parse?_eq_some_iff]
  constructor
  · rintro ⟨text, htext, ⟨document, hdocument, hm⟩, hkind⟩
    exact ⟨⟨text, document, htext, hdocument, hm⟩, hkind⟩
  · rintro ⟨⟨text, document, htext, hdocument, hm⟩, hkind⟩
    exact ⟨text, htext, ⟨document, hdocument, hm⟩, hkind⟩

/-! ## §2 Programs -/

/-- Where the program of a manifest is: where its path leads from the root, or else from the folder of
the manifest. -/
inductive RunsFrom (m : Manifest) (manifestPath : String) : String → Prop where
  /-- The path starts from the root. -/
  | absolute (h : Path.isAbsolute m.path = true) : RunsFrom m manifestPath m.path
  /-- The path starts from the folder of the manifest. -/
  | inFolder {folder : String} (h : Path.isAbsolute m.path = false)
      (hfolder : Path.parent? manifestPath = some folder) :
      RunsFrom m manifestPath (Path.join folder m.path)
  /-- There is no folder to start from, which is the case of no file. -/
  | alone (h : Path.isAbsolute m.path = false) (hfolder : Path.parent? manifestPath = none) :
      RunsFrom m manifestPath m.path

theorem executable_eq_iff {m : Manifest} {manifestPath program : String} :
    m.executable manifestPath = program ↔ m.RunsFrom manifestPath program := by
  unfold executable
  constructor
  · rintro rfl
    split
    · exact .absolute ‹_›
    · rename_i hrelative
      have hrelative : Path.isAbsolute m.path = false := by simpa using hrelative
      split
      · exact .inFolder hrelative ‹_›
      · exact .alone hrelative ‹_›
  · intro h
    cases h with
    | absolute h => rw [if_pos h]
    | inFolder h hfolder => rw [h, hfolder, if_neg Bool.false_ne_true]
    | alone h hfolder => rw [h, hfolder, if_neg Bool.false_ne_true]

/-- The program of a manifest in a folder is found in that folder. -/
theorem runsFrom_append_iff {m : Manifest} {folder name program : String}
    (hfolder : Path.IsTidy folder) (hname : Path.IsFileName name)
    (h : Path.isAbsolute m.path = false) :
    m.RunsFrom (folder ++ "/" ++ name) program ↔ program = folder ++ "/" ++ m.path := by
  obtain ⟨outer, hparent, hjoin⟩ := Path.exists_parent?_join hfolder hname h
  rw [← executable_eq_iff, executable, h, if_neg Bool.false_ne_true, hparent, ← hjoin]
  exact eq_comm

end Manifest

/-! ## §3 The first manifest -/

namespace ManifestSearch

variable {s : ManifestSearch} {files : Files} {path program : String}

/-- The manifest at a path can be read, is of the standard kind and for the host, and lets the
extension talk to the helper. -/
structure Fits (s : ManifestSearch) (files : Files) (path : String) (m : Manifest) : Prop where
  written : ∃ text document, files.HasText path text ∧
    Json.shape? text.toList = some document ∧ m.IsWritten document
  kind : m.kind = "stdio"
  name : m.name = s.hostName
  origin : m.allowedOrigins = [] ∨
    "chrome-extension://" ++ s.extensionId ++ "/" ∈ m.allowedOrigins

theorem fits_iff {m : Manifest} :
    s.Fits files path m ↔ Manifest.load files path = .ok m ∧ s.admits m = true := by
  rw [Manifest.load_eq_ok_iff]
  simp only [admits, Bool.and_eq_true, Bool.or_eq_true, beq_iff_eq, List.isEmpty_iff,
    List.contains_iff_mem]
  constructor
  · intro h
    exact ⟨⟨h.written, h.kind⟩, h.name, h.origin⟩
  · rintro ⟨⟨hwritten, hkind⟩, hname, horigin⟩
    exact ⟨hwritten, hkind, hname, horigin⟩

/-- A program is named at a path by the manifest there, if that fits. -/
theorem programAt?_eq_some_iff :
    s.programAt? files path = some program ↔
      ∃ m, s.Fits files path m ∧ m.RunsFrom path program := by
  simp only [fits_iff, ← Manifest.executable_eq_iff]
  rw [programAt?]
  constructor
  · intro h
    split at h
    · split at h
      · rename_i m hload
        rw [Option.ite_none_right_eq_some, Option.some_inj] at h
        exact ⟨m, ⟨hload, h.1⟩, h.2⟩
      · cases h
    · cases h
  · rintro ⟨m, ⟨hload, hadmits⟩, hprogram⟩
    -- what was loaded is there
    obtain ⟨⟨text, _, htext, _⟩, _⟩ := Manifest.load_eq_ok_iff.mp hload
    rw [if_pos htext.exists_eq_true, hload]
    simp only [hadmits, if_true, hprogram]

theorem programAt?_eq_none_iff :
    s.programAt? files path = none ↔ ∀ m, ¬s.Fits files path m := by
  rw [Option.eq_none_iff_forall_ne_some]
  constructor
  · intro h m hm
    exact h (m.executable path) (programAt?_eq_some_iff.mpr ⟨m, hm, Manifest.executable_eq_iff.mp rfl⟩)
  · intro h program hprogram
    obtain ⟨m, hm, -⟩ := programAt?_eq_some_iff.mp hprogram
    exact h m hm

/-- **The helper** is the program of the first manifest that fits, and there is none if no manifest
fits. A program that is given from a folder on is found in the folder of its manifest; a manifest of
a file system always has one. -/
theorem locate_first (s : ManifestSearch) (files : Files) :
    (∀ program, s.locate files = some program ↔
      ∃ before path behind m, s.paths = before ++ path :: behind ∧
        (∀ earlier ∈ before, ∀ other, ¬s.Fits files earlier other) ∧ s.Fits files path m ∧
          m.RunsFrom path program) ∧
      (s.locate files = none ↔ ∀ path ∈ s.paths, ∀ m, ¬s.Fits files path m) ∧
      (∀ (m : Manifest) folder name program, Path.IsTidy folder → Path.IsFileName name →
        Path.isAbsolute m.path = false →
          (m.RunsFrom (folder ++ "/" ++ name) program ↔ program = folder ++ "/" ++ m.path)) ∧
      ∀ (t : FileTree) workingFolder path m, s.Fits (t.files workingFolder) path m →
        ∃ folder, Path.parent? path = some folder := by
  refine ⟨fun program => ?_, ?_, fun m folder name program => Manifest.runsFrom_append_iff, ?_⟩
  · rw [locate, List.findSome?_eq_some_iff]
    simp only [programAt?_eq_some_iff, programAt?_eq_none_iff]
    constructor
    · rintro ⟨before, path, behind, hpaths, ⟨m, hm, hprogram⟩, hbefore⟩
      exact ⟨before, path, behind, m, hpaths, hbefore, hm, hprogram⟩
    · rintro ⟨before, path, behind, m, hpaths, hbefore, hm, hprogram⟩
      exact ⟨before, path, behind, hpaths, ⟨m, hm, hprogram⟩, hbefore⟩
  · simp only [locate, List.findSome?_eq_none_iff, programAt?_eq_none_iff]
  · intro t workingFolder path m hm
    obtain ⟨_, _, ⟨_, hfile⟩, _⟩ := hm.written
    exact FileTree.exists_parent?_of_file hfile

/-- One path leads nowhere, and the manifest at the next one gives its program from its own folder
on. -/
theorem locate_first_relative :
    let document : Json.Value := .object
      [("name", Json.Value.string "h"), ("path", Json.Value.string "helper"),
        ("type", Json.Value.string "stdio"),
        ("allowed_origins", .array [Json.Value.string "chrome-extension://abc/"])]
    let file := Node.file (utf8Text (Json.Value.compact document)) false
    let files := (FileTree.empty.add "/etc/m/h.json" file).files "/"
    let s : ManifestSearch :=
      { hostName := "h", extensionId := "abc", paths := ["/etc/h.json", "/etc/m/h.json"] }
    s.locate files = some "/etc/m/helper" := by
  intro document file files s
  let m : Manifest :=
    { name := "h", path := "helper", kind := "stdio", allowedOrigins := ["chrome-extension://abc/"] }
  have hbefore : ∀ earlier ∈ ["/etc/h.json"], ∀ other, ¬s.Fits files earlier other := by
    have hnowhere : files.look "/etc/h.json" = .error noSuchFile := rfl
    rintro earlier hearlier other ⟨⟨text, _, ⟨_, hlook⟩, _⟩, _⟩
    rw [List.mem_singleton.mp hearlier, hnowhere] at hlook
    cases hlook
  have hshape : Json.shape? (Json.Value.compact document).toList = some (Json.shapeOf document) := by
    rw [Json.Value.compact, String.toList_ofList]
    apply Json.shape?_compactChars
    have harray : (Tree.array [Json.Value.string "chrome-extension://abc/"]).AllLeaves
        Json.Scalar.IsWritable := .array (by simp [Json.Value.allLeaves_string])
    exact .object (by simp [Json.Value.allLeaves_string, harray])
  have hwritten : m.IsWritten (Json.shapeOf document) :=
    Manifest.ofShape?_eq_some_iff.mp (by decide +kernel)
  have hfits : s.Fits files "/etc/m/h.json" m :=
    ⟨⟨_, _, ⟨false, rfl⟩, hshape, hwritten⟩, rfl, rfl, .inr List.mem_cons_self⟩
  have hruns : m.RunsFrom "/etc/m/h.json" "/etc/m/helper" := by
    rw [← Manifest.executable_eq_iff]
    decide
  exact ((locate_first s files).1 _).mpr ⟨_, _, [], m, rfl, hbefore, hfits, hruns⟩

end ManifestSearch

end DeviceAccess
