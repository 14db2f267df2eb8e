import Mathlib
import DeviceAccess.Files
import DeviceAccess.Proofs.Fault
import DeviceAccess.Proofs.Text.Cut
import DeviceAccess.Proofs.Text.Utf8

/-!
# Files and their folders

A text is read from a path exactly if there is a file whose octets are those of the text. The folder
of a file is what stands before its name, and what is seen from there has the name replaced.

- `Files.readText_eq_ok_iff` is the law of reading.
- `Path.exists_parent?_join` is the law of folders, for paths without idle names in front of the name
  of the file.
- `FileTree.exists_parent?_of_file` says that every file lies in a folder.
-/

namespace DeviceAccess

open Text

/-! ## §1 Reading -/

namespace Files

/-- There is a file with this text at the path. -/
def HasText (f : Files) (path text : String) : Prop :=
  ∃ executable, f.look path = .ok (.file (utf8Text text) executable)

variable {f : Files} {path text : String}

theorem read_eq_ok_iff {content : Octets} :
    f.read path = .ok content ↔ ∃ executable, f.look path = .ok (.file content executable) := by
  unfold read
  cases f.look path with
  | error fault => simp
  | ok node =>
    cases node with
    | file octets executable => simp
    | folder => simp
    | sealed fault => simp

/-- **A text is read** where there is a file with its octets, and nowhere else. -/
theorem readText_eq_ok_iff : f.readText path = .ok text ↔ f.HasText path text := by
  have hread : f.readText path = .ok text ↔
      ∃ content, f.read path = .ok content ∧ textOfUtf8? content = some text := by
    rw [readText, bind_eq_ok_iff]
    refine exists_congr fun content => and_congr_right fun _ => ?_
    cases textOfUtf8? content with
    | none => simp [throw, throwThe, MonadExceptOf.throw]
    | some read => simp [pure, Except.pure]
  rw [hread, HasText]
  simp only [read_eq_ok_iff, textOfUtf8?_eq_some_iff]
  constructor
  · rintro ⟨_, ⟨executable, hlook⟩, rfl⟩
    exact ⟨executable, hlook⟩
  · rintro ⟨executable, hlook⟩
    exact ⟨_, ⟨executable, hlook⟩, rfl⟩

/-- What has a text is there. -/
theorem HasText.exists_eq_true (h : f.HasText path text) : f.exists_ path = true := by
  obtain ⟨executable, hlook⟩ := h
  rw [exists_, hlook]
  rfl

end Files

/-! ## §2 Folders -/

namespace Path

/-- The name leads nowhere. -/
def isIdle (name : List Char) : Bool := name.isEmpty || name == ['.']

theorem dropIdle_eq_rdropWhile (names : List (List Char)) :
    dropIdle names = names.rdropWhile isIdle := rfl

/-- The text is the name of a file in its folder. -/
structure IsFileName (name : String) : Prop where
  notIdle : isIdle name.toList = false
  whole : '/' ∉ name.toList

/-- The path ends in no idle name. -/
structure IsTidy (folder : String) : Prop where
  noSlash : ¬['/'] <:+ folder.toList
  noDot : ¬['/', '.'] <:+ folder.toList

theorem dropIdle_concat {names : List (List Char)} {name : List Char} (h : isIdle name = false) :
    dropIdle (names ++ [name]) = names ++ [name] := by
  rw [dropIdle_eq_rdropWhile, List.rdropWhile_concat_neg]
  simp [h]

theorem dropIdle_eq_nil_iff {names : List (List Char)} :
    dropIdle names = [] ↔ ∀ name ∈ names, isIdle name = true := by
  rw [dropIdle_eq_rdropWhile, List.rdropWhile_eq_nil_iff]

variable {folder name inner : String} {first : List Char} {more : List (List Char)}

/-- A tidy path has no idle names behind its first one. -/
theorem IsTidy.dropIdle_eq (h : IsTidy folder)
    (hpieces : pieces '/' folder.toList = first :: more) : dropIdle more = more := by
  rcases List.eq_nil_or_concat more with rfl | ⟨before, last, rfl⟩
  · rfl
  · rw [List.concat_eq_append] at hpieces ⊢
    apply dropIdle_concat
    have hfolder : folder.toList = joinWith ['/'] (first :: before) ++ ('/' :: last) := by
      rw [← joinWith_pieces '/' folder.toList, hpieces, ← List.cons_append,
        joinWith_append ['/'] (List.cons_ne_nil first before) (List.cons_ne_nil last []),
        List.append_assoc]
      rfl
    rw [isIdle, Bool.or_eq_false_iff, List.isEmpty_eq_false_iff, beq_eq_false_iff_ne]
    constructor
    · rintro rfl
      exact h.noSlash (hfolder ▸ List.suffix_append _ _)
    · rintro rfl
      exact h.noDot (hfolder ▸ List.suffix_append _ _)

/-- The folder of a file is what stands before its name. -/
theorem parent?_append (hfolder : IsTidy folder) (hname : IsFileName name) :
    parent? (folder ++ "/" ++ name) = some (if folder = "" then "/" else folder) := by
  obtain ⟨first, more, hpieces⟩ := List.exists_cons_of_ne_nil (pieces_ne_nil '/' folder.toList)
  have hpath : pieces '/' (folder ++ "/" ++ name).toList = first :: (more ++ [name.toList]) := by
    have hlast : pieces '/' name.toList = [name.toList] := by
      rw [pieces_eq_splitOn, List.splitOn_eq_singleton hname.whole]
    have hlist : (folder ++ "/" ++ name).toList = folder.toList ++ '/' :: name.toList := by
      simp [String.toList_append]
    rw [hlist, pieces_append_cons, hpieces, hlast, List.cons_append]
  have hjoined : joinWith ['/'] (first :: more) = folder.toList := by
    rw [← hpieces, joinWith_pieces]
  have hidle := hfolder.dropIdle_eq hpieces
  rw [parent?, hpath]
  simp only [folderOf, dropIdle_concat hname.notIdle, List.reverse_append, List.reverse_singleton,
    List.singleton_append, List.reverse_reverse, hidle]
  cases more with
  | nil =>
    obtain rfl : first = folder.toList := hjoined
    by_cases hempty : folder = ""
    · simp [hempty]
    · simp [hempty]
  | cons second rest =>
    have hnonempty : folder ≠ "" := by
      rintro rfl
      simp [joinWith] at hjoined
    simp [hjoined, hnonempty]

/-- **A path seen from the folder of a file** has the name of the file replaced. -/
theorem exists_parent?_join (hfolder : IsTidy folder) (hname : IsFileName name)
    (hinner : isAbsolute inner = false) :
    ∃ outer, parent? (folder ++ "/" ++ name) = some outer ∧
      join outer inner = folder ++ "/" ++ inner := by
  refine ⟨_, parent?_append hfolder hname, ?_⟩
  rw [join, hinner, if_neg Bool.false_ne_true]
  by_cases hempty : folder = ""
  · simp [hempty]
  · have hlast : folder.toList.getLast? ≠ some '/' := by
      intro hslash
      obtain ⟨front, hfront⟩ := List.getLast?_eq_some_iff.mp hslash
      exact hfolder.noSlash (hfront ▸ List.suffix_append front ['/'])
    simp [hempty, hlast]

theorem folderOf_eq_none_iff {rest : List (List Char)} :
    folderOf first rest = none ↔ first = [] ∧ ∀ name ∈ rest, isIdle name = true := by
  have hreverse : dropIdle rest = [] ↔ (dropIdle rest).reverse = [] := List.reverse_eq_nil_iff.symm
  rw [← dropIdle_eq_nil_iff, hreverse]
  unfold folderOf
  cases (dropIdle rest).reverse with
  | nil => simp
  | cons name before =>
    simp only [reduceCtorEq, and_false, iff_false]
    split
    · exact Option.some_ne_none _
    · exact Option.some_ne_none _

/-- Only the empty path and those of idle names from the root on lie in no folder. -/
theorem parent?_eq_none_iff {path : String} :
    parent? path = none ↔ ∃ rest, pieces '/' path.toList = [] :: rest ∧
      ∀ name ∈ rest, isIdle name = true := by
  obtain ⟨first, rest, hpieces⟩ := List.exists_cons_of_ne_nil (pieces_ne_nil '/' path.toList)
  simp only [parent?, hpieces, Option.map_eq_none_iff, folderOf_eq_none_iff, List.cons.injEq]
  constructor
  · rintro ⟨hfirst, hidle⟩
    exact ⟨rest, ⟨hfirst, rfl⟩, hidle⟩
  · rintro ⟨_, ⟨hfirst, rfl⟩, hidle⟩
    exact ⟨hfirst, hidle⟩

end Path

/-! ## §3 Files in trees -/

namespace FileTree

variable {t : FileTree}

/-- Idle names lead from the root to the root. -/
theorem walk_idle (hroot : t.at? [] = some .folder) {names : List (List Char)}
    (hidle : ∀ name ∈ names, Path.isIdle name = true) : t.walk [] names = .ok .folder := by
  induction names with
  | nil => simp [walk, hroot]
  | cons name rest ih =>
    obtain ⟨hname, hrest⟩ := List.forall_mem_cons.mp hidle
    have hname : (name.isEmpty || name == ['.']) = true := hname
    simp [walk, hroot, hname, ih hrest]

/-- No path of idle names from the root on leads to a file. -/
theorem walk_ne_file {rest : List (List Char)}
    (hidle : ∀ name ∈ rest, Path.isIdle name = true) (content : Octets) (executable : Bool) :
    t.walk [] ([] :: rest) ≠ .ok (.file content executable) := by
  rw [walk, List.reverse_nil]
  cases hroot : t.at? [] with
  | none => simp
  | some node =>
    cases node with
    | file octets mode => simp
    | sealed fault => simp
    | folder => simp [walk_idle hroot hidle]

/-- A path that is not empty and has nothing in front of its first slash begins at the root. -/
theorem isAbsolute_of_pieces {path : String} {rest : List (List Char)}
    (hpieces : pieces '/' path.toList = [] :: rest) (hpath : path.toList ≠ []) :
    Path.isAbsolute path = true := by
  have hjoined := joinWith_pieces '/' path.toList
  rw [hpieces] at hjoined
  cases rest with
  | nil => exact absurd hjoined.symm hpath
  | cons name rest =>
    rw [Path.isAbsolute, ← hjoined]
    rfl

/-- **Every file lies in a folder.** -/
theorem exists_parent?_of_file {workingFolder path : String} {content : Octets} {executable : Bool}
    (h : (t.files workingFolder).look path = .ok (.file content executable)) :
    ∃ folder, Path.parent? path = some folder := by
  by_contra hnone
  rw [← Option.isSome_iff_exists, Option.not_isSome_iff_eq_none] at hnone
  obtain ⟨rest, hpieces, hidle⟩ := Path.parent?_eq_none_iff.mp hnone
  by_cases hpath : path.toList = []
  · rw [String.toList_eq_nil_iff.mp hpath] at h
    simp [files] at h
  · have habsolute := isAbsolute_of_pieces hpieces hpath
    simp only [files, habsolute, if_true, List.nil_append, hpieces, List.isEmpty_iff, hpath,
      if_false] at h
    split at h
    · cases h
    · exact walk_ne_file hidle content executable h

end FileTree

end DeviceAccess
