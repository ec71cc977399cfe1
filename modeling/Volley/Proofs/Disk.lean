import Volley.LineCache.Calls
import Volley.Proofs.Dictionary
import Volley.Proofs.Text.Lines
import Volley.Proofs.Text.Utf8

/-!
# What is read is what was written

A path to a file is a path to the folder with the files and the name of one of them (`IsNamed`), and
what is read at it are the bytes that the file of that name has (`read_eq_ok_iff`). Which name that
is has nothing to do with what files there are (`IsNamed.withFiles`). So a file that is written is
read as it was written, until it is written again or deleted under any of its paths. Its lines are
those of the text that its bytes encode, and it has none if there is no such text
(`lines?_eq_some_iff`).
-/

namespace Volley

/-- The path of the file that changes. -/
def FileChange.path : FileChange → String
  | .write path _ => path
  | .delete path => path

/-- The bytes of the file after a change. -/
def FileChange.bytes? : FileChange → Option (List UInt8)
  | .write _ bytes => some bytes
  | .delete _ => none

namespace Disk

/-- A path leads through folders to the one with the files, and ends in a name that a file can have.
-/
structure IsNamed (disk : Disk) (path name : String) : Prop where
  /-- The text of the path is one of a path. -/
  text : pathFailure? path = none
  /-- The name comes last. -/
  last : (steps path.toList).getLast? = some name.toList
  /-- What comes before it leads to the folder with the files. -/
  folder : (steps path.toList).dropLast.foldlM disk.step (disk.start path.toList) =
    .ok (.folder disk.place)
  /-- Dots do not name a file. -/
  noDots : name ≠ "." ∧ name ≠ ".."
  /-- The name is not too long. -/
  size : name.utf8ByteSize ≤ mostNameBytes

section Steps
variable {disk : Disk} {path name : String} {bytes : List UInt8}

/-- A folder has a file of a name if it is the one with the files. -/
theorem child_eq_file_iff {names : List String} :
    disk.child names name = .ok (.file bytes) ↔
      names = disk.place ∧ name.utf8ByteSize ≤ mostNameBytes ∧
        disk.files.get? name = some bytes := by
  unfold child
  split
  next hlong => simp [Nat.not_le.2 hlong]
  next hshort =>
    rw [Nat.not_lt] at hshort
    split
    next hplace =>
      cases disk.files.get? name with
      | none => simp
      | some found => simp [hplace, hshort]
    next hplace => split <;> simp [hplace]

/-- A folder has the same folders with other files. -/
theorem child_withFiles {names names' : List String} (files : Dictionary (List UInt8))
    (h : disk.child names name = .ok (.folder names')) :
    child { disk with files := files } names name = .ok (.folder names') := by
  unfold child at *
  split at h
  next => cases h
  next hshort =>
    rw [if_neg hshort]
    split at h
    -- There are no folders in the one with the files.
    next => split at h <;> cases h
    next hplace => rwa [if_neg hplace]

/-- From a folder a single dot leads nowhere else, two dots lead back, and a name leads on. -/
theorem step_folder (disk : Disk) (names : List String) (name : String) :
    disk.step (.folder names) name.toList =
      if name = "." then .ok (.folder names)
      else if name = ".." then .ok (.folder names.dropLast)
      else disk.child names name := by
  have hdot : name.toList = ['.'] ↔ name = "." := by rw [← String.toList_inj]; rfl
  have hdots : name.toList = ['.', '.'] ↔ name = ".." := by rw [← String.toList_inj]; rfl
  unfold step
  split
  case h_1 heq => cases heq
  case h_2 heq hpart =>
    obtain rfl := Node.folder.inj heq
    rw [if_pos (hdot.1 hpart)]
  case h_3 heq hpart =>
    obtain rfl := Node.folder.inj heq
    rw [if_neg fun h => absurd (hpart.symm.trans (hdot.2 h)) (by decide), if_pos (hdots.1 hpart)]
  case h_4 heq hne hne' =>
    obtain rfl := Node.folder.inj heq
    rw [if_neg (mt hdot.2 hne), if_neg (mt hdots.2 hne'), String.ofList_toList]

/-- A step leads to a file if it takes the name of one in the folder with the files. -/
theorem step_eq_file_iff {node : Node} :
    disk.step node name.toList = .ok (.file bytes) ↔
      node = .folder disk.place ∧ (name ≠ "." ∧ name ≠ "..") ∧
        name.utf8ByteSize ≤ mostNameBytes ∧ disk.files.get? name = some bytes := by
  cases node with
  | file found => simp [step]
  | folder names =>
    rw [step_folder]
    split
    next hdot => simp [hdot]
    next hdot =>
      split
      next hdots => simp [hdots]
      next hdots => simp [child_eq_file_iff, hdot, hdots]

/-- A path leads to a file if it leads to the folder with the files, and then takes a name there. -/
theorem foldlM_concat_eq_file_iff {parts : List (List Char)} {node : Node} :
    (parts ++ [name.toList]).foldlM disk.step node = .ok (.file bytes) ↔
      parts.foldlM disk.step node = .ok (.folder disk.place) ∧ (name ≠ "." ∧ name ≠ "..") ∧
        name.utf8ByteSize ≤ mostNameBytes ∧ disk.files.get? name = some bytes := by
  rw [List.foldlM_append]
  simp only [List.foldlM_cons, List.foldlM_nil, bind_pure]
  cases parts.foldlM disk.step node with
  | error failure => simp [bind, Except.bind]
  | ok reached => simpa [bind, Except.bind] using step_eq_file_iff

/-- A step from one folder to another is the same with other files. -/
theorem step_withFiles {names names' : List String} (files : Dictionary (List UInt8))
    (h : disk.step (.folder names) name.toList = .ok (.folder names')) :
    step { disk with files := files } (.folder names) name.toList = .ok (.folder names') := by
  rw [step_folder] at h ⊢
  split
  next hdot => rwa [if_pos hdot] at h
  next hdot =>
    rw [if_neg hdot] at h
    split
    next hdots => rwa [if_pos hdots] at h
    next hdots =>
      rw [if_neg hdots] at h
      exact child_withFiles files h

/-- So is a way from one folder to another. -/
theorem foldlM_step_withFiles {parts : List (List Char)} {names names' : List String}
    (files : Dictionary (List UInt8))
    (h : parts.foldlM disk.step (.folder names) = .ok (.folder names')) :
    parts.foldlM (step { disk with files := files }) (.folder names) = .ok (.folder names') := by
  induction parts generalizing names with
  | nil => exact h
  | cons part later ih =>
    rw [List.foldlM_cons] at h ⊢
    cases hfirst : disk.step (.folder names) part with
    | error failure =>
      rw [hfirst] at h
      cases h
    | ok node =>
      rw [hfirst] at h
      cases node with
      | folder between =>
        rw [← String.toList_ofList (l := part)] at hfirst ⊢
        rw [step_withFiles files hfirst]
        exact ih h
      | file found =>
        -- No step leads on from a file, and a file is no folder.
        cases later <;> cases h

end Steps

section Names
variable {disk : Disk} {path name : String} {bytes : List UInt8}

/-- The name that is found is the one at the end of the path. -/
theorem fileName?_eq_some_iff : disk.fileName? path = some name ↔ disk.IsNamed path name := by
  unfold fileName?
  dsimp only
  constructor
  · intro h
    split at h
    next => cases h
    next htext =>
      obtain ⟨part, hlast, h⟩ := Option.bind_eq_some_iff.1 h
      split at h
      next names hfolder =>
        obtain ⟨⟨rfl, hdot, hdots, hsize⟩, hname⟩ := Option.ite_none_right_eq_some.1 h
        obtain rfl := Option.some.inj hname
        refine ⟨by simpa using htext, ?_, hfolder, ⟨hdot, hdots⟩, hsize⟩
        rw [hlast, String.toList_ofList]
      next => cases h
  · intro h
    rw [h.text, h.last, if_neg (by simp)]
    refine Option.bind_eq_some_iff.2 ⟨name.toList, rfl, ?_⟩
    rw [h.folder, String.ofList_toList]
    exact if_pos ⟨rfl, h.noDots.1, h.noDots.2, h.size⟩

/-- Paths name files whatever files there are. -/
theorem IsNamed.withFiles (h : disk.IsNamed path name) (files : Dictionary (List UInt8)) :
    IsNamed { disk with files := files } path name where
  text := h.text
  last := h.last
  folder := foldlM_step_withFiles files h.folder
  noDots := h.noDots
  size := h.size

/-- A path names the same file whatever files there are. -/
theorem fileName?_withFiles (disk : Disk) (files : Dictionary (List UInt8)) (path : String) :
    fileName? { disk with files := files } path = disk.fileName? path := by
  ext name
  rw [fileName?_eq_some_iff, fileName?_eq_some_iff]
  exact ⟨fun h => h.withFiles disk.files, fun h => h.withFiles files⟩

/-- What is read at a path is what the file that it names has. -/
theorem read_eq_ok_iff :
    disk.read path = .ok bytes ↔
      ∃ name, disk.fileName? path = some name ∧ disk.files.get? name = some bytes := by
  have hfind : disk.read path = .ok bytes ↔ disk.find path = .ok (.file bytes) := by
    unfold read
    cases disk.find path with
    | error failure => simp
    | ok node => cases node <;> simp
  rw [hfind, find]
  simp only [fileName?_eq_some_iff]
  constructor
  · intro h
    split at h
    next => cases h
    next htext =>
      cases hlast : (steps path.toList).getLast? with
      | none =>
        -- A path without a step stays in the folder where it starts.
        rw [List.getLast?_eq_none_iff.1 hlast] at h
        cases h
      | some part =>
        obtain ⟨name, rfl⟩ : ∃ name : String, part = name.toList :=
          ⟨String.ofList part, String.toList_ofList.symm⟩
        rw [← List.dropLast_append_getLast? _ hlast, foldlM_concat_eq_file_iff] at h
        obtain ⟨hfolder, hdots, hsize, hfile⟩ := h
        exact ⟨name, ⟨htext, hlast, hfolder, hdots, hsize⟩, hfile⟩
  · rintro ⟨name, hname, hfile⟩
    rw [hname.text, ← List.dropLast_append_getLast? _ hname.last]
    exact foldlM_concat_eq_file_iff.2 ⟨hname.folder, hname.noDots, hname.size, hfile⟩

end Names

/-! ## Lines -/

/-- A file has the lines of the text that its bytes encode. -/
theorem lines?_eq_some_iff {disk : Disk} {path : String} {found : List String} :
    disk.lines? path = some found ↔
      ∃ text, disk.read path = .ok (Text.Utf8.encode text) ∧
        Text.IsLines text (found.map String.toList) := by
  have hlines (text : List Char) : (Text.lines text).map String.ofList = found ↔
      Text.IsLines text (found.map String.toList) := by
    rw [Text.isLines_iff]
    constructor
    · rintro rfl
      simp [Function.comp_def, String.toList_ofList]
    · intro h
      simp [h, Function.comp_def, String.ofList_toList]
  unfold lines?
  cases disk.read path with
  | error failure => simp
  | ok bytes =>
    simp only [Option.map_eq_some_iff, Text.Utf8.decode?_eq_some_iff, hlines, Except.ok.injEq]

/-! ## Changes -/

section Changes
variable {disk : Disk} {path other name : String} {bytes : List UInt8} {change : FileChange}

/-- A file is written by putting its bytes under its name. -/
theorem apply_write (h : disk.fileName? path = some name) (bytes : List UInt8) :
    (FileChange.write path bytes).apply disk =
      { disk with files := disk.files.insert name bytes } := by
  unfold FileChange.apply write?
  dsimp only
  rw [h, Option.map_some, Option.getD_some]

/-- A file is deleted by taking its name away, if it is there. -/
theorem apply_delete (h : disk.fileName? path = some name) :
    (FileChange.delete path).apply disk = { disk with files := disk.files.erase name } := by
  unfold FileChange.apply delete?
  dsimp only
  rw [h, Option.bind_eq_bind, Option.bind_some]
  split
  next => rfl
  next hfile =>
    -- A file that is not there is not deleted, but then its name is not there to be taken away.
    have hsame : disk.files.erase name = disk.files := by
      refine Dictionary.ext_get? fun key => ?_
      rw [Dictionary.get?_erase]
      split
      next hkey => exact (Option.not_isSome_iff_eq_none.1 (hkey ▸ hfile)).symm
      next => rfl
    rw [hsame, Option.getD_none]

/-- A change at a path that no file can have fails. -/
theorem apply_of_eq_none (h : disk.fileName? change.path = none) : change.apply disk = disk := by
  cases change with
  | write path bytes =>
    unfold FileChange.apply write?
    dsimp only
    rw [show disk.fileName? path = none from h, Option.map_none, Option.getD_none]
  | delete path =>
    unfold FileChange.apply delete?
    dsimp only
    rw [show disk.fileName? path = none from h]
    rfl

/-- A change makes the file of its path what it says, and leaves the other files and all names as
they are. -/
theorem exists_apply_eq (disk : Disk) (change : FileChange) :
    ∃ files, change.apply disk = { disk with files := files } ∧ ∀ name, files.get? name =
      if some name = disk.fileName? change.path then change.bytes? else disk.files.get? name := by
  cases hname : disk.fileName? change.path with
  | none => exact ⟨disk.files, apply_of_eq_none hname, fun name => rfl⟩
  | some changed =>
    cases change with
    | write path bytes =>
      refine ⟨_, apply_write hname bytes, fun name => ?_⟩
      simp only [Dictionary.get?_insert, Option.some_inj, FileChange.bytes?]
    | delete path =>
      refine ⟨_, apply_delete hname, fun name => ?_⟩
      simp only [Dictionary.get?_erase, Option.some_inj, FileChange.bytes?]

/-- A change leaves the names of files as they are. -/
theorem fileName?_apply (disk : Disk) (change : FileChange) (path : String) :
    (change.apply disk).fileName? path = disk.fileName? path := by
  obtain ⟨files, hfiles, -⟩ := exists_apply_eq disk change
  rw [hfiles, fileName?_withFiles]

/-- After a change the file of its path is read as the change says, and any other as before. -/
theorem read_apply_iff :
    (change.apply disk).read path = .ok bytes ↔
      ∃ name, disk.fileName? path = some name ∧
        (if some name = disk.fileName? change.path then change.bytes? else disk.files.get? name) =
          some bytes := by
  obtain ⟨files, hfiles, hget⟩ := exists_apply_eq disk change
  rw [read_eq_ok_iff, hfiles]
  simp only [fileName?_withFiles, hget]

end Changes

/-- What a disk says of its files. -/
structure HoldsFiles (disk : Disk) : Prop where
  /-- A file that can be read and is a text has the lines of the text. -/
  lines_iff : ∀ path found, disk.lines? path = some found ↔
    ∃ text, disk.read path = .ok (Text.Utf8.encode text) ∧
      Text.IsLines text (found.map String.toList)
  /-- Any other file has no lines. -/
  unreadable : ∀ path, (∀ text, disk.read path ≠ .ok (Text.Utf8.encode text)) →
    disk.lines? path = none
  /-- What is read at a path is what the disk has of the file that it names, if there is one. -/
  read_iff : ∀ path bytes, disk.read path = .ok bytes ↔
    ∃ name, disk.fileName? path = some name ∧ disk.files.get? name = some bytes
  /-- A file that is written is read as it was written, at all paths that name it. -/
  written : ∀ path other bytes, (disk.fileName? path).isSome = true →
    disk.fileName? other = disk.fileName? path →
      ((FileChange.write path bytes).apply disk).read other = .ok bytes
  /-- A file that is deleted is not read any more. -/
  deleted : ∀ path other bytes, disk.fileName? other = disk.fileName? path →
    ((FileChange.delete path).apply disk).read other ≠ .ok bytes
  /-- All other files are read as before. -/
  untouched : ∀ (change : FileChange) path bytes,
    disk.fileName? path ≠ disk.fileName? change.path →
      ((change.apply disk).read path = .ok bytes ↔ disk.read path = .ok bytes)
  /-- The paths name the same files as before. -/
  names : ∀ (change : FileChange) path, (change.apply disk).fileName? path = disk.fileName? path

/-- A disk holds what was written onto it. -/
theorem holdsFiles (disk : Disk) : disk.HoldsFiles where
  lines_iff _ _ := lines?_eq_some_iff
  unreadable path h := by
    rw [Option.eq_none_iff_forall_ne_some]
    intro found hfound
    obtain ⟨text, hread, -⟩ := lines?_eq_some_iff.1 hfound
    exact h text hread
  read_iff _ _ := read_eq_ok_iff
  written path other bytes h hother := by
    obtain ⟨name, hname⟩ := Option.isSome_iff_exists.1 h
    exact read_apply_iff.2 ⟨name, hother.trans hname, if_pos hname.symm⟩
  deleted path other bytes hother hread := by
    obtain ⟨name, hname, hbytes⟩ := read_apply_iff.1 hread
    have hpath : some name = disk.fileName? (FileChange.delete path).path := hname.symm.trans hother
    rw [if_pos hpath] at hbytes
    cases hbytes
  untouched change path bytes h := by
    rw [read_apply_iff, read_eq_ok_iff]
    refine exists_congr fun name => and_congr_right fun hname => ?_
    rw [if_neg fun heq => h (hname.trans heq)]
  names := fileName?_apply disk

end Disk

end Volley
