/-
# Reading and writing by path

A path that can be read leads to the place of a file.  Reading and writing are the bytes at that
place and overwriting it, if the mode of the file allows it.  The place and the mode depend on the
shape of the tree only.  So a write shows through every path to the file, and through no other; and
whether it is refused, or where it breaks off, can be told beforehand.
-/

import FormatLauncher.Contents
import FormatLauncher.Proofs.Action
import FormatLauncher.Proofs.FileTree.Shape

namespace FormatLauncher

/-- The current directory is there, and everything above it.  One that was removed is still there
for whoever is in it, without its name. -/
def World.IsOpen (w : World) : Prop := w.files.IsOpen w.directory

namespace Contents

/-- A path names no file for a NUL, for a walk that leads nowhere, or for a directory. -/
theorem find_eq_error_iff {w : World} {p : Path} {failure : Failure} :
    find w p = .error failure ↔
      if Spelling.hasNul p.text then failure = .embeddedNul
      else
        (∃ fault, w.files.find w.directory p.text = .error fault ∧ failure = refusal p fault) ∨
          ∃ place, w.files.find w.directory p.text = .ok (place, .directory) ∧
            failure = .system (.isDirectory p.text) := by
  unfold find
  split
  · simp [eq_comm]
  · rcases hfind : w.files.find w.directory p.text with fault | ⟨place, e⟩
    · simp [eq_comm]
    · by_cases hdirectory : e = .directory
      · simp [hdirectory, eq_comm]
      · simp [hdirectory]

/-- What the mode of a file forbids is denied. -/
def denied (p : Path) : Failure := .system (.permissionDenied p.text)

/-- A file is not opened when it is not found, or when its mode forbids it. -/
theorem openFor_eq_error_iff {isAllowed : Entry → Bool} {w : World} {p : Path}
    {failure : Failure} :
    openFor isAllowed w p = .error failure ↔
      find w p = .error failure ∨
        ∃ found e, find w p = .ok (found, e) ∧ w.storage.ignoresModes = false ∧
          isAllowed e = false ∧ failure = denied p := by
  unfold openFor denied
  rcases find w p with cause | ⟨found, e⟩
  · simp
  · dsimp only
    by_cases hallowed : (w.storage.ignoresModes || isAllowed e) = true
    · rw [if_pos hallowed]
      refine iff_of_false (by simp) ?_
      rintro (hfails | ⟨_, _, hfound, hignores, hforbids, -⟩)
      · simp at hfails
      · obtain ⟨-, rfl⟩ := Prod.mk.inj (Except.ok.inj hfound)
        simp [hignores, hforbids] at hallowed
    · rw [if_neg hallowed]
      obtain ⟨hignores, hforbids⟩ : w.storage.ignoresModes = false ∧ isAllowed e = false := by
        simpa using hallowed
      constructor
      · intro hfails
        exact .inr ⟨found, e, rfl, hignores, hforbids, (Except.error.inj hfails).symm⟩
      · rintro (hfails | ⟨_, _, -, -, -, rfl⟩)
        · simp at hfails
        · rfl

/-- A file that is opened can be read. -/
theorem read_eq_error_iff {w : World} {p : Path} {failure : Failure} :
    read w p = .error failure ↔ openFor Entry.isReadable w p = .error failure := by
  unfold read
  cases openFor Entry.isReadable w p <;> simp [Except.map]

/-- Looking for the first of some paths fails for one of them that is too long. -/
theorem firstPresent_eq_error {w : World} {paths : List Path} {failure : Failure}
    (h : firstPresent w paths = .error failure) :
    ∃ p ∈ paths, failure = refusal p .nameTooLong := by
  induction paths with
  | nil => simp [firstPresent] at h
  | cons p rest ih =>
      have hlater (h : firstPresent w rest = .error failure) :
          ∃ q ∈ p :: rest, failure = refusal q .nameTooLong := by
        obtain ⟨q, hq, hfailure⟩ := ih h
        exact ⟨q, List.mem_cons_of_mem p hq, hfailure⟩
      rw [firstPresent] at h
      split at h
      · exact hlater h
      · split at h
        · simp at h
        · exact ⟨p, by simp, (Except.error.inj h).symm⟩
        · exact hlater h

/-- The place of the file that a path names. -/
def place (w : World) (p : Path) : Except Failure Location := (find w p).map Prod.fst

/-- The place of a file, by the walk that leads there. -/
theorem place_eq (w : World) (p : Path) :
    place w p =
      if Spelling.hasNul p.text then .error .embeddedNul
      else
        match w.files.walk w.directory p.text with
        | .error fault => .error (refusal p fault)
        | .ok found =>
          match w.files.entryAt? found with
          | none => .error (refusal p .missing)
          | some e =>
            if e = .directory then .error (.system (.isDirectory p.text)) else .ok found := by
  unfold place find FileTree.find
  split
  · rfl
  · cases w.files.walk w.directory p.text with
    | error fault => rfl
    | ok found =>
        cases hentry : w.files.entryAt? found with
        | none => simp [hentry, Except.map]
        | some e => by_cases he : e = .directory <;> simp [hentry, he, Except.map]

/-- What has a place holds no NUL. -/
theorem hasNul_of_place {w : World} {p : Path} {found : Location} (h : place w p = .ok found) :
    Spelling.hasNul p.text = false := by
  rw [place_eq] at h
  split at h
  · simp at h
  · next hnul => simpa using hnul

/-- What a path finds stands at its place, and is no directory. -/
theorem entryAt?_of_find {w : World} {p : Path} {found : Location} {e : Entry}
    (hfind : find w p = .ok (found, e)) :
    w.files.find w.directory p.text = .ok (found, e) ∧ w.files.entryAt? found = some e ∧
      e ≠ .directory := by
  unfold find at hfind
  split at hfind
  · simp at hfind
  · cases htree : w.files.find w.directory p.text with
    | error fault => simp [htree] at hfind
    | ok named =>
        rcases named with ⟨found', e'⟩
        by_cases he : e' = .directory
        · simp [htree, he] at hfind
        · simp only [htree, he, if_false, Except.ok.injEq, Prod.mk.injEq] at hfind
          rcases hfind with ⟨rfl, rfl⟩
          exact ⟨rfl, FileTree.entryAt?_of_find htree, he⟩

/-- From an open directory a path that has a place leads to a regular file. -/
theorem isRegular_of_place {w : World} (hopen : w.IsOpen) {p : Path} {found : Location}
    (hplace : place w p = .ok found) :
    ∃ e, w.files.entryAt? found = some e ∧ e.isRegular = true := by
  unfold place at hplace
  cases hfind : find w p with
  | error failure => simp [hfind, Except.map] at hplace
  | ok named =>
      rcases named with ⟨there, e⟩
      obtain rfl : there = found := by simpa [hfind, Except.map] using hplace
      obtain ⟨htree, hentry, he⟩ := entryAt?_of_find hfind
      exact ⟨e, hentry, FileTree.isRegular_of_find hopen htree he⟩

/-- What stands at a place may be used so, for its mode allows it or does not matter. -/
def permits (isAllowed : Entry → Bool) (w : World) (found : Location) : Bool :=
  w.storage.ignoresModes || (w.files.entryAt? found).any isAllowed

/-- A file is opened at its place, if it may be used so. -/
theorem openFor_eq (isAllowed : Entry → Bool) (w : World) (p : Path) :
    (openFor isAllowed w p).map Prod.fst =
      (place w p).bind fun found =>
        if permits isAllowed w found then .ok found else .error (denied p) := by
  unfold openFor place permits denied
  cases hfind : find w p with
  | error failure => rfl
  | ok named =>
      rcases named with ⟨found, e⟩
      simp only [Except.map, Except.bind, (entryAt?_of_find hfind).2.1, Option.any_some]
      by_cases hallowed : (w.storage.ignoresModes || isAllowed e) = true <;> simp [hallowed]

/-- What is opened stands at its place. -/
theorem entryAt?_of_openFor {isAllowed : Entry → Bool} {w : World} {p : Path} {found : Location}
    {e : Entry} (hopened : openFor isAllowed w p = .ok (found, e)) :
    w.files.entryAt? found = some e := by
  unfold openFor at hopened
  cases hfind : find w p with
  | error failure => simp [hfind] at hopened
  | ok named =>
      rcases named with ⟨found', e'⟩
      simp only [hfind] at hopened
      split at hopened
      · obtain ⟨rfl, rfl⟩ : found' = found ∧ e' = e := by simpa using hopened
        exact (entryAt?_of_find hfind).2.1
      · simp at hopened

/-- Reading gives the bytes at the place, if the file may be read. -/
theorem read_eq (w : World) (p : Path) :
    read w p = (place w p).bind fun found =>
      if permits Entry.isReadable w found then .ok (w.files.bytesAt found)
      else .error (denied p) := by
  have hbytes : read w p =
      ((openFor Entry.isReadable w p).map Prod.fst).map w.files.bytesAt := by
    unfold read
    cases hopened : openFor Entry.isReadable w p with
    | error failure => rfl
    | ok named => simp [Except.map, FileTree.bytesAt, entryAt?_of_openFor hopened]
  rw [hbytes, openFor_eq]
  cases place w p with
  | error failure => rfl
  | ok found => simp only [Except.bind]; split <;> rfl

/-- What can be read has a place, where its bytes are. -/
theorem exists_place_of_read {w : World} {p : Path} {contents : Text.Bytes}
    (h : read w p = .ok contents) :
    ∃ found, place w p = .ok found ∧ w.files.bytesAt found = contents ∧
      permits Entry.isReadable w found = true := by
  rw [read_eq] at h
  obtain ⟨found, hplace, h⟩ := Action.except_bind_eq_ok.mp h
  split at h
  · next hreadable => exact ⟨found, hplace, Except.ok.inj h, hreadable⟩
  · simp at h

/-- Whether a write to a path goes through, told from a world. -/
def writing (w : World) (p : Path) (contents : Text.Bytes) : Except Failure Unit :=
  (place w p).bind fun found =>
    if permits Entry.isWritable w found then w.storage.verdict found contents
    else .error (denied p)

/-- A tree after a write to a path, told from a world of the same shape: nothing is changed unless
the file may be written. -/
def written (w : World) (p : Path) (contents : Text.Bytes) (tree : FileTree) : FileTree :=
  match place w p with
  | .error _ => tree
  | .ok found =>
    if permits Entry.isWritable w found then
      tree.overwrite found (w.storage.stored found contents)
    else tree

/-- Writing overwrites the place with what is stored there, if the file may be written. -/
theorem write_eq (w : World) (p : Path) (contents : Text.Bytes) :
    write w p contents = (writing w p contents, written w p contents w.files) := by
  have hopened := openFor_eq Entry.isWritable w p
  unfold write writing written
  cases hplace : place w p with
  | error failure =>
      rw [hplace] at hopened
      cases hopen : openFor Entry.isWritable w p with
      | error cause =>
          obtain rfl : cause = failure := by simpa [hopen, Except.map, Except.bind] using hopened
          rfl
      | ok named => simp [hopen, Except.map, Except.bind] at hopened
  | ok found =>
      simp only [hplace, Except.bind] at hopened
      cases hpermits : permits Entry.isWritable w found with
      | false =>
          cases hopen : openFor Entry.isWritable w p with
          | error cause =>
              obtain rfl : cause = denied p := by simpa [hopen, hpermits, Except.map] using hopened
              simp [Except.bind, hpermits]
          | ok named => simp [hopen, hpermits, Except.map] at hopened
      | true =>
          cases hopen : openFor Entry.isWritable w p with
          | error cause => simp [hopen, hpermits, Except.map] at hopened
          | ok named =>
              obtain rfl : named.1 = found := by
                simpa [hopen, hpermits, Except.map] using hopened
              simp [Except.bind, hpermits, FileTree.overwrite, entryAt?_of_openFor hopen]

/-- A write fails because the path has no place, or for a reason of the system. -/
theorem writing_eq_error {w : World} {p : Path} {contents : Text.Bytes} {failure : Failure}
    (h : writing w p contents = .error failure) :
    place w p = .error failure ∨ ∃ cause, failure = .system cause := by
  obtain hplace | ⟨found, -, h⟩ := Action.except_bind_eq_error.mp h
  · exact .inl hplace
  · right
    split at h
    · unfold Storage.verdict at h
      split at h
      · simp at h
      · exact ⟨_, (Except.error.inj h).symm⟩
    · exact ⟨_, (Except.error.inj h).symm⟩

/-- A write leaves a tree as it is, or it overwrites a place. -/
theorem written_cases (w : World) (p : Path) (contents : Text.Bytes) (tree : FileTree) :
    written w p contents tree = tree ∨
      ∃ found, written w p contents tree =
        tree.overwrite found (w.storage.stored found contents) := by
  unfold written
  split
  · exact .inl rfl
  · split
    · exact .inr ⟨_, rfl⟩
    · exact .inl rfl

/-- What a write leaves depends on the place of the path only. -/
theorem written_of_place_eq {w : World} {p other : Path} (h : place w other = place w p)
    (contents : Text.Bytes) (tree : FileTree) :
    written w other contents tree = written w p contents tree := by
  unfold written
  rw [h]

/-- A path has the same place in every tree of one shape. -/
theorem place_of_sameShape {w other : World} (hshape : w.files.SameShape other.files)
    (hdirectory : other.directory = w.directory) (p : Path) : place other p = place w p := by
  rw [place_eq, place_eq, hdirectory, hshape.walk_eq]
  split
  · rfl
  · cases w.files.walk w.directory p.text with
    | error fault => rfl
    | ok found =>
        rcases hshape.entryAt?_cases found with hsame | ⟨e, e', he, he', hregular, hregular', _⟩
        · simp [hsame]
        · have hfile : e ≠ .directory := fun h => by simp [h, Entry.isRegular] at hregular
          have hfile' : e' ≠ .directory := fun h => by simp [h, Entry.isRegular] at hregular'
          simp [he, he', hfile, hfile']

/-- In every tree of one shape the same may be done with what stands at a place. -/
theorem permits_of_sameShape {isAllowed : Entry → Bool}
    (hallowed : ∀ e contents, isAllowed (e.withContents contents) = isAllowed e) {w other : World}
    (hshape : w.files.SameShape other.files) (hstorage : other.storage = w.storage)
    (found : Location) : permits isAllowed other found = permits isAllowed w found := by
  unfold permits
  rw [hstorage]
  rcases hshape.entryAt?_cases found with hsame | ⟨e, e', he, he', -, -, hcontents⟩
  · rw [hsame]
  · rw [he, he', Option.any_some, Option.any_some, ← hallowed e [], hcontents, hallowed]

section Shape

variable {w other : World} (hshape : w.files.SameShape other.files)
  (hdirectory : other.directory = w.directory) (hstorage : other.storage = w.storage) (p : Path)

include hshape hdirectory hstorage

/-- Whether a write to a path goes through can be told from every world of one shape. -/
theorem writing_of_sameShape (contents : Text.Bytes) :
    writing other p contents = writing w p contents := by
  unfold writing
  simp only [place_of_sameShape hshape hdirectory p, hstorage,
    permits_of_sameShape Entry.isWritable_withContents hshape hstorage]

/-- And so can the tree after it. -/
theorem written_of_sameShape (contents : Text.Bytes) :
    written other p contents = written w p contents := by
  unfold written
  simp only [place_of_sameShape hshape hdirectory p, hstorage,
    permits_of_sameShape Entry.isWritable_withContents hshape hstorage]

/-- A path with one place in worlds of one shape reads the same if the same stands there. -/
theorem read_eq_of_entryAt?_eq (hentry : ∀ found, place w p = .ok found →
    other.files.entryAt? found = w.files.entryAt? found) : read other p = read w p := by
  rw [read_eq, read_eq, place_of_sameShape hshape hdirectory p]
  cases hfound : place w p with
  | error failure => rfl
  | ok found =>
      simp only [Except.bind, FileTree.bytesAt, hentry found hfound,
        permits_of_sameShape Entry.isReadable_withContents hshape hstorage]

end Shape

/-- What was written to a file that can be read is what reading it gives. -/
theorem read_of_overwrite {w other : World} (hopen : w.IsOpen) {p : Path} {found : Location}
    (hplace : place w p = .ok found) (hreadable : permits Entry.isReadable w found = true)
    {contents : Text.Bytes} (hfiles : other.files = w.files.overwrite found contents)
    (hdirectory : other.directory = w.directory) (hstorage : other.storage = w.storage) :
    read other p = .ok contents := by
  obtain ⟨e, hentry, hregular⟩ := isRegular_of_place hopen hplace
  have hshape : w.files.SameShape other.files :=
    hfiles ▸ w.files.sameShape_overwrite found contents
  rw [read_eq, place_of_sameShape hshape hdirectory, hplace, Except.bind,
    permits_of_sameShape Entry.isReadable_withContents hshape hstorage, if_pos hreadable, hfiles,
    FileTree.bytesAt_overwrite_self hentry hregular]

/-- Reading depends on the files, on the current directory and on the storage. -/
theorem read_congr {w other : World} (hfiles : other.files = w.files)
    (hdirectory : other.directory = w.directory) (hstorage : other.storage = w.storage) (p : Path) :
    read other p = read w p :=
  read_eq_of_entryAt?_eq (hfiles ▸ .refl _) hdirectory hstorage p fun _ _ => by rw [hfiles]

/-- A write changes nothing outside the place of its file. -/
theorem entryAt?_written_of_ne {w : World} {p : Path} {other : Location}
    (hne : place w p ≠ .ok other) (contents : Text.Bytes) (tree : FileTree) :
    (written w p contents tree).entryAt? other = tree.entryAt? other := by
  unfold written
  split
  · rfl
  · next found hplace =>
      have hother : other ≠ found := fun heq => hne (heq ▸ hplace)
      split
      · rw [FileTree.entryAt?_overwrite, if_neg hother]
      · rfl

/-- What stands at a place after a write depends on what stood there. -/
theorem entryAt?_written_congr {tree other : FileTree} {found : Location}
    (hsame : other.entryAt? found = tree.entryAt? found) (w : World) (p : Path)
    (contents : Text.Bytes) :
    (written w p contents other).entryAt? found = (written w p contents tree).entryAt? found := by
  unfold written
  split
  · exact hsame
  · split
    · rw [FileTree.entryAt?_overwrite, FileTree.entryAt?_overwrite]
      split
      · next heq => rw [← heq, hsame]
      · exact hsame
    · exact hsame

/-- Writing the same again changes nothing where it was written. -/
theorem entryAt?_written_written {w : World} {p : Path} {found : Location}
    (hplace : place w p = .ok found) (contents : Text.Bytes) (tree : FileTree) :
    (written w p contents (written w p contents tree)).entryAt? found =
      (written w p contents tree).entryAt? found := by
  unfold written
  simp only [hplace]
  split
  · simp [FileTree.entryAt?_overwrite, Function.comp_def]
  · rfl

/-- A write to one of the places at which trees may differ keeps their agreement. -/
theorem agreesOff_written {w : World} {tree : FileTree} {places : Location → Prop}
    (hagrees : w.files.AgreesOff places tree) {p : Path}
    (hp : ∀ found, place w p = .ok found → places found) (contents : Text.Bytes) :
    w.files.AgreesOff places (written w p contents tree) := by
  unfold written
  split
  · exact hagrees
  · next found hplace =>
      split
      · exact hagrees.overwrite (hp found hplace) _
      · exact hagrees

/-- A write that goes through is one of all contents. -/
theorem written_of_writing_eq_ok {w : World} {p : Path} {contents : Text.Bytes}
    (h : writing w p contents = .ok ()) :
    ∃ found, place w p = .ok found ∧
      ∀ tree, written w p contents tree = tree.overwrite found contents := by
  obtain ⟨found, hplace, h⟩ := Action.except_bind_eq_ok.mp h
  refine ⟨found, hplace, fun tree => ?_⟩
  unfold written
  split at h
  · next hpermits =>
      have hstored : w.storage.stored found contents = contents := by
        unfold Storage.verdict at h
        unfold Storage.stored
        split at h
        · simp
        · simp at h
      simp [hplace, hpermits, hstored]
  · simp at h

end Contents

end FormatLauncher
