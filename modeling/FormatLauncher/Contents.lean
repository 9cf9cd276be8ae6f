/-
# Contents of files

Reading gives the bytes of the file that a path names, links followed.  Writing replaces the bytes
of such a file and nothing else: the file is emptied first, so a write that breaks off leaves the
beginning of the new bytes and none of the old ones.  A file whose mode forbids it is neither read
nor emptied.  Looking for a file takes a name that is too long for a failure, and every other path
that leads nowhere for an absence.
-/

import FormatLauncher.Launch

namespace FormatLauncher.Contents

/-- The refusal of a walk to a path. -/
def refusal (p : Path) (fault : FileTree.WalkFault) : Failure :=
  .system ((Launch.FileRefusal.ofWalk fault).about p.text)

/-- The first of some paths that names something. -/
def firstPresent (w : World) : List Path → Except Failure (Option Path)
  | [] => .ok none
  | p :: rest =>
    if Spelling.hasNul p.text then firstPresent w rest
    else
      match w.files.find w.directory p.text with
      | .ok _ => .ok (some p)
      | .error .nameTooLong => .error (refusal p .nameTooLong)
      | .error _ => firstPresent w rest

/-- The place of the file that a path names, and its entry. -/
def find (w : World) (p : Path) : Except Failure (Location × Entry) :=
  if Spelling.hasNul p.text then .error .embeddedNul
  else
    match w.files.find w.directory p.text with
    | .error fault => .error (refusal p fault)
    | .ok (place, e) =>
      if e = .directory then .error (.system (.isDirectory p.text)) else .ok (place, e)

/-- The place of the file that a path names, and its entry, for a use that its mode has to allow. -/
def openFor (isAllowed : Entry → Bool) (w : World) (p : Path) :
    Except Failure (Location × Entry) :=
  match find w p with
  | .error failure => .error failure
  | .ok (place, e) =>
    if w.storage.ignoresModes || isAllowed e then .ok (place, e)
    else .error (.system (.permissionDenied p.text))

/-- The bytes of the file that a path names. -/
def read (w : World) (p : Path) : Except Failure Text.Bytes :=
  (openFor Entry.isReadable w p).map fun (_, e) => e.contents?.getD []

/-- Write to the file that a path names: whether all was written, and the file tree afterwards. -/
def write (w : World) (p : Path) (contents : Text.Bytes) : Except Failure Unit × FileTree :=
  match openFor Entry.isWritable w p with
  | .error failure => (.error failure, w.files)
  | .ok (place, e) =>
    (w.storage.verdict place contents,
      w.files.put place (e.withContents (w.storage.stored place contents)))

end FormatLauncher.Contents
