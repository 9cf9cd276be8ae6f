/-
# One place for all spellings

Where links do not loop, a spelling that expands does so to a place in normal form: no link is on
the way to it, its names neither stay nor go up, and its own text expands to it again.  So the
folder of a document is the same however the document is spelled.
-/

import FormatLauncher.Proofs.FileTree.Resolving
import FormatLauncher.Proofs.Workspace

namespace FormatLauncher

/-- What every system sees to: no link is on the way to the current directory, and no name of it
and no link holds a NUL. -/
structure World.IsProper (w : World) : Prop where
  isLinkFree : w.files.IsLinkFree w.directory
  directory : ∀ name ∈ w.directory, Spelling.hasNul name = false
  links : ∀ place target, w.files.link? place = some target → Spelling.hasNul target = false

namespace Workspace

variable {w : World} {spelling : String} {place : Location}

/-- The names of a spelling, its tilde replaced, lead to a place. -/
def Leads (w : World) (spelling : String) (place : Location) : Prop :=
  ∃ p n, (Path.parse spelling).expandHome w.environment = .ok p ∧
    w.files.Leads n (p.origin w.directory) p.names place

/-- Where links do not loop, a spelling that expands does so to where its names lead, and that is a
link-free place that has a name, without a NUL. -/
theorem leads_of_expand_eq_ok (hw : w.IsProper) (hloops : w.files.LoopFree)
    (h : expand w spelling = .ok place) :
    Leads w spelling place ∧ w.files.IsLinkFree place ∧ place.isLost = false ∧
      place.any Spelling.hasNul = false := by
  rw [expand] at h
  cases hhome : (Path.parse spelling).expandHome w.environment with
  | error failure => simp [FileTree.expand, hhome] at h
  | ok p =>
      have hnames := Path.isName_of_expandHome (fun _ => Path.isName_of_mem_parse) hhome
      obtain ⟨n, stop, hleads⟩ :=
        FileTree.loopFree_iff.mp hloops (p.origin w.directory) p.names
      obtain ⟨rfl, hnul, hfree, hnamed⟩ := FileTree.isLinkFree_of_expand hhome hw.isLinkFree
        (fun name hname => (hnames name hname).2.2) hleads h
      refine ⟨⟨p, n, hhome, hleads⟩, hfree, hnamed, List.any_eq_false.mpr fun name hname => ?_⟩
      have horigin : ∀ name ∈ p.origin w.directory, Spelling.hasNul name = false := by
        unfold Path.origin
        split
        · simp
        · exact hw.directory
      have hclean := hleads.forall_mem
        (fun hlink _ hsegment _ => Path.hasNul_of_mem_segments hsegment (hw.links _ _ hlink))
        horigin (fun name hname _ => by simpa using List.any_eq_false.mp hnul name hname)
        name hname
      simp [hclean]

/-- Where links do not loop, a spelling that expands does so to the place that its names lead to.
This is an absolute place without dots and without links on the way, and its text expands to it
again.  The place, its text and every other spelling that expands to it have the folder that the
spelling has. -/
theorem expand_canonical (hw : w.IsProper) (hloops : w.files.LoopFree)
    (h : expand w spelling = .ok place) :
    Leads w spelling place ∧
      Path.parse place.text = Path.ofLocation place ∧
      (∀ name ∈ place, name ≠ "" ∧ name ≠ "." ∧ name ≠ "..") ∧
      (∀ n target, w.files.link? (place.take n) ≠ some target) ∧
      expand w place.text = .ok place ∧
      ∀ workspace : Workspace,
        workspace.folderFor w (some (Path.parse spelling)) = .ok (workspace.folderAt place) ∧
        workspace.folderFor w (some (Path.ofLocation place)) = .ok (workspace.folderAt place) ∧
        ∀ other, expand w other = .ok place →
          workspace.folderFor w (some (Path.parse other)) =
            workspace.folderFor w (some (Path.parse spelling)) := by
  obtain ⟨hleads, hfree, hnamed, hnul⟩ := leads_of_expand_eq_ok hw hloops h
  have hparse : Path.parse place.text = Path.ofLocation place :=
    Path.parse_text (p := .ofLocation place) fun name hname => (hfree.isName hnamed name hname).1
  have hagain : w.files.expand w.environment w.directory (Path.ofLocation place) = .ok place :=
    hfree.expand_ofLocation hnamed hnul w.environment w.directory
  refine ⟨hleads, hparse, hfree.goesDown hnamed, fun n target hlink => ?_, ?_,
    fun workspace => ⟨folderFor_of_expand h, folderFor_of_expand hagain, fun other hother => ?_⟩⟩
  · exact hfree.free n target (FileTree.link?_eq_some_iff.mp hlink)
  · rw [expand, hparse, hagain]
  · rw [folderFor_of_expand h, folderFor_of_expand hother]

/-- A world whose current directory holds a link to a link, and no loop. -/
def chainWorld : World where
  files := ⟨[(["a"], .directory), (["a", "b"], .link "../c/./d/.."), (["c"], .directory),
    (["c", "d"], .link "e/f"), (["x.sql"], .file [] 0o644)]⟩
  programs := fun _ _ tree => some ⟨0, [], [], tree⟩
  environment := [("HOME", "/a/")]
  directory := ["a"]
  log := []
  runs := []

theorem link_chainWorld {target : String} (hlink : chainWorld.files.link? place = some target) :
    place = ["a", "b"] ∧ target = "../c/./d/.." ∨ place = ["c", "d"] ∧ target = "e/f" := by
  simpa [chainWorld] using FileTree.mem_of_link? hlink

/-- Both links of the world lead somewhere. -/
theorem loopFree_chainWorld : chainWorld.files.LoopFree := by
  have hinner : chainWorld.files.Leads 0 ["c"] ["e", "f"] ["c", "e", "f"] :=
    .down (by decide) (by decide) (.down (by decide) (by decide) (.done _))
  have hbehind : chainWorld.files.Leads 0 ["c"] ["e", "f", ".."] ["c", "e"] :=
    hinner.append (.up (.done _))
  have hlink : chainWorld.files.link? ["c", "d"] = some "e/f" := by decide
  have houter : chainWorld.files.Leads 1 ["a"] ["..", "c", ".", "d", ".."] ["c", "e"] :=
    .up (.down (by decide) (by decide) (.stay (.inr rfl) (.link (by decide) hlink hbehind)))
  refine FileTree.loopFree_of_linkLeads fun place target hlink => ?_
  obtain ⟨rfl, rfl⟩ | ⟨rfl, rfl⟩ := link_chainWorld hlink
  · exact ⟨1, _, _, hlink, houter⟩
  · exact ⟨0, _, _, hlink, hinner⟩

theorem isProper_chainWorld : chainWorld.IsProper where
  isLinkFree :=
    have hleads : chainWorld.files.Leads 0 [] ["a"] ["a"] := .down (by decide) (by decide) (.done _)
    hleads.isLinkFree chainWorld.files.isLinkFree_root (by decide)
  directory := by decide
  links place target hlink := by
    obtain ⟨rfl, rfl⟩ | ⟨rfl, rfl⟩ := link_chainWorld hlink
    · decide
    · decide

/-- From the home directory and over two links a spelling expands to a place, and so does another
spelling; both have the folder of the place. -/
theorem expand_canonical_chain :
    expand chainWorld "~/b/../x.sql" = .ok ["c", "x.sql"] ∧
      expand chainWorld "/c/x.sql" = .ok ["c", "x.sql"] ∧
      (⟨none, [⟨"c", ["c"]⟩]⟩ : Workspace).folderFor chainWorld (some (Path.parse "/c/x.sql")) =
        .ok (some ⟨"c", ["c"]⟩) := by
  have hexpand : expand chainWorld "~/b/../x.sql" = .ok ["c", "x.sql"] := by decide +kernel
  obtain ⟨-, -, -, -, hagain, hfolder⟩ :=
    expand_canonical isProper_chainWorld loopFree_chainWorld hexpand
  obtain ⟨hfound, -, hother⟩ := hfolder ⟨none, [⟨"c", ["c"]⟩]⟩
  have htext : Location.text ["c", "x.sql"] = "/c/x.sql" := by decide
  rw [htext] at hagain
  exact ⟨hexpand, hagain, (hother _ hagain).trans hfound⟩

end Workspace

end FormatLauncher
