/-
# After files were written back

Which folder a file belongs to, what is expanded for it and where its command is found are read off
the shape of the tree and its links, never off what files hold.  So a formatter that is indifferent
to what the files of a batch hold does in the world that the batch leaves what it did before.
-/

import FormatLauncher.Proofs.FormatInput
import FormatLauncher.Proofs.Steady

namespace FormatLauncher

open Action

/-! ## What a path leads to -/

namespace FileTree

variable {tree other : FileTree}

/-- Trees of one shape have the same links. -/
theorem SameShape.link?_eq (h : tree.SameShape other) (place : Location) :
    other.link? place = tree.link? place := by
  unfold link?
  rcases h.entryAt?_cases place with hsame | ⟨e, e', he, he', hregular, hregular', -⟩
  · rw [hsame]
  · rw [he, he']
    cases e <;> cases e' <;> simp_all [Entry.isRegular]

/-- Names are resolved alike where the links are the same, when links are entered alike. -/
theorem resolveNames_congr (hlinks : ∀ place, other.link? place = tree.link? place)
    {enter enter' : List (Path × Option Stop) → Stop → List String → Option Resolution}
    (henter : enter' = enter) (seen : List (Path × Option Stop)) (here : Stop)
    (names : List String) :
    other.resolveNames enter' seen here names = tree.resolveNames enter seen here names := by
  subst henter
  induction names generalizing seen here with
  | nil => rfl
  | cons name rest ih => simp only [resolveNames, hlinks, ih]

theorem resolveFrom_congr (hlinks : ∀ place, other.link? place = tree.link? place) (fuel : Nat) :
    other.resolveFrom fuel = tree.resolveFrom fuel := by
  induction fuel with
  | zero =>
      funext seen here names
      exact resolveNames_congr hlinks rfl seen here names
  | succ fuel ih =>
      funext seen here names
      refine resolveNames_congr hlinks ?_ seen here names
      rw [ih]

/-- The link-free place of a path is the same in trees of one shape with the same number of
links. -/
theorem expand_congr (h : tree.SameShape other) (hcount : other.linkCount = tree.linkCount)
    (environment : Bindings) (current : Location) (p : Path) :
    other.expand environment current p = tree.expand environment current p := by
  have hstop (p : Path) : other.stopOf current p = tree.stopOf current p := by
    rw [stopOf, stopOf, resolveFuel, resolveFuel, hcount, resolveFrom_congr h.link?_eq]
  simp only [expand, resolve, isLinkLoop, hstop, h.walkFrom_eq]
  rfl

/-- Overwriting what is no directory makes and removes no links. -/
theorem linkCount_overwrite (tree : FileTree) {place : Location}
    (hplace : isAlwaysDirectory place = false) (contents : Text.Bytes) :
    (tree.overwrite place contents).linkCount = tree.linkCount := by
  have hput (e : Entry) (entries : List (Location × Entry))
      (hlookup : entries.lookup place = some e) :
      linkCount ⟨putEntry place (e.withContents contents) entries⟩ = linkCount ⟨entries⟩ := by
    induction entries with
    | nil => simp at hlookup
    | cons first rest ih =>
        rcases first with ⟨other, old⟩
        by_cases hsame : other = place
        · subst hsame
          obtain rfl : old = e := by simpa using hlookup
          cases old <;> simp [putEntry, linkCount, Entry.withContents]
        · have hlater := ih (by simpa [List.lookup_cons, beq_false_of_ne (Ne.symm hsame)] using
            hlookup)
          simp only [linkCount, putEntry, if_neg hsame, List.countP_cons] at hlater ⊢
          rw [hlater]
  rw [overwrite]
  cases hentry : tree.entryAt? place with
  | none => rfl
  | some e => exact hput e tree.entries (by simpa [entryAt?, hplace] using hentry)

end FileTree

/-! ## What a request is planned with -/

theorem FileTree.AgreesOff.trans {tree other third : FileTree} {places : Location → Prop}
    (h : tree.AgreesOff places other) (h' : other.AgreesOff places third) :
    tree.AgreesOff places third :=
  ⟨h.1.trans h'.1, fun place hplace => (h'.2 place hplace).trans (h.2 place hplace)⟩

theorem Contents.isAlwaysDirectory_of_place {w : World} {p : Path} {found : Location}
    (hplace : place w p = .ok found) : FileTree.isAlwaysDirectory found = false := by
  obtain ⟨⟨there, e⟩, hfind, hthere⟩ := except_map_eq_ok.mp hplace
  obtain rfl : there = found := hthere
  obtain ⟨-, hentry, he⟩ := entryAt?_of_find hfind
  cases halways : FileTree.isAlwaysDirectory there with
  | false => rfl
  | true => exact absurd (by simpa [FileTree.entryAt?, halways] using hentry.symm) he

/-- A write makes and removes no links. -/
theorem Contents.linkCount_written (w : World) (p : Path) (contents : Text.Bytes)
    (tree : FileTree) : (written w p contents tree).linkCount = tree.linkCount := by
  unfold written
  split
  · rfl
  · next found hplace =>
      split
      · exact tree.linkCount_overwrite (isAlwaysDirectory_of_place hplace) _
      · rfl

theorem Contents.firstPresent_of_sameShape {w other : World} (h : w.SameShape other)
    (paths : List Path) : firstPresent other paths = firstPresent w paths := by
  induction paths with
  | nil => rfl
  | cons p rest ih =>
      have hfound : (other.files.find other.directory p.text).map (fun _ => ()) =
          (w.files.find w.directory p.text).map fun _ => () := by
        rw [FileTree.find, FileTree.find, h.directory_eq, h.files.walk_eq]
        cases w.files.walk w.directory p.text with
        | error fault => rfl
        | ok place =>
            rcases h.files.entryAt?_cases place with hsame | ⟨e, e', he, he', -⟩
            · simp [hsame]
            · simp [he, he', Except.map]
      simp only [firstPresent, ih]
      split
      · rfl
      · cases hother : other.files.find other.directory p.text <;>
          cases hw : w.files.find w.directory p.text <;> simp_all [Except.map]

theorem Interpreter.ignoresContents_discover (folder : Option Path) (environment : Bindings) :
    (discover folder environment).IgnoresContents := by
  rw [discover]
  apply ignoresContents_get_bind
  · intro w other hshape
    simp only [Contents.firstPresent_of_sameShape hshape]
  · intro w
    refine (ignoresContents_ofExcept _).bind (reads_ofExcept _) fun active => ?_
    split
    · exact (ignoresContents_say _ _).bind (reads_say _ _) fun _ => ignoresContents_pure _
    · refine (ignoresContents_ofExcept _).bind (reads_ofExcept _) fun inside => ?_
      split
      · exact (ignoresContents_say _ _).bind (reads_say _ _) fun _ => ignoresContents_pure _
      · exact ignoresContents_pure _

theorem Interpreter.Source.ignoresContents_find (source : Source) (folder : Option Path)
    (environment : Bindings) : (source.find folder environment).IgnoresContents := by
  cases source with
  | discovered => exact ignoresContents_discover folder environment
  | given paths => exact ignoresContents_pure paths

namespace Formatter

theorem ignoresContents_surroundings (f : Formatter) (folder : Option Folder) :
    (f.surroundings folder).IgnoresContents := by
  rw [surroundings]
  apply ignoresContents_get_bind
  · intro w other hshape
    have henvironment : other.environment = w.environment := by
      simpa using (World.programs_and_environment_of_scene_eq hshape.scene).2
    rw [henvironment, hshape.directory_eq]
  · intro w
    refine (f.interpreters.ignoresContents_find _ _).bind
      (Interpreter.Source.reads_find _ _ _) fun interpreters => ?_
    exact (ignoresContents_ofExcept _).bind (reads_ofExcept _) fun _ => ignoresContents_pure _

/-- Planning for a folder does not look at what files hold. -/
theorem ignoresContents_plan (f : Formatter) (folder : Option Folder) :
    (f.plan folder).IgnoresContents :=
  (f.ignoresContents_surroundings folder).bind (f.reads_surroundings folder) fun _ =>
    ((Placeholder.answers_resolve _ _ _ _).ignoresContents.bind
      (Placeholder.answers_resolve _ _ _ _).reads) fun _ => ignoresContents_pure _

/-! ## The world that a batch leaves -/

section Later

variable {f : Formatter} {w v : World} {files : List Path} {tree : FileTree}
  (hagrees : w.files.AgreesOff (places w files) tree)
  (hscene : v.scene = (w.withFiles tree).scene)

include hagrees hscene in
theorem sameShape_of_agreesOff : w.SameShape v := by
  have hfiles : v.files = tree := by
    simpa using World.files_eq_of_scene_eq hscene
  exact ⟨hfiles ▸ hagrees.1, hfiles ▸ hscene⟩

include hagrees hscene in
/-- What a batch wrote back does not change how requests are planned, nor where their commands
lead. -/
theorem commands_of_agreesOff {folder : Option Folder} {plan : Plan} {command : String}
    (h : f.Commands v folder plan command) : f.Commands w folder plan command := by
  have hshape := sameShape_of_agreesOff hagrees hscene
  exact ⟨(f.ignoresContents_plan folder w v hshape).symm.trans h.1,
    (Locator.ignoresContents_inspect plan.query w v hshape).symm.trans h.2⟩

include hagrees hscene in
theorem places_of_agreesOff : places v files = places w files := by
  funext found
  simp only [places, place_eq_of_scene_eq hagrees.1 hscene]

include hagrees hscene in
/-- A formatter that is indifferent to what the files of a batch hold stays so when some of them
were written back. -/
theorem IndifferentTo.later (hindifferent : f.IndifferentTo w files) :
    f.IndifferentTo v files := by
  have hfiles : v.files = tree := by
    simpa using World.files_eq_of_scene_eq hscene
  intro other hother
  rw [places_of_agreesOff hagrees hscene, hfiles] at hother
  have hthere := hindifferent tree hagrees
  have halike := hindifferent other (hagrees.trans hother)
  have hsame : (v.withFiles other).scene = (w.withFiles other).scene :=
    congrArg (·.withFiles other) hscene
  exact {
    shape := hfiles ▸ hother.1
    prints := by
      intro folder plan command hcommands u hu text schedule
      have hcommands := commands_of_agreesOff hagrees hscene hcommands
      have hnow := halike.prints hcommands (hu.trans hsame) text schedule
      have hthen := hthere.prints hcommands hscene text schedule
      exact ⟨hnow.1.trans hthen.1.symm, hnow.2.trans hsame.symm⟩
    locates := by
      intro folder plan hplan u hu schedule
      have hplan := (f.ignoresContents_plan folder w v
        (sameShape_of_agreesOff hagrees hscene)).symm.trans hplan
      have hnow := halike.locates hplan (hu.trans hsame) schedule
      have hthen := hthere.locates hplan hscene schedule
      exact ⟨hnow.1.trans hthen.1.symm, hnow.2.trans hsame.symm⟩ }

include hagrees hscene in
theorem SteadyFor.leavesFiles_later (hsteady : f.SteadyFor w files) : f.LeavesFiles v := by
  have hfiles : v.files = tree := by
    simpa using World.files_eq_of_scene_eq hscene
  intro folder plan command hcommands
  have hcommands := commands_of_agreesOff hagrees hscene hcommands
  constructor
  · intro ready hready input finish hfinish
    rw [start_query_eq hsteady hagrees hcommands hscene] at hready
    rw [hfiles, hsteady.querySteady hcommands hready tree hagrees input] at hfinish
    obtain ⟨_, -, rfl⟩ := Option.map_eq_some_iff.mp hfinish
    exact hfiles.symm
  · intro ready hready input finish hfinish
    rw [start_eq_of_agreesOff hsteady.toFiltersFor hagrees hcommands hscene] at hready
    rw [hfiles, hsteady.steady hcommands hready tree hagrees input] at hfinish
    obtain ⟨_, -, rfl⟩ := Option.map_eq_some_iff.mp hfinish
    exact hfiles.symm

include hagrees hscene in
/-- What is printed for a planned text does not depend on what a batch wrote back. -/
theorem IndifferentTo.printed_eq (hindifferent : f.IndifferentTo w files) {folder : Option Folder}
    {draft : Draft} (hplan : ((f.plan folder).outcome w).1 = .ok draft.plan)
    (schedule : Schedule) : f.printed v schedule draft = f.printed w schedule draft := by
  have halike := hindifferent tree hagrees
  rw [printed, printed, (halike.locates hplan hscene schedule).1, Locator.Cache.alone]
  cases hlocated : ((Locator.locate draft.plan.query f.probeLimit schedule).outcome w).1 with
  | error failure => rfl
  | ok resolved =>
      obtain ⟨_, hv⟩ := f.answers_invocation draft.plan resolved v
      obtain ⟨_, hw⟩ := f.answers_invocation draft.plan resolved w
      cases havailable : resolved.isAvailable with
      | false => simp [bind, Except.bind, hv, hw, havailable]
      | true =>
          have hcommands : f.Commands w folder draft.plan resolved.path :=
            ⟨hplan, (Locator.locate_eq_available (Prod.ext hlocated rfl) havailable).1⟩
          simp only [bind, Except.bind, hv, hw, havailable, if_true]
          exact (halike.prints hcommands hscene draft.text schedule).1

include hagrees hscene in
/-- Nor does what formatting a text comes to, if no links came or went. -/
theorem SteadyFor.formatText_eq (hsteady : f.SteadyFor w files)
    (hlinks : tree.linkCount = w.files.linkCount) (text : String) (document : Option String)
    (schedule : Schedule) :
    ((f.formatText text document schedule).outcome v).1 =
      ((f.formatText text document schedule).outcome w).1 := by
  have hshape := sameShape_of_agreesOff hagrees hscene
  have hfiles : v.files = tree := by
    simpa using World.files_eq_of_scene_eq hscene
  have henvironment : v.environment = w.environment := by
    simpa using (World.programs_and_environment_of_scene_eq hscene).2
  have hfolder (document : Option Path) :
      f.workspace.folderFor v document = f.workspace.folderFor w document := by
    simp only [Workspace.folderFor, henvironment, hshape.directory_eq,
      FileTree.expand_congr hshape.files (hfiles ▸ hlinks)]
  rw [result_formatText (hsteady.leavesFiles_later hagrees hscene),
    result_formatText hsteady.leaves, hfolder]
  cases f.workspace.folderFor w (document.map Path.parse) with
  | error failure => rfl
  | ok folder =>
      dsimp only [Except.bind]
      rw [f.ignoresContents_plan folder w v hshape]
      cases hplan : ((f.plan folder).outcome w).1 with
      | error failure => rfl
      | ok plan =>
          have hprinted : f.printed v schedule ⟨text, plan⟩ = f.printed w schedule ⟨text, plan⟩ :=
            hsteady.indifferentTo.printed_eq hagrees hscene hplan schedule
          exact hprinted

end Later

end Formatter

end FormatLauncher
