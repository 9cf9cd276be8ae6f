/-
# Links that do not loop

A link on the way of some names is met by them, and so is every link that this link meets.  Where
names lead somewhere, each link they meet leads somewhere over fewer links.  So links do not loop,
that is, none is met again while its own target is followed, exactly if all names lead somewhere: a
tree has only so many links.
-/

import FormatLauncher.Proofs.FileTree.Leading
import Mathlib.Data.Fintype.EquivFin
import Mathlib.Data.Set.Finite.List
import Mathlib.Order.WellFounded

namespace FormatLauncher.FileTree

variable {tree : FileTree} {n m : Nat} {here mid place other stop met : Location}
  {name target : String} {names rest : List String}

/-! ## Links on the way -/

/-- The link at a place leads to a place, over so many other links. -/
def LinkLeads (tree : FileTree) (n : Nat) (place stop : Location) : Prop :=
  ∃ target, tree.link? place = some target ∧
    tree.Leads n (startOf place.dropLast target) (Path.segments target) stop

theorem LinkLeads.unique (h : tree.LinkLeads n place stop) (h' : tree.LinkLeads m place other) :
    n = m ∧ stop = other := by
  obtain ⟨target, hlink, hleads⟩ := h
  obtain ⟨target', hlink', hleads'⟩ := h'
  obtain rfl : target = target' := by simpa [hlink] using hlink'
  exact hleads.unique hleads'

/-- A link on the way leads to where the names after it lead on from. -/
theorem Leads.of_link (hname : Path.GoesDown name) (hlink : tree.LinkLeads n (here ++ [name]) stop)
    (hrest : tree.Leads m stop rest place) : tree.Leads (n + m + 1) here (name :: rest) place := by
  obtain ⟨target, htarget, hleads⟩ := hlink
  rw [List.dropLast_concat] at hleads
  exact .link hname htarget (hleads.append hrest)

/-- Where names lead past a link, the link leads somewhere, and over fewer links. -/
theorem Leads.exists_linkLeads (h : tree.Leads n here (name :: rest) place)
    (hname : Path.GoesDown name) (hlink : tree.link? (here ++ [name]) = some target) :
    ∃ first second stop, tree.LinkLeads first (here ++ [name]) stop ∧
      tree.Leads second stop rest place ∧ n = first + second + 1 := by
  simp only [leads_cons_iff, hname.1, hname.2.1, hname.2.2, hlink, or_self, if_false] at h
  obtain ⟨m, rfl, hleads⟩ := h
  obtain ⟨first, second, stop, hfirst, hsecond, rfl⟩ := hleads.split
  exact ⟨first, second, stop, ⟨target, hlink, by rwa [List.dropLast_concat]⟩, hsecond, rfl⟩

/-- Following names from a place comes upon the link at another one, at first or behind other
links. -/
inductive Meets (tree : FileTree) : Location → List String → Location → Prop
  | here {here : Location} {name target : String} {rest : List String}
      (hname : Path.GoesDown name) (hlink : tree.link? (here ++ [name]) = some target) :
      Meets tree here (name :: rest) (here ++ [name])
  | stay {here met : Location} {name : String} {rest : List String}
      (hstay : name = "" ∨ name = ".") (hrest : Meets tree here rest met) :
      Meets tree here (name :: rest) met
  | up {here met : Location} {rest : List String} (hrest : Meets tree here.dropLast rest met) :
      Meets tree here (".." :: rest) met
  | down {here met : Location} {name : String} {rest : List String} (hname : Path.GoesDown name)
      (hplain : tree.link? (here ++ [name]) = none)
      (hrest : Meets tree (here ++ [name]) rest met) : Meets tree here (name :: rest) met
  | link {here met : Location} {name target : String} {rest : List String}
      (hname : Path.GoesDown name) (hlink : tree.link? (here ++ [name]) = some target)
      (hrest : Meets tree (startOf here target) (Path.segments target ++ rest) met) :
      Meets tree here (name :: rest) met

namespace Meets

/-- What is met is a link. -/
theorem isLink (h : tree.Meets here names met) : ∃ target, tree.link? met = some target := by
  induction h with
  | here _ hlink => exact ⟨_, hlink⟩
  | stay _ _ ih => exact ih
  | up _ ih => exact ih
  | down _ _ _ ih => exact ih
  | link _ _ _ ih => exact ih

/-- Whatever names meet, they meet before other names. -/
theorem append (h : tree.Meets here names met) : tree.Meets here (names ++ rest) met := by
  induction h with
  | here hname hlink => exact .here hname hlink
  | stay hstay _ ih => exact .stay hstay ih
  | up _ ih => exact .up ih
  | down hname hplain _ ih => exact .down hname hplain ih
  | link hname hlink _ ih => exact .link hname hlink (by simpa using ih)

/-- Whatever is met from where names lead is met behind these names. -/
theorem of_leads (h : tree.Leads n here names mid) (hrest : tree.Meets mid rest met) :
    tree.Meets here (names ++ rest) met := by
  induction h with
  | done => exact hrest
  | stay hstay _ ih => exact .stay hstay (ih hrest)
  | up _ ih => exact .up (ih hrest)
  | down hname hplain _ ih => exact .down hname hplain (ih hrest)
  | link hname hlink _ ih => exact .link hname hlink (by simpa using ih hrest)

/-- Whatever a link meets is met by everything that meets the link. -/
theorem trans (h : tree.Meets here names met) (hlink : tree.link? met = some target)
    (hbehind : tree.Meets (startOf met.dropLast target) (Path.segments target) other) :
    tree.Meets here names other := by
  induction h with
  | @here here name target' rest hname hlink' =>
      obtain rfl : target' = target := by simpa [hlink'] using hlink
      rw [List.dropLast_concat] at hbehind
      exact .link hname hlink hbehind.append
  | stay hstay _ ih => exact .stay hstay (ih hlink hbehind)
  | up _ ih => exact .up (ih hlink hbehind)
  | down hname hplain _ ih => exact .down hname hplain (ih hlink hbehind)
  | link hname hlink' _ ih => exact .link hname hlink' (ih hlink hbehind)

/-- Where names lead somewhere, each link they meet leads somewhere too, and over fewer links. -/
theorem exists_linkLeads (h : tree.Meets here names met) (hleads : tree.Leads n here names place) :
    ∃ m stop, tree.LinkLeads m met stop ∧ m < n := by
  induction h generalizing n with
  | here hname hlink =>
      obtain ⟨first, second, stop, hstop, -, rfl⟩ := hleads.exists_linkLeads hname hlink
      exact ⟨first, stop, hstop, by omega⟩
  | stay hstay _ ih =>
      rw [leads_cons_iff, if_pos hstay] at hleads
      exact ih hleads
  | up _ ih => exact ih (by simpa [leads_cons_iff] using hleads)
  | down hname hplain _ ih =>
      exact ih (by simpa [leads_cons_iff, hname.1, hname.2.1, hname.2.2, hplain] using hleads)
  | link hname hlink _ ih =>
      simp only [leads_cons_iff, hname.1, hname.2.1, hname.2.2, hlink, or_self, if_false] at hleads
      obtain ⟨k, rfl, hrest⟩ := hleads
      obtain ⟨m, stop, hstop, hless⟩ := ih hrest
      exact ⟨m, stop, hstop, Nat.lt_succ_of_lt hless⟩

end Meets

/-! ## Loops -/

/-- Following the link at a place comes upon the link at another one. -/
def LinkMeets (tree : FileTree) (place met : Location) : Prop :=
  ∃ target, tree.link? place = some target ∧
    tree.Meets (startOf place.dropLast target) (Path.segments target) met

/-- No link is met again while its own target is followed. -/
def LoopFree (tree : FileTree) : Prop := ∀ place, ¬tree.LinkMeets place place

theorem LinkMeets.trans (h : tree.LinkMeets place met) (hbehind : tree.LinkMeets met other) :
    tree.LinkMeets place other := by
  obtain ⟨target, hlink, hmeets⟩ := h
  obtain ⟨target', hlink', hmeets'⟩ := hbehind
  exact ⟨target, hlink, hmeets.trans hlink' hmeets'⟩

/-- Where a link leads somewhere, each link behind it does so over fewer links. -/
theorem LinkMeets.exists_linkLeads (h : tree.LinkMeets place met)
    (hleads : tree.LinkLeads n place stop) : ∃ m stop, tree.LinkLeads m met stop ∧ m < n := by
  obtain ⟨target, hlink, hmeets⟩ := h
  obtain ⟨target', hlink', hstop⟩ := hleads
  obtain rfl : target = target' := by simpa [hlink] using hlink'
  exact hmeets.exists_linkLeads hstop

/-- Links that all lead somewhere do not loop. -/
theorem loopFree_of_linkLeads
    (h : ∀ place target, tree.link? place = some target → ∃ n stop, tree.LinkLeads n place stop) :
    tree.LoopFree := by
  intro place hloop
  obtain ⟨target, hlink, -⟩ := id hloop
  obtain ⟨n, stop, hstop⟩ := h place target hlink
  obtain ⟨m, again, hagain, hless⟩ := hloop.exists_linkLeads hstop
  exact absurd (hagain.unique hstop).1 (Nat.ne_of_lt hless)

/-- Names lead somewhere if every link that they meet does. -/
theorem exists_leads_of_meets
    (h : ∀ met, tree.Meets here names met → ∃ n stop, tree.LinkLeads n met stop) :
    ∃ n place, tree.Leads n here names place := by
  induction names generalizing here with
  | nil => exact ⟨0, here, .done here⟩
  | cons name rest ih =>
      by_cases hstay : name = "" ∨ name = "."
      · obtain ⟨n, place, hrest⟩ := ih fun met hmet => h met (.stay hstay hmet)
        exact ⟨n, place, .stay hstay hrest⟩
      · by_cases hup : name = ".."
        · subst hup
          obtain ⟨n, place, hrest⟩ := ih fun met hmet => h met (.up hmet)
          exact ⟨n, place, .up hrest⟩
        · obtain ⟨hempty, hdot⟩ := not_or.mp hstay
          have hname : Path.GoesDown name := ⟨hempty, hdot, hup⟩
          cases hlink : tree.link? (here ++ [name]) with
          | none =>
              obtain ⟨n, place, hrest⟩ := ih fun met hmet => h met (.down hname hlink hmet)
              exact ⟨n, place, .down hname hlink hrest⟩
          | some target =>
              obtain ⟨n, stop, target', htarget, hstop⟩ := h _ (.here hname hlink)
              obtain rfl : target = target' := by simpa [hlink] using htarget
              have hstart := hstop
              rw [List.dropLast_concat] at hstart
              obtain ⟨m, place, hrest⟩ := ih fun met hmet =>
                h met (.link hname hlink (.of_leads hstart hmet))
              exact ⟨_, place, .of_link hname ⟨target, hlink, hstop⟩ hrest⟩

/-- What holds a link is an entry of the tree. -/
theorem mem_of_link? (hlink : tree.link? place = some target) :
    (place, .link target) ∈ tree.entries := by
  rw [link?_eq_some_iff, entryAt?] at hlink
  split at hlink
  · simp at hlink
  · obtain ⟨before, after, hentries, -⟩ := List.lookup_eq_some_iff.mp hlink
    simp [hentries]

/-- The places of links. -/
abbrev LinkPlace (tree : FileTree) : Type := {place // ∃ target, tree.link? place = some target}

/-- A tree has only so many links. -/
theorem finite_linkPlace (tree : FileTree) : Finite tree.LinkPlace := by
  refine ((tree.entries.map Prod.fst).finite_toSet.subset ?_).to_subtype
  rintro place ⟨target, hlink⟩
  exact List.mem_map_of_mem (f := Prod.fst) (mem_of_link? hlink)

/-- Different links are at most as many as there are. -/
theorem length_le_linkCount {places : List Location} (hdistinct : places.Nodup)
    (hlinks : ∀ place ∈ places, ∃ target, tree.link? place = some target) :
    places.length ≤ tree.linkCount := by
  rw [linkCount, List.countP_eq_length_filter, ← List.length_map Prod.fst]
  refine (List.subperm_of_subset hdistinct fun place hplace => ?_).length_le
  obtain ⟨target, htarget⟩ := hlinks place hplace
  exact List.mem_map_of_mem (List.mem_filter.mpr ⟨mem_of_link? htarget, rfl⟩)

/-- Where links do not loop, going from links to links that they meet comes to an end. -/
theorem LoopFree.wellFounded (h : tree.LoopFree) :
    WellFounded fun inner outer : tree.LinkPlace => tree.LinkMeets outer.1 inner.1 := by
  have := tree.finite_linkPlace
  have : IsTrans tree.LinkPlace fun inner outer => tree.LinkMeets outer.1 inner.1 :=
    ⟨fun _ _ _ hinner houter => houter.trans hinner⟩
  have : Std.Irrefl fun inner outer : tree.LinkPlace => tree.LinkMeets outer.1 inner.1 :=
    ⟨fun link => h link.1⟩
  exact Finite.wellFounded_of_trans_of_irrefl _

/-- Where links do not loop, all of them lead somewhere. -/
theorem LoopFree.exists_linkLeads (h : tree.LoopFree) (link : tree.LinkPlace) :
    ∃ n stop, tree.LinkLeads n link.1 stop := by
  induction link using h.wellFounded.induction with
  | _ link ih =>
      obtain ⟨place, target, hlink⟩ := link
      obtain ⟨n, stop, hleads⟩ := exists_leads_of_meets fun met hmet =>
        ih ⟨met, hmet.isLink⟩ ⟨target, hlink, hmet⟩
      exact ⟨n, stop, target, hlink, hleads⟩

/-- Links do not loop exactly if all names lead somewhere. -/
theorem loopFree_iff :
    tree.LoopFree ↔ ∀ here names, ∃ n place, tree.Leads n here names place := by
  constructor
  · exact fun hloops here names =>
      exists_leads_of_meets fun met hmet => hloops.exists_linkLeads ⟨met, hmet.isLink⟩
  · intro hleads
    refine loopFree_of_linkLeads fun place target hlink => ?_
    obtain ⟨n, stop, hstop⟩ := hleads (startOf place.dropLast target) (Path.segments target)
    exact ⟨n, stop, target, hlink, hstop⟩

end FormatLauncher.FileTree
