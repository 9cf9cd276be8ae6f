/-
# Where names lead when every link is followed

Names lead from a place to a place over some number of links: a name goes down whether or not
anything is there, and a link goes on with the names of its target.  They lead to one place only,
and on the way to it there is no link.  A walk to something that exists ends where its names lead.
-/

import FormatLauncher.Proofs.FileTree.Collapse

namespace FormatLauncher

/-- A name that goes down: it does not stay and does not go up. -/
def Path.GoesDown (name : String) : Prop := name ≠ "" ∧ name ≠ "." ∧ name ≠ ".."

instance : DecidablePred Path.GoesDown := fun name =>
  inferInstanceAs (Decidable (name ≠ "" ∧ name ≠ "." ∧ name ≠ ".."))

namespace FileTree

variable {tree : FileTree}

/-! ## Following names -/

/-- Names lead from a place to a place over so many links.  Names in a directory that is not there
lead below it, and double dots lead out of it again. -/
inductive Leads (tree : FileTree) : Nat → Location → List String → Location → Prop
  | done (here : Location) : Leads tree 0 here [] here
  | stay {n here name rest place} (hstay : name = "" ∨ name = ".")
      (hrest : Leads tree n here rest place) : Leads tree n here (name :: rest) place
  | up {n here rest place} (hrest : Leads tree n here.dropLast rest place) :
      Leads tree n here (".." :: rest) place
  | down {n here name rest place} (hname : Path.GoesDown name)
      (hplain : tree.link? (here ++ [name]) = none)
      (hrest : Leads tree n (here ++ [name]) rest place) : Leads tree n here (name :: rest) place
  | link {n here name target rest place} (hname : Path.GoesDown name)
      (hlink : tree.link? (here ++ [name]) = some target)
      (hrest : Leads tree n (startOf here target) (Path.segments target ++ rest) place) :
      Leads tree (n + 1) here (name :: rest) place

variable {n m : Nat} {here mid place other : Location} {name target : String}
  {names rest : List String}

/-- Names lead on by the first of them. -/
theorem leads_cons_iff :
    tree.Leads n here (name :: rest) place ↔
      if name = "" ∨ name = "." then tree.Leads n here rest place
      else if name = ".." then tree.Leads n here.dropLast rest place
      else
        match tree.link? (here ++ [name]) with
        | none => tree.Leads n (here ++ [name]) rest place
        | some target => ∃ m, n = m + 1 ∧
          tree.Leads m (startOf here target) (Path.segments target ++ rest) place := by
  constructor
  · intro h
    cases h with
    | stay hstay hrest => rwa [if_pos hstay]
    | up hrest => simpa using hrest
    | down hname hplain hrest => simpa [hname.1, hname.2.1, hname.2.2, hplain] using hrest
    | link hname hlink hrest => simpa [hname.1, hname.2.1, hname.2.2, hlink] using hrest
  · intro h
    split at h
    · next hstay => exact .stay hstay h
    · next hstay =>
        obtain ⟨hempty, hdot⟩ := not_or.mp hstay
        split at h
        · next hup => exact hup ▸ .up h
        · next hup =>
            split at h
            · next hplain => exact .down ⟨hempty, hdot, hup⟩ hplain h
            · next hlink =>
                obtain ⟨m, rfl, hrest⟩ := h
                exact .link ⟨hempty, hdot, hup⟩ hlink hrest

namespace Leads

/-- Names lead on from where the names before them lead. -/
theorem append (h : tree.Leads n here names mid) (hrest : tree.Leads m mid rest place) :
    tree.Leads (n + m) here (names ++ rest) place := by
  induction h with
  | done => simpa using hrest
  | stay hstay _ ih => exact .stay hstay (ih hrest)
  | up _ ih => exact .up (ih hrest)
  | down hname hplain _ ih => exact .down hname hplain (ih hrest)
  | link hname hlink _ ih =>
      have hon := ih hrest
      rw [List.append_assoc] at hon
      rw [Nat.add_right_comm]
      exact .link hname hlink hon

/-- What leads somewhere leads there in two parts, wherever it is cut. -/
theorem split (h : tree.Leads n here (names ++ rest) place) :
    ∃ first second mid, tree.Leads first here names mid ∧ tree.Leads second mid rest place ∧
      n = first + second := by
  generalize hwhole : names ++ rest = whole at h
  induction h generalizing names with
  | done here =>
      obtain ⟨rfl, rfl⟩ := List.append_eq_nil_iff.mp hwhole
      exact ⟨0, 0, here, .done here, .done here, rfl⟩
  | @stay n here _ _ _ hstay hrest ih =>
      obtain ⟨rfl, rfl⟩ | ⟨names, rfl, rfl⟩ := List.append_eq_cons_iff.mp hwhole
      · exact ⟨0, n, here, .done here, .stay hstay hrest, (Nat.zero_add n).symm⟩
      · obtain ⟨first, second, mid, hfirst, hsecond, hsum⟩ := ih rfl
        exact ⟨first, second, mid, .stay hstay hfirst, hsecond, hsum⟩
  | @up n here _ _ hrest ih =>
      obtain ⟨rfl, rfl⟩ | ⟨names, rfl, rfl⟩ := List.append_eq_cons_iff.mp hwhole
      · exact ⟨0, n, here, .done here, .up hrest, (Nat.zero_add n).symm⟩
      · obtain ⟨first, second, mid, hfirst, hsecond, hsum⟩ := ih rfl
        exact ⟨first, second, mid, .up hfirst, hsecond, hsum⟩
  | @down n here _ _ _ hname hplain hrest ih =>
      obtain ⟨rfl, rfl⟩ | ⟨names, rfl, rfl⟩ := List.append_eq_cons_iff.mp hwhole
      · exact ⟨0, n, here, .done here, .down hname hplain hrest, (Nat.zero_add n).symm⟩
      · obtain ⟨first, second, mid, hfirst, hsecond, hsum⟩ := ih rfl
        exact ⟨first, second, mid, .down hname hplain hfirst, hsecond, hsum⟩
  | @link n here _ _ _ _ hname hlink hrest ih =>
      obtain ⟨rfl, rfl⟩ | ⟨names, rfl, rfl⟩ := List.append_eq_cons_iff.mp hwhole
      · exact ⟨0, n + 1, here, .done here, .link hname hlink hrest, (Nat.zero_add _).symm⟩
      · obtain ⟨first, second, mid, hfirst, hsecond, hsum⟩ := ih (List.append_assoc _ _ _)
        exact ⟨first + 1, second, mid, .link hname hlink hfirst, hsecond, by omega⟩

/-- Names lead to one place only, and over one number of links. -/
theorem unique (h : tree.Leads n here names place) (h' : tree.Leads m here names other) :
    n = m ∧ place = other := by
  induction h generalizing m other with
  | done => cases h'; exact ⟨rfl, rfl⟩
  | stay hstay _ ih =>
      rw [leads_cons_iff, if_pos hstay] at h'
      exact ih h'
  | up _ ih => exact ih (by simpa [leads_cons_iff] using h')
  | down hname hplain _ ih =>
      exact ih (by simpa [leads_cons_iff, hname.1, hname.2.1, hname.2.2, hplain] using h')
  | link hname hlink _ ih =>
      obtain ⟨m, rfl, hrest⟩ : ∃ k, m = k + 1 ∧ tree.Leads k _ _ other := by
        simpa [leads_cons_iff, hname.1, hname.2.1, hname.2.2, hlink] using h'
      obtain ⟨rfl, rfl⟩ := ih hrest
      exact ⟨rfl, rfl⟩

/-- The names that follow may be replaced by others that lead to the same. -/
theorem congr_append {following : List String}
    (hrest : ∀ {m mid}, tree.Leads m mid rest place → tree.Leads m mid following place)
    (h : tree.Leads n here (names ++ rest) place) :
    tree.Leads n here (names ++ following) place := by
  obtain ⟨first, second, mid, hfirst, hsecond, rfl⟩ := h.split
  exact hfirst.append (hrest hsecond)

end Leads

/-! ## Walks -/

/-- Empty names among others change nothing. -/
theorem Leads.of_filter
    (h : tree.Leads n here (names.filter (· ≠ "") ++ rest) place) :
    tree.Leads n here (names ++ rest) place := by
  induction names generalizing n here with
  | nil => exact h
  | cons name names ih =>
      by_cases hempty : name = ""
      · exact .stay (.inl hempty) (ih (by simpa [hempty] using h))
      · rw [List.filter_cons_of_pos (by simpa using hempty)] at h
        have hfirst : tree.Leads n here ([name] ++ (names.filter (· ≠ "") ++ rest)) place := h
        have hon : tree.Leads n here ([name] ++ (names ++ rest)) place := hfirst.congr_append ih
        exact hon

/-- The steps of a spelling lead where its segments lead. -/
theorem Leads.of_steps {spelling : String}
    (h : tree.Leads n here (steps spelling ++ rest) place) :
    tree.Leads n here (Path.segments spelling ++ rest) place := by
  rw [steps, List.append_assoc] at h
  refine (h.congr_append fun {m mid} hmid => ?_).of_filter
  split at hmid
  · simpa [leads_cons_iff] using hmid
  · exact hmid

/-- No step of a spelling is empty. -/
theorem ne_empty_of_mem_steps {spelling : String} (h : name ∈ steps spelling) : name ≠ "" := by
  unfold steps at h
  rcases List.mem_append.mp h with hsegment | hdot
  · simpa using (List.mem_filter.mp hsegment).2
  · split at hdot
    · obtain rfl := List.mem_singleton.mp hdot
      decide
    · cases hdot

/-- A walk leads where its names lead, if the walks behind links do. -/
theorem exists_leads_of_walkNames {jump : Location → List String → Except WalkFault Location}
    (hjump : ∀ {here names place}, (∀ name ∈ names, name ≠ "") → jump here names = .ok place →
      ∃ n, tree.Leads n here names place)
    (hnames : ∀ name ∈ names, name ≠ "")
    (hwalk : tree.walkNames true jump here names = .ok place) :
    ∃ n, tree.Leads n here names place := by
  induction names generalizing here with
  | nil =>
      obtain rfl : here = place := by simpa [walkNames] using hwalk
      exact ⟨0, .done here⟩
  | cons name rest ih =>
      have hempty := hnames name List.mem_cons_self
      have hrest : ∀ name ∈ rest, name ≠ "" := fun name h => hnames name (List.mem_cons_of_mem _ h)
      rw [walkNames_cons] at hwalk
      rcases tree.move_cases here name with ⟨fault, -, hmove⟩ | ⟨-, hmoves⟩
      · simp [hmove] at hwalk
      · rcases hmoves with ⟨rfl, hmove⟩ | ⟨rfl, hmove⟩ |
          ⟨hdot, hup, ⟨hplain, hmove⟩ | ⟨target, hlink, hmove⟩⟩
        · obtain ⟨n, hnext⟩ := ih hrest (by simpa [hmove] using hwalk)
          exact ⟨n, .stay (.inr rfl) hnext⟩
        · obtain ⟨n, hnext⟩ := ih hrest (by simpa [hmove] using hwalk)
          exact ⟨n, .up hnext⟩
        · obtain ⟨n, hnext⟩ := ih hrest (by simpa [hmove] using hwalk)
          exact ⟨n, .down ⟨hempty, hdot, hup⟩ hplain hnext⟩
        · have hsteps : ∀ name ∈ steps target ++ rest, name ≠ "" := by
            intro name hname
            rcases List.mem_append.mp hname with htarget | hafter
            · exact ne_empty_of_mem_steps htarget
            · exact hrest name hafter
          obtain ⟨n, hbehind⟩ := hjump hsteps (by simpa [hmove] using hwalk)
          exact ⟨n + 1, .link ⟨hempty, hdot, hup⟩ hlink hbehind.of_steps⟩

/-- Where a walk that follows every link ends, the names of the walk lead. -/
theorem exists_leads_of_walkFrom {budget : Nat} (hnames : ∀ name ∈ names, name ≠ "")
    (hwalk : tree.walkFrom true budget here names = .ok place) :
    ∃ n, tree.Leads n here names place := by
  induction budget generalizing here names place with
  | zero => exact exists_leads_of_walkNames (fun _ hfault => by cases hfault) hnames hwalk
  | succ budget ih => exact exists_leads_of_walkNames ih hnames hwalk

/-! ## Places with no link on the way -/

/-- Going down to where no link is, no link is on the way. -/
theorem FreeOfLinks.concat (h : tree.FreeOfLinks [] here)
    (hplain : tree.link? (here ++ [name]) = none) : tree.FreeOfLinks [] (here ++ [name]) := by
  intro n target
  by_cases hinside : n ≤ here.length
  · simpa [List.take_append_of_le_length hinside] using h n target
  · rw [List.take_of_length_le (by simp; omega)]
    exact link?_eq_none_iff.mp hplain target

theorem FreeOfLinks.dropLast (h : tree.FreeOfLinks [] here) :
    tree.FreeOfLinks [] here.dropLast := by
  intro n target
  rw [List.dropLast_eq_take, List.take_take]
  exact h _ target

/-- Where names lead from a place with no link on the way, no link is on the way. -/
theorem Leads.freeOfLinks (h : tree.Leads n here names place) (hhere : tree.FreeOfLinks [] here) :
    tree.FreeOfLinks [] place := by
  induction h with
  | done => exact hhere
  | stay _ _ ih => exact ih hhere
  | up _ ih => exact ih hhere.dropLast
  | down _ hplain _ ih => exact ih (hhere.concat hplain)
  | @link n here _ target _ _ _ _ _ ih =>
      refine ih ?_
      rw [startOf]
      split
      · exact fun k target => by simp [tree.isOpen_root.entryAt?_eq]
      · exact hhere

/-- The first name of a way without links is the name of no link, nor are the others. -/
theorem FreeOfLinks.cons (h : tree.FreeOfLinks here (name :: rest)) :
    tree.link? (here ++ [name]) = none ∧ tree.FreeOfLinks (here ++ [name]) rest := by
  refine ⟨link?_eq_none_iff.mpr fun target => by simpa using h 1 target, fun n target => ?_⟩
  simpa using h (n + 1) target

/-- Where no link is on the way there are not too many of them. -/
theorem walkNames_ne_tooManyLinks {followLast : Bool}
    {jump : Location → List String → Except WalkFault Location}
    (hnames : ∀ name ∈ names, Path.GoesDown name) (hfree : tree.FreeOfLinks here names) :
    tree.walkNames followLast jump here names ≠ .error .tooManyLinks := by
  induction names generalizing here with
  | nil => simp [walkNames]
  | cons name rest ih =>
      obtain ⟨hplain, hrest⟩ := hfree.cons
      have hname := hnames name List.mem_cons_self
      rw [walkNames_cons]
      rcases tree.move_cases here name with ⟨fault, hfew, hmove⟩ | ⟨-, hmoves⟩
      · simpa [hmove] using hfew
      · rcases hmoves with ⟨hdot, -⟩ | ⟨hup, -⟩ | ⟨-, -, ⟨-, hmove⟩ | ⟨target, hlink, -⟩⟩
        · exact absurd hdot hname.2.1
        · exact absurd hup hname.2.2
        · rw [hmove]
          exact ih (fun name h => hnames name (List.mem_cons_of_mem _ h)) hrest
        · simp [hplain] at hlink

end FileTree

end FormatLauncher
