/-
# Resolving goes where the names lead

Resolving remembers of each link whether it is being followed, and where it leads otherwise.  If the
names lead somewhere, then the links that are being followed lead on over more links than any link
met behind them.  So none is met inside its own resolution, they are all different, and the links of
the tree are enough to follow.  Resolving stops where the names lead.
-/

import FormatLauncher.Proofs.FileTree.Loops

namespace FormatLauncher

/-- Lexical following comes by the names it starts with and by names that go down. -/
theorem Location.mem_of_mem_follow {start : Location} {names : List String} {name : String}
    (h : name ∈ follow start names) : name ∈ start ∨ name ∈ names ∧ Path.GoesDown name := by
  induction names using List.reverseRecOn with
  | nil => exact .inl h
  | append_singleton before last ih =>
      rw [follow_append_singleton] at h
      have hbefore (h : name ∈ follow start before) :
          name ∈ start ∨ name ∈ before ++ [last] ∧ Path.GoesDown name :=
        (ih h).imp_right fun ⟨hmem, hdown⟩ => ⟨List.mem_append_left _ hmem, hdown⟩
      unfold stepLexically at h
      split at h
      · exact hbefore ((List.dropLast_sublist _).subset h)
      · next hup =>
          split at h
          · exact hbefore h
          · next hstay =>
              obtain ⟨hempty, hdot⟩ := not_or.mp hstay
              rcases List.mem_append.mp h with h | h
              · exact hbefore h
              · obtain rfl := List.mem_singleton.mp h
                exact .inr ⟨by simp, hempty, hdot, hup⟩

/-- Names that go down are followed by adding them. -/
theorem Location.follow_of_goesDown {start : Location} {names : List String}
    (hnames : ∀ name ∈ names, Path.GoesDown name) : follow start names = start ++ names := by
  induction names using List.reverseRecOn with
  | nil => simp [follow]
  | append_singleton before last ih =>
      have hlast := hnames last (by simp)
      rw [follow_append_singleton, ih fun name h => hnames name (by simp [h]), stepLexically,
        if_neg hlast.2.2, if_neg (not_or.mpr ⟨hlast.1, hlast.2.1⟩), List.append_assoc]

/-- Where a path starts. -/
def Path.origin (current : Location) (p : Path) : Location := if p.isAbsolute then [] else current

/-- Where a way leads to from a current directory if no link is on it. -/
def Path.destination (current : Location) (way : Path) : Location :=
  Location.follow (way.origin current) way.names

/-- One name further down. -/
theorem Path.destination_child {current : Location} {way : Path} {name : String}
    (hname : GoesDown name) :
    (way.child name).destination current = way.destination current ++ [name] := by
  rw [destination, child, Location.follow_append_singleton, Location.stepLexically,
    if_neg hname.2.2, if_neg (not_or.mpr ⟨hname.1, hname.2.1⟩)]
  rfl

namespace FileTree

variable {tree : FileTree} {current place stop : Location} {n m : Nat} {name target : String}
  {names rest : List String}

/-! ## Stops -/

/-- The way to a stop leads to its place.  A way from the root does not go up. -/
structure Stop.Sound (current : Location) (stop : Stop) : Prop where
  place_eq : stop.place = stop.way.destination current
  plain : ∀ name ∈ stop.way.names,
    name ≠ "" ∧ name ≠ "." ∧ (stop.way.isAbsolute = true → name ≠ "..")

namespace Stop

variable {here : Stop}

theorem sound_atRoot (current : Location) : atRoot.Sound current :=
  ⟨rfl, by simp [atRoot]⟩

theorem sound_current (current : Location) : Sound current ⟨current, ⟨.relative, []⟩⟩ :=
  ⟨rfl, by simp⟩

theorem Sound.startOf (h : here.Sound current) (spelling : String) :
    (here.startOf spelling).Sound current := by
  unfold Stop.startOf
  split
  · exact sound_atRoot current
  · exact h

theorem place_startOf (here : Stop) (spelling : String) :
    (here.startOf spelling).place = FileTree.startOf here.place spelling := by
  unfold Stop.startOf FileTree.startOf
  split <;> rfl

theorem Sound.down (h : here.Sound current) (hname : Path.GoesDown name) :
    (here.down name).Sound current := by
  refine ⟨?_, fun other hother => ?_⟩
  · rw [Stop.down, Path.destination_child hname, h.place_eq]
  · rcases List.mem_append.mp hother with hother | hother
    · exact h.plain other hother
    · obtain rfl := List.mem_singleton.mp hother
      exact ⟨hname.1, hname.2.1, fun _ => hname.2.2⟩

/-- Going up drops the last name of the way, or puts a double dot behind it. -/
theorem Sound.up (h : here.Sound current) : here.up.Sound current := by
  obtain ⟨place, ⟨root, names⟩⟩ := here
  obtain ⟨hplace, hplain⟩ := h
  dsimp only at hplace hplain
  subst hplace
  simp only [Stop.up]
  split
  · next hkept =>
      refine ⟨?_, fun name hname => hplain name ((List.dropLast_sublist _).subset hname)⟩
      cases names using List.reverseRecOn with
      | nil =>
          -- Only the root is kept without names, and nothing is above it.
          have hroot : root ≠ .relative := by simpa [Path.isAbsolute] using hkept
          simp [Path.destination, Path.origin, Path.isAbsolute, hroot, Location.follow]
      | append_singleton before last =>
          have hlast := hplain last (by simp)
          have hup : last ≠ ".." := by
            by_cases habsolute : Path.isAbsolute ⟨root, before ++ [last]⟩ = true
            · exact hlast.2.2 habsolute
            · simpa [habsolute] using hkept
          have hdown : (Path.child ⟨root, before⟩ last).destination current =
              Path.destination current ⟨root, before⟩ ++ [last] :=
            Path.destination_child ⟨hlast.1, hlast.2.1, hup⟩
          rw [Path.child] at hdown
          rw [hdown, List.dropLast_concat, List.dropLast_concat]
  · next hkept =>
      obtain ⟨-, hrelative⟩ := Bool.or_eq_false_iff.mp (Bool.eq_false_of_not_eq_true hkept)
      obtain rfl : root = .relative := by simpa [Path.isAbsolute] using hrelative
      refine ⟨?_, fun name hname => ?_⟩
      · rw [Path.destination, Path.destination, Location.follow_append_singleton,
          Location.stepLexically_up]
        rfl
      · rcases List.mem_append.mp hname with hname | hname
        · exact hplain name hname
        · obtain rfl := List.mem_singleton.mp hname
          exact ⟨by decide, by decide, by simp [Path.isAbsolute]⟩

end Stop

/-! ## Links that are being followed -/

variable {opened : List Path} {seen : List (Path × Option Stop)} {here next : Stop} {way : Path}

/-- What is known of the links met so far: those without a stop are being followed, and the others
lead to their stops. -/
structure Known (tree : FileTree) (current : Location) (opened : List Path)
    (seen : List (Path × Option Stop)) : Prop where
  opened : ∀ way, seen.lookup way = some none → way ∈ opened
  resolved : ∀ way stop, seen.lookup way = some (some stop) →
    stop.Sound current ∧ ∃ n, tree.LinkLeads n (way.destination current) stop.place

theorem lookup_cons_eq (way other : Path) (stop : Option Stop) :
    ((way, stop) :: seen).lookup other = if other = way then some stop else seen.lookup other := by
  by_cases h : other = way
  · simp [h]
  · have hbeq : (other == way) = false := by simpa using h
    simp [List.lookup_cons, hbeq, h]

/-- One more link is being followed. -/
theorem Known.enter (h : tree.Known current opened seen) (way : Path) :
    tree.Known current (way :: opened) ((way, none) :: seen) := by
  constructor
  · intro other hother
    rw [lookup_cons_eq] at hother
    split at hother
    · next heq => simp [heq]
    · exact List.mem_cons_of_mem _ (h.opened other hother)
  · intro other stop hother
    rw [lookup_cons_eq] at hother
    split at hother
    · cases hother
    · exact h.resolved other stop hother

/-- The link was followed to its stop. -/
theorem Known.leave (h : tree.Known current (way :: opened) seen) {stop : Stop}
    (hsound : stop.Sound current)
    (hleads : tree.LinkLeads n (way.destination current) stop.place) :
    tree.Known current opened ((way, some stop) :: seen) := by
  constructor
  · intro other hother
    rw [lookup_cons_eq] at hother
    split at hother
    · cases hother
    · next hne => exact (List.mem_cons.mp (h.opened other hother)).resolve_left hne
  · intro other stop' hother
    rw [lookup_cons_eq] at hother
    split at hother
    · next heq =>
        obtain rfl : stop = stop' := by simpa using hother
        exact heq ▸ ⟨hsound, n, hleads⟩
    · exact h.resolved other stop' hother

/-- Names are followed to a place behind opened links, which are all different and lead on over at
least as many links. -/
structure Following (tree : FileTree) (current : Location) (opened : List Path)
    (seen : List (Path × Option Stop)) (here : Stop) (names : List String) (n : Nat)
    (place : Location) : Prop where
  sound : here.Sound current
  known : tree.Known current opened seen
  leads : tree.Leads n here.place names place
  distinct : (opened.map (Path.destination current)).Nodup
  behind : ∀ way ∈ opened, ∃ m stop, tree.LinkLeads m (way.destination current) stop ∧ n ≤ m

namespace Following

/-- Names may be followed on over no more links. -/
theorem move_on (h : tree.Following current opened seen here names n place)
    {seen' : List (Path × Option Stop)} (hknown : tree.Known current opened seen')
    (hsound : next.Sound current) (hleads : tree.Leads m next.place rest place) (hle : m ≤ n) :
    tree.Following current opened seen' next rest m place where
  sound := hsound
  known := hknown
  leads := hleads
  distinct := h.distinct
  behind way hway :=
    let ⟨k, stop, hstop, hn⟩ := h.behind way hway
    ⟨k, stop, hstop, Nat.le_trans hle hn⟩

/-- A link on the way of the names is none of the opened ones: it leads on over fewer links. -/
theorem ne_of_mem_opened (h : tree.Following current opened seen here (name :: rest) n place)
    (hname : Path.GoesDown name) (hlink : tree.link? (here.place ++ [name]) = some target) :
    ∀ way ∈ opened, way.destination current ≠ (here.way.child name).destination current := by
  intro way hway heq
  obtain ⟨first, second, stop, hstop, -, rfl⟩ := h.leads.exists_linkLeads hname hlink
  obtain ⟨m, stop', hstop', hm⟩ := h.behind way hway
  rw [heq, Path.destination_child hname, ← h.sound.place_eq] at hstop'
  have := (hstop.unique hstop').1
  omega

/-- A link on the way of the names may be opened. -/
theorem enter (h : tree.Following current opened seen here (name :: rest) n place)
    (hname : Path.GoesDown name) (hlink : tree.link? (here.place ++ [name]) = some target) :
    ∃ first second stop, first ≤ n ∧ second ≤ n ∧
      tree.LinkLeads first ((here.way.child name).destination current) stop ∧
      tree.Leads second stop rest place ∧
      tree.Following current (here.way.child name :: opened) ((here.way.child name, none) :: seen)
        (here.startOf target) (Path.segments target) first stop := by
  have hplace : here.place ++ [name] = (here.way.child name).destination current := by
    rw [Path.destination_child hname, h.sound.place_eq]
  have hnew := h.ne_of_mem_opened hname hlink
  obtain ⟨first, second, stop, hstop, hrest, rfl⟩ := h.leads.exists_linkLeads hname hlink
  obtain ⟨target', htarget, hbehind⟩ := id hstop
  obtain rfl : target = target' := by simpa [hlink] using htarget
  rw [List.dropLast_concat] at hbehind
  rw [hplace] at hstop
  refine ⟨first, second, stop, by omega, by omega, hstop, hrest, h.sound.startOf target,
    h.known.enter _, by rwa [Stop.place_startOf], ?_, ?_⟩
  · rw [List.map_cons, List.nodup_cons]
    refine ⟨fun hmem => ?_, h.distinct⟩
    obtain ⟨way, hway, heq⟩ := List.mem_map.mp hmem
    exact hnew way hway heq
  · intro way hway
    obtain rfl | hway := List.mem_cons.mp hway
    · exact ⟨first, stop, hstop, Nat.le_refl first⟩
    · obtain ⟨m, stop', hstop', hm⟩ := h.behind way hway
      exact ⟨m, stop', hstop', by omega⟩

/-- No more links are open than there are. -/
theorem length_opened_le (h : tree.Following current opened seen here names n place) :
    opened.length ≤ tree.linkCount := by
  rw [← List.length_map (Path.destination current)]
  refine length_le_linkCount h.distinct fun place hplace => ?_
  obtain ⟨way, hway, rfl⟩ := List.mem_map.mp hplace
  obtain ⟨m, stop, ⟨target, htarget, -⟩, -⟩ := h.behind way hway
  exact ⟨target, htarget⟩

end Following

/-! ## Resolving -/

/-- Resolving came to a place, and knows of the links met what it should. -/
structure Resolution.Reaches (tree : FileTree) (current : Location) (opened : List Path)
    (r : Resolution) (place : Location) : Prop where
  complete : r.complete = true
  place_eq : r.stop.place = place
  sound : r.stop.Sound current
  known : tree.Known current opened r.seen

/-- Resolving comes to where the names lead, if it does behind each link that it enters. -/
theorem resolveNames_reaches
    {enter : List (Path × Option Stop) → Stop → List String → Option Resolution}
    (henter : ∀ {way seen here names n place},
      tree.Following current (way :: opened) seen here names n place →
      ∃ inner, enter seen here names = some inner ∧
        inner.Reaches tree current (way :: opened) place)
    (h : tree.Following current opened seen here names n place) :
    (tree.resolveNames enter seen here names).Reaches tree current opened place := by
  induction names generalizing seen here n with
  | nil =>
      cases h.leads
      exact ⟨rfl, rfl, h.sound, h.known⟩
  | cons name rest ih =>
      have hleads := leads_cons_iff.mp h.leads
      rw [resolveNames]
      by_cases hstay : name = "" ∨ name = "."
      · rw [if_pos hstay] at hleads ⊢
        exact ih (h.move_on h.known h.sound hleads (Nat.le_refl n))
      · rw [if_neg hstay] at hleads ⊢
        by_cases hup : name = ".."
        · rw [if_pos hup] at hleads ⊢
          exact ih (h.move_on h.known h.sound.up hleads (Nat.le_refl n))
        · rw [if_neg hup] at hleads ⊢
          obtain ⟨hempty, hdot⟩ := not_or.mp hstay
          have hname : Path.GoesDown name := ⟨hempty, hdot, hup⟩
          dsimp only [Stop.down]
          cases hlink : tree.link? (here.place ++ [name]) with
          | none =>
              rw [hlink] at hleads
              exact ih (h.move_on h.known (h.sound.down hname) hleads (Nat.le_refl n))
          | some target =>
              obtain ⟨first, second, stop, hfirst, hsecond, hstop, hrest, hinside⟩ :=
                h.enter hname hlink
              dsimp only
              split
              · -- The link was followed before, and there is one stop it can lead to.
                next known hknown =>
                  obtain ⟨hsound, k, hleads⟩ := h.known.resolved _ _ hknown
                  obtain ⟨-, rfl⟩ := hstop.unique hleads
                  exact ih (h.move_on h.known hsound hrest hsecond)
              · -- The link would be met inside its own resolution.
                next hopen =>
                  exact absurd rfl (h.ne_of_mem_opened hname hlink _ (h.known.opened _ hopen))
              · obtain ⟨inner, hinner, hreaches⟩ := henter hinside
                obtain ⟨hcomplete, rfl, hsound, hknown⟩ := hreaches
                simp only [hinner, hcomplete, if_true]
                exact ih (h.move_on (hknown.leave hsound hstop) hsound hrest hsecond)

/-- Resolving comes to where the names lead, if the fuel is enough for the links not yet opened. -/
theorem resolveFrom_reaches {fuel : Nat} (hfuel : tree.linkCount ≤ fuel + opened.length)
    (h : tree.Following current opened seen here names n place) :
    (tree.resolveFrom fuel seen here names).Reaches tree current opened place := by
  induction fuel generalizing opened seen here names n place with
  | zero =>
      -- All links are open, so there is none to enter.
      refine resolveNames_reaches (fun {way} {_ _ _ _ _} hinside => ?_) h
      have hcount := hinside.length_opened_le
      rw [List.length_cons] at hcount
      omega
  | succ fuel ih =>
      refine resolveNames_reaches (fun hinside => ⟨_, rfl, ih ?_ hinside⟩) h
      rw [List.length_cons]
      omega

/-- Resolving a path stops where its names lead. -/
theorem stopOf_of_leads {p : Path} (h : tree.Leads n (p.origin current) p.names place) :
    (tree.stopOf current p).place = place ∧ (tree.stopOf current p).Sound current := by
  have hfuel : tree.linkCount ≤ tree.resolveFuel current + ([] : List Path).length := by
    rw [resolveFuel, List.length_nil, Nat.add_zero]
    exact Nat.le_mul_of_pos_right _ (Nat.succ_pos _)
  have hfollowing : tree.Following current [] []
      (if p.isAbsolute then Stop.atRoot else ⟨current, ⟨.relative, []⟩⟩) p.names n place := by
    have hplace : (if p.isAbsolute then Stop.atRoot else ⟨current, ⟨.relative, []⟩⟩).place =
        p.origin current := by
      unfold Path.origin
      split <;> rfl
    refine ⟨?_, ⟨by simp, by simp⟩, by rwa [hplace], List.nodup_nil, by simp⟩
    split
    · exact Stop.sound_atRoot current
    · exact Stop.sound_current current
  have hreaches := resolveFrom_reaches hfuel hfollowing
  exact ⟨hreaches.place_eq, hreaches.sound⟩

/-! ## Link-free places -/

/-- No link is on the way to the place, and each of its names is plain or lost. -/
structure IsLinkFree (tree : FileTree) (place : Location) : Prop where
  free : tree.FreeOfLinks [] place
  plain : ∀ name ∈ place, name = "" ∨ Path.IsName name ∧ name ≠ ".."

theorem isLinkFree_root (tree : FileTree) : tree.IsLinkFree [] :=
  ⟨fun n target => by simp [tree.isOpen_root.entryAt?_eq], by simp⟩

theorem IsLinkFree.origin (h : tree.IsLinkFree current) (p : Path) :
    tree.IsLinkFree (p.origin current) := by
  unfold Path.origin
  split
  · exact tree.isLinkFree_root
  · exact h

/-- A link-free place that is not lost is made of names that go down. -/
theorem IsLinkFree.isName (h : tree.IsLinkFree place) (hnamed : place.isLost = false) :
    ∀ name ∈ place, Path.IsName name ∧ name ≠ ".." := by
  intro name hname
  refine (h.plain name hname).resolve_left fun hempty => ?_
  have hlost : place.isLost = true := List.any_eq_true.mpr ⟨name, hname, by simpa using hempty⟩
  simp [hlost] at hnamed

theorem IsLinkFree.goesDown (h : tree.IsLinkFree place) (hnamed : place.isLost = false) :
    ∀ name ∈ place, Path.GoesDown name := fun name hname =>
  have hplain := h.isName hnamed name hname
  ⟨hplain.1.1, hplain.1.2.1, hplain.2⟩

/-- The names of the place that names lead to are names it was led to by: names of where they start,
names among them, or segments of links. -/
theorem Leads.forall_mem {P : String → Prop} {here : Location}
    (hlinks : ∀ {spot target}, tree.link? spot = some target →
      ∀ name ∈ Path.segments target, Path.GoesDown name → P name)
    (h : tree.Leads n here names place) (hhere : ∀ name ∈ here, P name)
    (hnames : ∀ name ∈ names, Path.GoesDown name → P name) : ∀ name ∈ place, P name := by
  have htail {name : String} {names : List String}
      (h : ∀ other ∈ name :: names, Path.GoesDown other → P other) :
      ∀ other ∈ names, Path.GoesDown other → P other :=
    fun other hother => h other (List.mem_cons_of_mem _ hother)
  induction h with
  | done => exact hhere
  | stay _ _ ih => exact ih hhere (htail hnames)
  | up _ ih =>
      exact ih (fun name h => hhere name ((List.dropLast_sublist _).subset h)) (htail hnames)
  | down hname _ _ ih =>
      refine ih (fun name h => ?_) (htail hnames)
      rcases List.mem_append.mp h with h | h
      · exact hhere name h
      · obtain rfl := List.mem_singleton.mp h
        exact hnames name List.mem_cons_self hname
  | @link n here _ target _ _ _ hlink _ ih =>
      refine ih ?_ fun name h hdown => ?_
      · rw [startOf]
        split
        · simp
        · exact hhere
      · rcases List.mem_append.mp h with h | h
        · exact hlinks hlink name h hdown
        · exact htail hnames name h hdown

/-- Where names lead from a link-free place is link-free. -/
theorem Leads.isLinkFree {here : Location} (h : tree.Leads n here names place)
    (hhere : tree.IsLinkFree here) (hnames : ∀ name ∈ names, '/' ∉ name.toList) :
    tree.IsLinkFree place :=
  ⟨h.freeOfLinks hhere.free, h.forall_mem
    (fun _ _ hname hdown =>
      .inr ⟨⟨hdown.1, hdown.2.1, Path.notMem_of_mem_segments hname⟩, hdown.2.2⟩)
    hhere.plain
    fun name hname hdown => .inr ⟨⟨hdown.1, hdown.2.1, hnames name hname⟩, hdown.2.2⟩⟩

/-- A stop is not lost, unless its way begins at a lost current directory. -/
theorem Stop.Sound.isLost_place {stop : Stop} (h : stop.Sound current)
    (hnamed : (current.isLost && !stop.way.isAbsolute) = false) : stop.place.isLost = false := by
  rw [Location.isLost, List.any_eq_false]
  intro name hname hempty
  replace hempty : name = "" := by simpa using hempty
  rw [h.place_eq, Path.destination] at hname
  rcases Location.mem_of_mem_follow hname with hstart | ⟨-, hdown⟩
  · unfold Path.origin at hstart
    split at hstart
    · cases hstart
    · next hrelative =>
        have hlost : current.isLost = true :=
          List.any_eq_true.mpr ⟨name, hstart, by simpa using hempty⟩
        simp [hlost, hrelative] at hnamed
  · exact hdown.1 hempty

/-! ## Expanding -/

/-- A link-free place is no link that loops. -/
theorem IsLinkFree.isLinkLoop_eq (h : tree.IsLinkFree place) (hnamed : place.isLost = false) :
    tree.isLinkLoop place = false := by
  obtain ⟨jump, hjump⟩ := walkFrom_eq_walkNames tree true linkBudget
  unfold isLinkLoop
  rw [hjump]
  split
  · next hloop => exact absurd hloop (walkNames_ne_tooManyLinks (h.goesDown hnamed) h.free)
  · rfl

/-- A path whose tilde is replaced expands to where its names lead, unless it holds a NUL or depends
on a current directory that is lost. -/
theorem expand_of_leads {environment : Bindings} {p q : Path}
    (hhome : p.expandHome environment = .ok q) (hcurrent : tree.IsLinkFree current)
    (hnames : ∀ name ∈ q.names, '/' ∉ name.toList)
    (hleads : tree.Leads n (q.origin current) q.names place) :
    tree.expand environment current p =
      if q.names.any Spelling.hasNul then .error .embeddedNul
      else if current.isLost && !(tree.stopOf current q).way.isAbsolute then
        .error (.system .noCurrentDirectory)
      else .ok place := by
  obtain ⟨hstop, hsound⟩ := stopOf_of_leads hleads
  have hfree := hleads.isLinkFree (hcurrent.origin q) hnames
  unfold expand
  rw [hhome]
  dsimp only
  split
  · rfl
  · split
    · rfl
    · next hnamed =>
        have hplace := hsound.isLost_place (Bool.eq_false_of_not_eq_true hnamed)
        rw [hstop] at hplace
        have hresolve : tree.resolve current q = place := by
          rw [resolve, hstop, Location.follow_of_goesDown (hfree.goesDown hplace), List.nil_append]
        rw [hresolve, hfree.isLinkLoop_eq hplace]
        rfl

/-- A path that expands to where its names lead expands to a link-free place with a name. -/
theorem isLinkFree_of_expand {environment : Bindings} {p q : Path} {resolved : Location}
    (hhome : p.expandHome environment = .ok q) (hcurrent : tree.IsLinkFree current)
    (hnames : ∀ name ∈ q.names, '/' ∉ name.toList)
    (hleads : tree.Leads n (q.origin current) q.names place)
    (hexpand : tree.expand environment current p = .ok resolved) :
    resolved = place ∧ q.names.any Spelling.hasNul = false ∧ tree.IsLinkFree place ∧
      place.isLost = false := by
  obtain ⟨hstop, hsound⟩ := stopOf_of_leads hleads
  rw [expand_of_leads hhome hcurrent hnames hleads] at hexpand
  split at hexpand
  · cases hexpand
  · next hnul =>
      split at hexpand
      · cases hexpand
      · next hnamed =>
          refine ⟨(Except.ok.inj hexpand).symm, Bool.eq_false_of_not_eq_true hnul,
            hleads.isLinkFree (hcurrent.origin q) hnames, ?_⟩
          rw [← hstop]
          exact hsound.isLost_place (Bool.eq_false_of_not_eq_true hnamed)

/-- Names without a link on the way are resolved by putting them behind. -/
theorem resolveNames_of_free
    {enter : List (Path × Option Stop) → Stop → List String → Option Resolution}
    (hnames : ∀ name ∈ names, Path.GoesDown name) (hfree : tree.FreeOfLinks here.place names) :
    tree.resolveNames enter seen here names =
      ⟨⟨here.place ++ names, { here.way with names := here.way.names ++ names }⟩, true, seen⟩ := by
  induction names generalizing here with
  | nil => simp [resolveNames]
  | cons name rest ih =>
      obtain ⟨hempty, hdot, hup⟩ := hnames name List.mem_cons_self
      obtain ⟨hplain, hrest⟩ := hfree.cons
      rw [resolveNames, if_neg (not_or.mpr ⟨hempty, hdot⟩), if_neg hup]
      dsimp only [Stop.down]
      rw [hplain]
      dsimp only
      rw [ih (fun name h => hnames name (List.mem_cons_of_mem _ h)) hrest]
      simp [Path.child]

/-- The path of a link-free place with a name expands to the place. -/
theorem IsLinkFree.expand_ofLocation (h : tree.IsLinkFree place) (hnamed : place.isLost = false)
    (hnul : place.any Spelling.hasNul = false) (environment : Bindings) (current : Location) :
    tree.expand environment current (Path.ofLocation place) = .ok place := by
  obtain ⟨enter, henter⟩ : ∃ enter, tree.resolveFrom (tree.resolveFuel current) =
      tree.resolveNames enter := by
    cases tree.resolveFuel current with
    | zero => exact ⟨_, rfl⟩
    | succ fuel => exact ⟨_, rfl⟩
  have hstop : tree.stopOf current (Path.ofLocation place) = ⟨place, Path.ofLocation place⟩ := by
    have hresolved : tree.resolveNames enter [] Stop.atRoot place =
        ⟨⟨place, Path.ofLocation place⟩, true, []⟩ :=
      resolveNames_of_free (h.goesDown hnamed) h.free
    rw [stopOf, henter]
    exact congrArg Resolution.stop hresolved
  have hresolve : tree.resolve current (Path.ofLocation place) = place := by
    rw [resolve, hstop, Location.follow_of_goesDown (h.goesDown hnamed), List.nil_append]
  have hhome : (Path.ofLocation place).expandHome environment = .ok (Path.ofLocation place) := rfl
  have habsolute : (Path.ofLocation place).isAbsolute = true := rfl
  have hnames : (Path.ofLocation place).names.any Spelling.hasNul = false := hnul
  unfold expand
  rw [hhome]
  dsimp only
  rw [hresolve, h.isLinkLoop_eq hnamed, hstop, hnames, habsolute]
  simp

end FileTree

end FormatLauncher
