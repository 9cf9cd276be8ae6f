/-
# The text of a path

The names of a path that was read hold no slash and are neither empty nor a single dot.  So writing
them with slashes between them loses nothing: the steps of the text are the names again, and the
text starts with a slash exactly when the path is absolute.  A path that starts with a tilde has no
place without a home, and a current directory has no name once it was removed.
-/

import FormatLauncher.Path.Home

namespace FormatLauncher

namespace Path

/-- A name that reading a spelling can give. -/
def IsName (name : String) : Prop := name ≠ "" ∧ name ≠ "." ∧ '/' ∉ name.toList

theorem segmentChars_eq (text : List Char) : segmentChars text = text.splitOn '/' := by
  induction text with
  | nil => simp [segmentChars]
  | cons c text ih =>
      rw [List.splitOn_cons_eq_if_modifyHead]
      by_cases hc : c = '/'
      · simp [hc, segmentChars, ih]
      · have hne := List.splitOn_ne_nil '/' text
        cases hsplit : text.splitOn '/' with
        | nil => exact absurd hsplit hne
        | cons segment segments => simp [segmentChars, hc, ih, hsplit]

theorem notMem_of_mem_segmentChars {text segment : List Char}
    (h : segment ∈ segmentChars text) : '/' ∉ segment := by
  induction text generalizing segment with
  | nil => simp_all [segmentChars]
  | cons c text ih =>
      by_cases hc : c = '/'
      · subst hc
        obtain rfl | hrest : segment = [] ∨ segment ∈ segmentChars text := by
          simpa [segmentChars] using h
        · simp
        · exact ih hrest
      · cases hsegments : segmentChars text with
        | nil =>
            obtain rfl : segment = [c] := by simpa [segmentChars, hc, hsegments] using h
            simpa using Ne.symm hc
        | cons first segments =>
            obtain rfl | hrest : segment = c :: first ∨ segment ∈ segments := by
              simpa [segmentChars, hc, hsegments] using h
            · simpa [Ne.symm hc] using ih (by simp [hsegments])
            · exact ih (by simp [hsegments, hrest])

/-- A segment is made of characters of the text. -/
theorem mem_of_mem_segmentChars {text segment : List Char} {c : Char}
    (h : segment ∈ segmentChars text) (hc : c ∈ segment) : c ∈ text := by
  induction text generalizing segment with
  | nil => simp_all [segmentChars]
  | cons first text ih =>
      by_cases hfirst : first = '/'
      · subst hfirst
        obtain rfl | hrest : segment = [] ∨ segment ∈ segmentChars text := by
          simpa [segmentChars] using h
        · simp at hc
        · exact List.mem_cons_of_mem _ (ih hrest hc)
      · cases hsegments : segmentChars text with
        | nil =>
            obtain rfl : segment = [first] := by simpa [segmentChars, hfirst, hsegments] using h
            simpa using .inl (List.mem_singleton.mp hc)
        | cons head segments =>
            obtain rfl | hrest : segment = first :: head ∨ segment ∈ segments := by
              simpa [segmentChars, hfirst, hsegments] using h
            · obtain rfl | hc := List.mem_cons.mp hc
              · exact List.mem_cons_self
              · exact List.mem_cons_of_mem _ (ih (by simp [hsegments]) hc)
            · exact List.mem_cons_of_mem _ (ih (by simp [hsegments, hrest]) hc)

/-- No segment of a text without a NUL holds one. -/
theorem hasNul_of_mem_segments {spelling name : String} (h : name ∈ segments spelling)
    (hnul : Spelling.hasNul spelling = false) : Spelling.hasNul name = false := by
  obtain ⟨segment, hsegment, rfl⟩ := List.mem_map.mp h
  simp only [Spelling.hasNul, String.toList_ofList, List.contains_eq_mem,
    decide_eq_false_iff_not] at hnul ⊢
  exact fun hmem => hnul (mem_of_mem_segmentChars hsegment hmem)

/-- A segment holds no slash. -/
theorem notMem_of_mem_segments {spelling name : String} (h : name ∈ segments spelling) :
    '/' ∉ name.toList := by
  obtain ⟨segment, hsegment, rfl⟩ := List.mem_map.mp h
  rw [String.toList_ofList]
  exact notMem_of_mem_segmentChars hsegment

theorem isName_of_mem_parse {spelling name : String} (h : name ∈ (parse spelling).names) :
    IsName name := by
  simp only [parse, List.mem_filter, Bool.and_eq_true, decide_eq_true_eq, ne_eq] at h
  exact ⟨h.2.1, h.2.2, notMem_of_mem_segments h.1⟩

/-- Cutting at slashes undoes joining with slashes. -/
theorem segments_intercalate {names : List String} (hnames : ∀ name ∈ names, '/' ∉ name.toList)
    (hne : names ≠ []) : segments ("/".intercalate names) = names := by
  rw [segments, segmentChars_eq, String.toList_intercalate,
    show "/".toList = ['/'] from rfl, List.splitOn_intercalate]
  · simp [Function.comp_def]
  · simpa using hnames
  · simpa using hne

theorem segments_slash_append (text : String) : segments ("/" ++ text) = "" :: segments text := by
  simp [segments, segmentChars]

theorem segments_doubleSlash_append (text : String) :
    segments ("//" ++ text) = "" :: "" :: segments text := by
  simp [segments, segmentChars]

/-- A spelling is relative when it does not start with a slash. -/
theorem rootOf_eq_relative_iff (spelling : String) :
    rootOf spelling = .relative ↔ spelling.toList.head? ≠ some '/' := by
  rw [rootOf]
  cases hchars : spelling.toList with
  | nil => simp
  | cons c rest => split <;> simp_all

/-- In front of what does not start with a slash a root is read as it was written. -/
theorem rootOf_append {root : PathRoot} {rest : String} (hrest : rest.toList.head? ≠ some '/') :
    rootOf (rootText root ++ rest) = root := by
  unfold rootOf
  cases hchars : rest.toList with
  | nil => cases root <;> simp [rootText, hchars]
  | cons c chars =>
      have hc : c ≠ '/' := by simpa [hchars] using hrest
      cases root <;> simp [rootText, hchars, hc]

theorem text_ne_empty (p : Path) : p.text ≠ "" := by
  unfold text
  dsimp only
  split
  · decide
  · assumption

/-- Empty segments in front of names are no steps. -/
theorem steps_of_segments {spelling : String} (blanks : List String) {names : List String}
    (hsegments : segments spelling = blanks ++ names) (hblanks : ∀ blank ∈ blanks, blank = "")
    (hempty : names ≠ []) (hnames : ∀ name ∈ names, name ≠ "") :
    FileTree.steps spelling = names := by
  have hfirst : blanks.filter (· ≠ "") = [] := by
    simpa using hblanks
  have hrest : names.filter (· ≠ "") = names :=
    List.filter_eq_self.mpr fun name h => by simpa using hnames name h
  have hlast : (blanks ++ names).getLast? ≠ some "" := by
    rw [List.getLast?_append]
    cases hlast : names.getLast? with
    | none => exact absurd (List.getLast?_eq_none_iff.mp hlast) hempty
    | some last =>
        have hne := hnames last (List.mem_of_getLast? hlast)
        simpa using hne
  simp only [FileTree.steps, hsegments, List.filter_append, hfirst, hrest, hlast, if_false,
    List.nil_append, List.append_nil]

section Text

variable {p : Path} (hnames : ∀ name ∈ p.names, IsName name)

include hnames

/-- Names that are joined with slashes are nothing only if there are none. -/
theorem intercalate_eq_empty_iff : "/".intercalate p.names = "" ↔ p.names = [] := by
  constructor
  · intro hempty
    cases hp : p.names with
    | nil => rfl
    | cons name rest =>
        have hsegments := segments_intercalate (fun name h => (hnames name h).2.2)
          (by simp [hp] : p.names ≠ [])
        rw [hempty, hp] at hsegments
        have hname : "" = name := (List.cons.inj hsegments).1
        exact absurd hname.symm (hnames name (by simp [hp])).1
  · intro hempty
    simp [hempty]

/-- The steps of the text of a path are its names; without names it is a single dot. -/
theorem steps_text : FileTree.steps p.text = if p.names = [] then ["."] else p.names := by
  rcases p with ⟨root, names⟩
  by_cases hempty : names = []
  · subst hempty
    cases root <;> decide
  · have hplain : segments ("/".intercalate names) = names :=
      segments_intercalate (fun name h => (hnames name h).2.2) hempty
    have hwritten := mt (intercalate_eq_empty_iff hnames).mp hempty
    have hne : ∀ name ∈ names, name ≠ "" := fun name h => (hnames name h).1
    rw [if_neg hempty]
    cases root with
    | relative =>
        exact steps_of_segments [] (by simp [text, rootText, hwritten, hplain]) (by simp) hempty hne
    | slash =>
        exact steps_of_segments [""] (by simp [text, rootText, segments_slash_append, hplain])
          (by simp) hempty hne
    | doubleSlash =>
        exact steps_of_segments ["", ""]
          (by simp [text, rootText, segments_doubleSlash_append, hplain]) (by simp) hempty hne

/-- No name holds a NUL if the text holds none. -/
theorem any_hasNul_of_text (hnul : Spelling.hasNul p.text = false) :
    p.names.any Spelling.hasNul = false := by
  rw [List.any_eq_false]
  intro name hname
  have hmem : name ∈ FileTree.steps p.text := by
    rw [steps_text hnames, if_neg (List.ne_nil_of_mem hname)]
    exact hname
  have hdot : Spelling.hasNul "." = false := by decide
  rcases List.mem_append.mp hmem with hsegment | hlast
  · rw [hasNul_of_mem_segments (List.mem_filter.mp hsegment).1 hnul]
    decide
  · split at hlast
    · rw [List.mem_singleton.mp hlast, hdot]
      decide
    · cases hlast

/-- Names that are joined with slashes do not start with one. -/
theorem head?_intercalate_ne : ("/".intercalate p.names).toList.head? ≠ some '/' := by
  cases hp : p.names with
  | nil => simp
  | cons name rest =>
      have hname := hnames name (by simp [hp])
      cases hchars : name.toList with
      | nil => exact absurd (String.toList_eq_nil_iff.mp hchars) hname.1
      | cons c chars =>
          have hc : c ≠ '/' := by
            rintro rfl
            exact hname.2.2 (by simp [hchars])
          cases rest <;> simp [hchars, hc]

/-- Reading the text of a path gives the path. -/
theorem parse_text : parse p.text = p := by
  rcases p with ⟨root, names⟩
  by_cases hempty : names = []
  · subst hempty
    cases root <;> decide
  · have hwritten := mt (intercalate_eq_empty_iff hnames).mp hempty
    have htext : text ⟨root, names⟩ = rootText root ++ "/".intercalate names := by
      simp [text, hwritten]
    have hkept : ∀ name ∈ names, ¬name = "" ∧ ¬name = "." :=
      fun name hname => ⟨(hnames name hname).1, (hnames name hname).2.1⟩
    have hplain : segments ("/".intercalate names) = names :=
      segments_intercalate (fun name h => (hnames name h).2.2) hempty
    rw [parse, htext, rootOf_append (head?_intercalate_ne hnames)]
    cases root with
    | relative => simpa [rootText, hplain] using hkept
    | slash => simpa [rootText, segments_slash_append, hplain] using hkept
    | doubleSlash => simpa [rootText, segments_doubleSlash_append, hplain] using hkept

/-- Reading the text of a path gives an absolute path exactly if it was one. -/
theorem isAbsolute_parse_text : (parse p.text).isAbsolute = p.isAbsolute := by
  rw [parse_text hnames]

end Text

theorem parse_text_parse (spelling : String) : parse (parse spelling).text = parse spelling :=
  parse_text fun _ hname => isName_of_mem_parse hname

/-! ## The home directory -/

/-- The path starts from a home directory that is not known. -/
def Homeless (environment : Bindings) (p : Path) : Prop :=
  ∃ name rest, p.root = .relative ∧ p.names = name :: rest ∧ name.toList.head? = some '~' ∧
    ∀ home, homeFor? environment name = some home → home.toList.head? = some '~'

/-- A tilde fails exactly for a home that is not known. -/
theorem expandHome_eq_error_iff {environment : Bindings} {p : Path} {failure : Failure} :
    p.expandHome environment = .error failure ↔
      failure = .homeUnknown ∧ p.Homeless environment := by
  rcases p with ⟨root, names⟩
  unfold expandHome Homeless
  rcases root with _ | _ | _
  · rcases names with _ | ⟨name, rest⟩
    · simp
    · by_cases htilde : name.toList.head? = some '~'
      · cases hhome : homeFor? environment name with
        | none => simp [htilde, hhome, eq_comm]
        | some home =>
            by_cases hagain : home.toList.head? = some '~'
            · simp [htilde, hhome, hagain, eq_comm]
            · simp [htilde, hhome, hagain]
      · simp [htilde]
  · simp
  · simp

/-- The first name of the path starts with a tilde. -/
def StartsAtHome (p : Path) : Prop :=
  p.root = .relative ∧ ∃ name ∈ p.names.head?, name.toList.head? = some '~'

/-- A path that does not start with a tilde stays as it is. -/
theorem expandHome_of_not_startsAtHome {environment : Bindings} {p : Path} (h : ¬p.StartsAtHome) :
    p.expandHome environment = .ok p := by
  rcases p with ⟨root, names⟩
  unfold expandHome
  rcases root with _ | _ | _
  · rcases names with _ | ⟨name, rest⟩
    · rfl
    · have htilde : name.toList.head? ≠ some '~' := fun htilde => h ⟨rfl, name, rfl, htilde⟩
      simp [htilde]
  · rfl
  · rfl

/-- Replacing a tilde gives names again. -/
theorem isName_of_expandHome {environment : Bindings} {p q : Path}
    (hnames : ∀ name ∈ p.names, IsName name) (h : p.expandHome environment = .ok q) :
    ∀ name ∈ q.names, IsName name := by
  unfold expandHome at h
  split at h
  · next first rest _ hfirst =>
      split at h
      · obtain rfl := Except.ok.inj h
        exact hnames
      · split at h
        · cases h
        · split at h
          · cases h
          · obtain rfl := Except.ok.inj h
            intro name hname
            obtain hhome | hrest := List.mem_append.mp hname
            · exact isName_of_mem_parse hhome
            · exact hnames name (by rw [hfirst]; exact List.mem_cons_of_mem _ hrest)
  · obtain rfl := Except.ok.inj h
    exact hnames

end Path

/-- A current directory has no name exactly if it was removed. -/
theorem Location.named_eq_error_iff {current : Location} {failure : Failure} :
    current.named = .error failure ↔
      failure = .system .noCurrentDirectory ∧ current.isLost = true := by
  unfold named
  split <;> simp [*, eq_comm]

end FormatLauncher
